import TimingFeed.Proofs.Text.Numeral
import TimingFeed.Toml.Number

/-!
# Integers are read back

Main statement: `number?_toString`. An integer in range is read back at the end of its line.

Digits may also begin a date, a time or a number with a fraction, and these are tried before. None
of them goes on with the end of a line (`char?_of_fixedDigits?`, `IsNumeral.float?`). A leading zero
would end the number or announce another base; `IsNumeral` says that there is none.
-/

namespace TimingFeed.Toml

open Text (digitsValue)

/-- Digits of a number as it is written: without leading zeros. -/
structure IsNumeral (ds : List Char) (n : Nat) : Prop where
  nonempty : ds ≠ []
  areDigits : ∀ c ∈ ds, c.isDigit = true
  eq_zero : ∀ t, ds = '0' :: t → t = []
  value : digitsValue ds = n

/-- No positive number begins with a zero. -/
theorem head_toDigits {n : Nat} (hn : 0 < n) : ∀ c ∈ (Nat.toDigits 10 n).head?, c ≠ '0' := by
  induction n using Nat.strongRecOn with
  | ind n ih =>
    by_cases hlt : n < 10
    · have hdigit : ∀ n < 10, 0 < n → Nat.digitChar n ≠ '0' := by decide
      rw [Nat.toDigits_of_lt_base hlt]
      rintro c ⟨⟩
      exact hdigit n hlt hn
    · have hle : 10 ≤ n := Nat.le_of_not_lt hlt
      rw [Nat.toDigits_of_base_le (by decide) hle, List.head?_append,
        Option.or_of_isSome (by simp [Nat.toDigits_ne_nil])]
      exact ih (n / 10) (by omega) (by omega)

theorem isNumeral_toDigits (n : Nat) : IsNumeral (Nat.toDigits 10 n) n where
  nonempty := Nat.toDigits_ne_nil
  areDigits _ := Nat.isDigit_of_mem_toDigits (by decide) (by decide)
  eq_zero t ht := by
    obtain rfl | hn := Nat.eq_zero_or_pos n
    · simpa using ht.symm
    · exact absurd rfl (head_toDigits hn '0' (by rw [ht]; rfl))
  value := Nat.ofDigitChars_toDigits (by decide) (by decide)

/-- The minus sign of a negative number. -/
def minus (negative : Bool) : List Char := if negative then ['-'] else []

/-- An integer is written as a numeral with a minus sign or without. -/
theorem exists_numeral (n : Int) : ∃ negative ds m, (toString n).toList = minus negative ++ ds ∧
    IsNumeral ds m ∧ Text.signed negative m = n := by
  cases n with
  | ofNat n => exact ⟨false, _, n, by simp [minus, toString, Int.repr], isNumeral_toDigits n, rfl⟩
  | negSucc n =>
    exact ⟨true, _, n + 1, by simp [minus, toString, Int.repr], isNumeral_toDigits (n + 1), rfl⟩

variable {ds rest : List Char} {n : Nat}

theorem moreDigits_append (h : ∀ c ∈ ds, c.isDigit = true) :
    moreDigits Char.isDigit (ds ++ '\n' :: rest) = (ds, '\n' :: rest) := by
  induction ds with
  | nil => simp [moreDigits]
  | cons c ds ih =>
    rw [List.forall_mem_cons] at h
    have hc : c ≠ '_' := fun hc => absurd (hc ▸ h.1) (by decide)
    rw [List.cons_append, moreDigits.eq_def]
    split <;> simp_all

namespace IsNumeral

variable (h : IsNumeral ds n)
include h

theorem exists_cons : ∃ d ds', ds = d :: ds' ∧ d.isDigit = true := by
  obtain ⟨d, ds', rfl⟩ := List.exists_cons_of_ne_nil h.nonempty
  exact ⟨d, ds', rfl, h.areDigits d List.mem_cons_self⟩

theorem wholePart? : wholePart? (ds ++ '\n' :: rest) = some (ds, '\n' :: rest) := by
  obtain ⟨d, ds', rfl, hd⟩ := h.exists_cons
  by_cases hzero : d = '0'
  · subst hzero
    rw [h.eq_zero ds' rfl]
    rfl
  · have hds := h.areDigits
    rw [List.forall_mem_cons] at hds
    rw [List.cons_append]
    simp [Toml.wholePart?, hzero, digits?, hd, moreDigits_append hds.2]

theorem sign (negative : Bool) :
    Text.sign (minus negative ++ (ds ++ rest)) = (negative, ds ++ rest) := by
  obtain ⟨d, ds', rfl, hd⟩ := h.exists_cons
  cases negative with
  | false =>
    have hminus : d ≠ '-' := fun hc => absurd (hc ▸ hd) (by decide)
    have hplus : d ≠ '+' := fun hc => absurd (hc ▸ hd) (by decide)
    simp [minus, Text.sign, hminus, hplus]
  | true => rfl

/-- A numeral announces no other base. -/
theorem ne_prefix (negative : Bool) {c : Char} (hc : c ≠ '\n') (t : List Char) :
    minus negative ++ (ds ++ '\n' :: rest) ≠ '0' :: c :: t := by
  intro heq
  obtain ⟨d, ds', rfl, -⟩ := h.exists_cons
  cases negative with
  | true => simp [minus] at heq
  | false =>
    simp only [minus, Bool.false_eq_true, if_false, List.nil_append, List.cons_append,
      List.cons.injEq] at heq
    obtain ⟨rfl, heq⟩ := heq
    rw [h.eq_zero ds' rfl] at heq
    exact hc (List.cons.inj heq).1.symm

theorem integer? (negative : Bool) (hrange : inRange (Text.signed negative n) = true) :
    integer? (minus negative ++ (ds ++ '\n' :: rest)) =
      some (Text.signed negative n, '\n' :: rest) := by
  unfold Toml.integer?
  split
  case h_1 heq => exact absurd heq (h.ne_prefix negative (by decide) _)
  case h_2 heq => exact absurd heq (h.ne_prefix negative (by decide) _)
  case h_3 heq => exact absurd heq (h.ne_prefix negative (by decide) _)
  case h_4 =>
    unfold Text.signed at hrange ⊢
    simp [h.sign negative, h.wholePart?, h.value, hrange]

theorem float? (negative : Bool) : float? (minus negative ++ (ds ++ '\n' :: rest)) = none := by
  simp [Toml.float?, h.sign negative, h.wholePart?, fraction?, exponent?]

end IsNumeral

/-! ### Dates and times -/

/-- After digits comes a digit or the end of the line, and so no mark of a date or a time. -/
theorem char?_of_fixedDigits? {width low high m : Nat} {t : List Char} {c : Char}
    (hdigits : ∀ d ∈ ds, d.isDigit = true)
    (h : fixedDigits? width low high (ds ++ '\n' :: rest) = some (m, t)) (hc : c.isDigit = false)
    (hnewline : c ≠ '\n') : char? c t = none := by
  simp only [fixedDigits?] at h
  split_ifs at h with hfixed
  obtain ⟨hlength, hall, -⟩ := hfixed
  cases h
  have hwidth : width ≤ ds.length := by
    by_contra hlt
    obtain ⟨k, rfl⟩ := Nat.exists_eq_add_of_lt (Nat.not_le.1 hlt)
    rw [Nat.add_assoc, List.take_length_add_append, List.take_succ_cons, List.all_append] at hall
    exact absurd hall (by simp)
  rw [List.drop_append_of_le_length hwidth]
  cases hd : ds.drop width with
  | nil => simp [char?, hnewline.symm]
  | cons d ds' =>
    have := hdigits d (List.mem_of_mem_drop (hd ▸ List.mem_cons_self))
    have hd : d ≠ c := by rintro rfl; simp_all
    simp [char?, hd]

theorem date?_eq_none (hdigits : ∀ d ∈ ds, d.isDigit = true) :
    date? (ds ++ '\n' :: rest) = none := by
  unfold date?
  cases h : fixedDigits? 4 0 9999 (ds ++ '\n' :: rest) with
  | none => rfl
  | some p => simp [bind, char?_of_fixedDigits? hdigits h (c := '-') rfl (by decide)]

theorem time?_eq_none (hdigits : ∀ d ∈ ds, d.isDigit = true) :
    time? (ds ++ '\n' :: rest) = none := by
  unfold time?
  cases h : fixedDigits? 2 0 23 (ds ++ '\n' :: rest) with
  | none => rfl
  | some p => simp [bind, char?_of_fixedDigits? hdigits h (c := ':') rfl (by decide)]

theorem dateTime?_eq_none (negative : Bool) (hdigits : ∀ d ∈ ds, d.isDigit = true) :
    dateTime? (minus negative ++ (ds ++ '\n' :: rest)) = none := by
  cases negative with
  | true => simp [minus, dateTime?, date?, time?, fixedDigits?]
  | false =>
    rw [minus, dateTime?]
    simp [date?_eq_none hdigits, time?_eq_none hdigits]

/-! ### Integers -/

theorem toString_eq_cons (n : Int) :
    ∃ c t, (toString n).toList = c :: t ∧ (c = '-' ∨ c.isDigit = true) := by
  obtain ⟨negative, ds, m, htext, hds, -⟩ := exists_numeral n
  obtain ⟨d, ds', rfl, hd⟩ := hds.exists_cons
  cases negative with
  | true => exact ⟨'-', d :: ds', htext, .inl rfl⟩
  | false => exact ⟨d, ds', htext, .inr hd⟩

/-- **An integer is read back** at the end of its line. -/
theorem number?_toString {n : Int} (hn : inRange n = true) (rest : List Char) :
    number? ((toString n).toList ++ '\n' :: rest) = some (.integer n, '\n' :: rest) := by
  obtain ⟨negative, ds, m, htext, hds, rfl⟩ := exists_numeral n
  rw [htext, List.append_assoc, number?, dateTime?_eq_none negative hds.areDigits]
  simp only [hds.float? negative, hds.integer? negative hn, Option.map_some]

end TimingFeed.Toml
