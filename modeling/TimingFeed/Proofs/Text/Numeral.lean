import Mathlib.Data.List.Induction
import Mathlib.Data.List.TakeWhile
import Mathlib.Data.Nat.Digits.Defs
import TimingFeed.Text.Blank
import TimingFeed.Text.Hex
import TimingFeed.Text.Integer

/-!
# Numbers in text

Which texts are read as numbers, said without the reader.

* `Denotes text n` says that a text stands for a number: digits, with an optional plus sign before
  them and white space around both. `readUnsigned_trim_eq_some_iff`: reading finds exactly these
  numbers, up to the bound.
* `digitsValue_eq_ofDigits`: the number of some digits is their sum with the powers of ten.
* `hexNumber?_hexFixed`: hexadecimal digits of fixed width stand for the number they are made from,
  as far as it fits, and `codePoint?_hexFixed`: for the character with this number.
-/

namespace TimingFeed.Text

/-! ### White space -/

section Trim

variable {s before middle after : List Char}

/-- Trimming takes white space off both ends. -/
theorem exists_trim (s : List Char) :
    ∃ before after, s = before ++ trim s ++ after ∧
      (∀ c ∈ before, isBlank c = true) ∧ ∀ c ∈ after, isBlank c = true := by
  refine ⟨s.takeWhile isBlank, ((trimStart s).reverse.takeWhile isBlank).reverse, ?_,
    fun c => List.mem_takeWhile_imp, fun c hc => List.mem_takeWhile_imp (List.mem_reverse.1 hc)⟩
  have hend : trim s ++ ((trimStart s).reverse.takeWhile isBlank).reverse = trimStart s := by
    rw [trim, trimStart, ← List.reverse_append, List.takeWhile_append_dropWhile,
      List.reverse_reverse]
  rw [List.append_assoc, hend, trimStart, List.takeWhile_append_dropWhile]

theorem trimStart_append (hbefore : ∀ c ∈ before, isBlank c = true)
    (hfirst : ∀ c ∈ middle.head?, isBlank c = false) (hmiddle : middle ≠ []) :
    trimStart (before ++ middle) = middle := by
  rw [trimStart, List.dropWhile_append_of_pos hbefore]
  obtain ⟨c, rest, rfl⟩ := List.exists_cons_of_ne_nil hmiddle
  exact List.dropWhile_cons_of_neg (by simp [hfirst c rfl])

/-- And nothing else. -/
theorem trim_append (hbefore : ∀ c ∈ before, isBlank c = true)
    (hafter : ∀ c ∈ after, isBlank c = true) (hfirst : ∀ c ∈ middle.head?, isBlank c = false)
    (hlast : ∀ c ∈ middle.getLast?, isBlank c = false) (hmiddle : middle ≠ []) :
    trim (before ++ middle ++ after) = middle := by
  have hstart : trimStart (before ++ (middle ++ after)) = middle ++ after :=
    trimStart_append hbefore
      (by rwa [List.head?_append, Option.or_of_isSome (by simpa using hmiddle)])
      (List.append_ne_nil_of_left_ne_nil hmiddle _)
  rw [trim, List.append_assoc, hstart, List.reverse_append,
    trimStart_append (by simpa using hafter) (by simpa using hlast) (by simpa using hmiddle),
    List.reverse_reverse]

end Trim

/-! ### Digits -/

theorem digitsValue_append (ds : List Char) (c : Char) :
    digitsValue (ds ++ [c]) = 10 * digitsValue ds + digitValue c := by
  simp [digitsValue]

theorem digitsValue_eq_ofDigits (ds : List Char) :
    digitsValue ds = Nat.ofDigits 10 (ds.reverse.map digitValue) := by
  induction ds using List.reverseRecOn with
  | nil => rfl
  | append_singleton ds c ih =>
    rw [digitsValue_append, ih, List.reverse_append]
    simp [Nat.ofDigits_cons, add_comm]

theorem isDigit_iff {c : Char} : c.isDigit = true ↔ 48 ≤ c.toNat ∧ c.toNat ≤ 57 := by
  simp [Char.isDigit, UInt32.le_iff_toNat_le]

/-- A digit is no white space. -/
theorem isBlank_of_isDigit {c : Char} (h : c.isDigit = true) : isBlank c = false := by
  rw [isDigit_iff] at h
  simp only [isBlank, Bool.or_eq_false_iff, Bool.and_eq_false_iff, decide_eq_false_iff_not]
  omega

/-! ### Numbers -/

/-- A text that stands for a number: one or more digits, with an optional plus sign before them
and white space around both. -/
inductive Denotes : List Char → Nat → Prop
  | intro {before sign digits after : List Char} (blankBefore : ∀ c ∈ before, isBlank c = true)
      (isSign : sign = [] ∨ sign = ['+']) (nonempty : digits ≠ [])
      (areDigits : ∀ c ∈ digits, c.isDigit = true) (blankAfter : ∀ c ∈ after, isBlank c = true) :
      Denotes (before ++ (sign ++ digits) ++ after)
        (Nat.ofDigits 10 (digits.reverse.map digitValue))

/-- The plus sign is not looked for again. -/
theorem afterPlus_append {sign digits : List Char} (isSign : sign = [] ∨ sign = ['+'])
    (areDigits : ∀ c ∈ digits, c.isDigit = true) : afterPlus (sign ++ digits) = digits := by
  obtain rfl | rfl := isSign
  · unfold afterPlus
    split
    · next rest heq =>
      have hplus := areDigits '+' (by rw [← List.nil_append digits, heq]; exact List.mem_cons_self)
      exact absurd hplus (by decide)
    · rfl
  · rfl

theorem exists_sign (s : List Char) :
    ∃ sign, (sign = [] ∨ sign = ['+']) ∧ s = sign ++ afterPlus s := by
  unfold afterPlus
  split
  · exact ⟨['+'], .inr rfl, rfl⟩
  · exact ⟨[], .inl rfl, rfl⟩

/-- A number without white space around it is not changed by trimming. -/
theorem trim_numeral {before sign digits after : List Char}
    (blankBefore : ∀ c ∈ before, isBlank c = true) (isSign : sign = [] ∨ sign = ['+'])
    (nonempty : digits ≠ []) (areDigits : ∀ c ∈ digits, c.isDigit = true)
    (blankAfter : ∀ c ∈ after, isBlank c = true) :
    trim (before ++ (sign ++ digits) ++ after) = sign ++ digits := by
  have hdigits : ∀ c ∈ digits, isBlank c = false := fun c hc => isBlank_of_isDigit (areDigits c hc)
  have hall : ∀ c ∈ sign ++ digits, isBlank c = false := by
    obtain rfl | rfl := isSign
    · exact hdigits
    · exact List.forall_mem_cons.2 ⟨by decide, hdigits⟩
  exact trim_append blankBefore blankAfter (fun c hc => hall c (List.mem_of_mem_head? hc))
    (fun c hc => hall c (List.mem_of_mem_getLast? hc))
    (List.append_ne_nil_of_right_ne_nil _ nonempty)

/-- **Reading a setting finds the number that its text stands for**, if it is not too large. -/
theorem readUnsigned_trim_eq_some_iff {max n : Nat} {s : List Char} :
    readUnsigned max (trim s) = some n ↔ Denotes s n ∧ n ≤ max := by
  constructor
  · intro h
    simp only [readUnsigned] at h
    split_ifs at h with hdigits
    obtain ⟨hne, hall, hle⟩ := hdigits
    obtain ⟨before, after, hs, hbefore, hafter⟩ := exists_trim s
    obtain ⟨sign, hsign, htrim⟩ := exists_sign (trim s)
    rw [htrim] at hs
    cases h
    refine ⟨?_, hle⟩
    rw [digitsValue_eq_ofDigits]
    conv_lhs => rw [hs]
    exact .intro hbefore hsign hne (by simpa using hall) hafter
  · rintro ⟨⟨hbefore, hsign, hne, hall, hafter⟩, hle⟩
    rw [← digitsValue_eq_ofDigits] at hle ⊢
    rw [trim_numeral hbefore hsign hne hall hafter, readUnsigned, afterPlus_append hsign hall]
    exact if_pos ⟨hne, by simpa using hall, hle⟩

/-! ### Hexadecimal digits -/

theorem hexValue?_hexDigit (c : LetterCase) {n : Nat} (h : n < 16) :
    hexValue? (hexDigit c n) = some n := by
  cases c <;> decide +revert

/-- The lowest digits of a number stand for its remainder. -/
theorem hexNumber?_hexFixed (c : LetterCase) (width n : Nat) :
    hexNumber? (hexFixed c width n) = some (n % 16 ^ width) := by
  unfold hexNumber?
  induction width generalizing n with
  | zero => simp [hexFixed, Nat.mod_one]
  | succ width ih =>
    have hlast := hexValue?_hexDigit c (Nat.mod_lt n (by decide : 0 < 16))
    have hn : n % 16 ^ (width + 1) = 16 * (n / 16 % 16 ^ width) + n % 16 := by
      rw [Nat.pow_succ', Nat.mod_mul, Nat.add_comm]
    simp [hexFixed, List.foldlM_append, ih, hlast, hn]

/-- A character is found by its code point. -/
theorem codePoint?_hexFixed (lc : LetterCase) {width : Nat} {c : Char} (h : c.toNat < 16 ^ width) :
    codePoint? (hexFixed lc width c.toNat) = some c := by
  rw [codePoint?, hexNumber?_hexFixed, Nat.mod_eq_of_lt h]
  exact dif_pos c.valid

end TimingFeed.Text
