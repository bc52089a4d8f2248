import TimingFeed.Proofs.Toml.Numbers
import TimingFeed.Proofs.Toml.Strings
import TimingFeed.Toml.Reader

/-!
# Sections are read back as statements

Main statement: `readsAs_renderSections`. The lines of written sections are read as a header for
each section and an entry for each of its pairs.

* `Scalar.value?_render`: a scalar is read back at the end of its line. It begins like no array and
  no table (`Scalar.render_eq_cons`), so that the depth does not matter.
* `ReadsAs text sts` leaves the number of lines open that may be read. One line at a time is put in
  front: an empty one (`ReadsAs.newline`) or one with a statement (`ReadsAs.statement`), which may
  be spread over several lines of text by a string.
-/

namespace TimingFeed.Toml

variable {rest : List Char}

/-! ### Values -/

namespace Scalar

/-- That a scalar has a written form: integers are bounded. -/
def Fits : Scalar → Prop
  | .integer n => inRange n = true
  | _ => True

/-- A scalar is read back, for its first character says of which kind it is. -/
theorem scalar?_render {x : Scalar} (hx : x.Fits) (rest : List Char) :
    scalar? (x.render ++ '\n' :: rest) = some (x.toValue, '\n' :: rest) := by
  cases x with
  | string text =>
    obtain ⟨c, t, htext, hc⟩ := quote_eq_cons text.toList
    have hrest : NoQuote ('\n' :: rest) := by simp [NoQuote]
    have hread := string?_quote (s := text.toList) hrest
    rw [htext, List.cons_append] at hread
    rw [render, htext, List.cons_append]
    simp only [scalar?, if_pos hc, hread, Option.map_some, String.ofList_toList, toValue]
  | integer n =>
    obtain ⟨c, t, htext, hc⟩ := toString_eq_cons n
    have hread := number?_toString hx rest
    rw [htext, List.cons_append] at hread
    rw [render, htext, List.cons_append]
    have hquote : ¬(c = '"' ∨ c = '\'') := by
      obtain rfl | hc := hc
      · decide
      · exact not_or.2 ⟨ne_of_holds hc rfl, ne_of_holds hc rfl⟩
    simp only [scalar?, if_neg hquote, if_pos (Or.inr hc), hread, toValue]
  | boolean b => cases b <;> rfl

/-- A written scalar begins with no blank, and it opens neither an array nor a table. -/
theorem render_eq_cons (x : Scalar) :
    ∃ c t, x.render = c :: t ∧ isBlank c = false ∧ c ≠ '[' ∧ c ≠ '{' := by
  cases x with
  | string text =>
    obtain ⟨c, t, htext, rfl | rfl⟩ := quote_eq_cons text.toList <;>
      exact ⟨_, t, htext, by decide⟩
  | integer n =>
    obtain ⟨c, t, htext, rfl | hc⟩ := toString_eq_cons n
    · exact ⟨_, t, htext, by decide⟩
    · have hspace := ne_of_holds hc (d := ' ') rfl
      have htab := ne_of_holds hc (d := '\t') rfl
      exact ⟨c, t, htext, by simp [isBlank, hspace, htab], ne_of_holds hc rfl, ne_of_holds hc rfl⟩
  | boolean b => cases b <;> exact ⟨_, _, rfl, by decide⟩

theorem value?_render {x : Scalar} (hx : x.Fits) (depth : Nat) (rest : List Char) :
    value? depth (x.render ++ '\n' :: rest) = some (x.toValue, '\n' :: rest) := by
  rw [← scalar?_render hx rest]
  obtain ⟨c, t, htext, -, hbracket, hbrace⟩ := x.render_eq_cons
  rw [htext, List.cons_append]
  cases depth <;> simp [value?, hbracket, hbrace]

end Scalar

/-! ### Keys -/

/-- A key that needs no quotes. -/
def IsBareKey (key : String) : Prop := key.toList ≠ [] ∧ key.toList.all isBare = true

instance (key : String) : Decidable (IsBareKey key) := inferInstanceAs (Decidable (_ ∧ _))

example : IsBareKey "max_cached_packets" := by decide

theorem IsBareKey.exists_cons {key : String} (h : IsBareKey key) :
    ∃ c t, key.toList = c :: t ∧ isBare c = true := by
  obtain ⟨c, t, ht⟩ := List.exists_cons_of_ne_nil h.1
  exact ⟨c, t, ht, List.all_eq_true.1 h.2 c (ht ▸ List.mem_cons_self)⟩

theorem skipBlank_of_isBlank {c : Char} (h : isBlank c = false) :
    skipBlank (c :: rest) = c :: rest :=
  List.dropWhile_cons_of_neg (by simp [h])

theorem isBlank_of_isBare {c : Char} (h : isBare c = true) : isBlank c = false := by
  have hspace := ne_of_holds h (d := ' ') rfl
  have htab := ne_of_holds h (d := '\t') rfl
  simp [isBlank, hspace, htab]

theorem keyPart?_bare {key : String} {d : Char} (hkey : IsBareKey key) (hd : isBare d = false) :
    keyPart? (key.toList ++ d :: rest) = some (key.toList, d :: rest) := by
  have htake : (key.toList ++ d :: rest).takeWhile isBare = key.toList := by
    rw [List.takeWhile_append_of_pos (List.all_eq_true.1 hkey.2)]
    simp [hd]
  have hdrop : (key.toList ++ d :: rest).dropWhile isBare = d :: rest := by
    rw [List.dropWhile_append_of_pos (List.all_eq_true.1 hkey.2)]
    simp [hd]
  obtain ⟨c, t, ht, hc⟩ := hkey.exists_cons
  have hdouble := ne_of_holds hc (d := '"') rfl
  have hsingle := ne_of_holds hc (d := '\'') rfl
  unfold keyPart?
  split
  · simp_all
  · simp_all
  · rw [htake, hdrop]
    exact if_neg hkey.1

theorem keyPath?_bare {key : String} {d e : Char} {r : List Char} (limit : Nat)
    (hkey : IsBareKey key) (hd : isBare d = false) (hskip : skipBlank (d :: rest) = e :: r)
    (he : e ≠ '.') :
    keyPath? (limit + 1) (key.toList ++ d :: rest) = some ([key], e :: r) := by
  have hblank : skipBlank (key.toList ++ d :: rest) = key.toList ++ d :: rest := by
    obtain ⟨c, t, ht, hc⟩ := hkey.exists_cons
    rw [ht]
    exact skipBlank_of_isBlank (isBlank_of_isBare hc)
  rw [keyPath?, hblank, keyPart?_bare hkey hd]
  simp [hskip, he]

/-! ### Statements -/

/-- A pair as it is written, without the end of its line. -/
def pairLine (p : String × Scalar) : List Char := p.1.toList ++ " = ".toList ++ p.2.render

/-- A header as it is written, without the end of its line. -/
def headerLine (name : String) : List Char := "[".toList ++ name.toList ++ "]".toList

theorem pairLine_eq_cons {p : String × Scalar} (hkey : IsBareKey p.1) :
    ∃ c t, pairLine p = c :: t ∧ isBare c = true := by
  obtain ⟨c, t, ht, hc⟩ := hkey.exists_cons
  exact ⟨c, t ++ " = ".toList ++ p.2.render, by simp [pairLine, ht], hc⟩

theorem pair?_pairLine {p : String × Scalar} (hkey : IsBareKey p.1) (hx : p.2.Fits)
    (rest : List Char) :
    pair? (value? nestingLimit) (pairLine p ++ '\n' :: rest) =
      some (([], p.1, p.2.toValue), '\n' :: rest) := by
  have htext : pairLine p ++ '\n' :: rest =
      p.1.toList ++ ' ' :: '=' :: ' ' :: (p.2.render ++ '\n' :: rest) := by
    simp [pairLine]
  have hpath : keyPath? nestingLimit (pairLine p ++ '\n' :: rest) =
      some ([p.1], '=' :: ' ' :: (p.2.render ++ '\n' :: rest)) :=
    htext ▸ keyPath?_bare 78 hkey (d := ' ') rfl rfl (by decide)
  have hblank : skipBlank (' ' :: (p.2.render ++ '\n' :: rest)) = p.2.render ++ '\n' :: rest := by
    obtain ⟨c, t, hrender, hc, -⟩ := p.2.render_eq_cons
    rw [hrender]
    exact skipBlank_of_isBlank hc
  rw [pair?, hpath]
  simp only [Option.bind_some, hblank, Scalar.value?_render hx, Option.map_some]
  rfl

theorem statement?_pairLine {p : String × Scalar} (hkey : IsBareKey p.1) (hx : p.2.Fits)
    (rest : List Char) :
    statement? (pairLine p ++ '\n' :: rest) =
      some (.entry [] p.1 p.2.toValue, '\n' :: rest) := by
  obtain ⟨c, t, ht, hc⟩ := pairLine_eq_cons hkey
  have hbracket : c ≠ '[' := ne_of_holds hc rfl
  have hpair := pair?_pairLine hkey hx rest
  rw [ht, List.cons_append] at hpair ⊢
  simp [statement?, hbracket, hpair]

theorem statement?_headerLine {name : String} (hname : IsBareKey name) (rest : List Char) :
    statement? (headerLine name ++ '\n' :: rest) = some (.table [] name, '\n' :: rest) := by
  have htext : headerLine name ++ '\n' :: rest = '[' :: (name.toList ++ ']' :: '\n' :: rest) := by
    simp [headerLine]
  have hpath : keyPath? nestingLimit (name.toList ++ ']' :: '\n' :: rest) =
      some ([name], ']' :: '\n' :: rest) :=
    keyPath?_bare 78 hname (by decide) rfl (by decide)
  obtain ⟨c, t, ht, hc⟩ := hname.exists_cons
  have hbracket : c ≠ '[' := ne_of_holds hc rfl
  rw [htext]
  rw [ht, List.cons_append] at hpath ⊢
  simp [statement?, hbracket, tableHeader?, hpath, splitKey]

/-! ### Lines -/

/-- Some lines are read as statements, as soon as there are enough of them. -/
def ReadsAs (text : List Char) (sts : List Statement) : Prop :=
  ∀ n, text.length < n → statements? n text = some sts

theorem readsAs_nil : ReadsAs [] [] := by
  intro n hn
  obtain ⟨n, rfl⟩ := Nat.exists_eq_add_of_lt hn
  simp [statements?, lineEnd?, skipBlank, skipComment]

variable {line : List Char} {st : Statement} {sts : List Statement}

/-- A line with a statement begins with neither a blank nor a comment. -/
theorem lineEnd?_of_statement {c : Char} (hc : isBare c = true ∨ c = '[') (t : List Char) :
    lineEnd? (c :: t) = none ∧ skipBlank (c :: t) = c :: t := by
  obtain hc | rfl := hc
  · have hblank : skipBlank (c :: t) = c :: t := skipBlank_of_isBlank (isBlank_of_isBare hc)
    have hhash : c ≠ '#' := ne_of_holds hc rfl
    have hnewline : c ≠ '\n' := ne_of_holds hc rfl
    have hreturn : c ≠ '\r' := ne_of_holds hc rfl
    exact ⟨by simp [lineEnd?, hblank, skipComment, hhash, newline?, hnewline, hreturn], hblank⟩
  · exact ⟨rfl, rfl⟩

theorem lineEnd?_newline (rest : List Char) : lineEnd? ('\n' :: rest) = some rest := by
  simp [lineEnd?, skipBlank, isBlank, skipComment, newline?]

namespace ReadsAs

/-- An empty line is passed over. -/
theorem newline (h : ReadsAs rest sts) : ReadsAs ('\n' :: rest) sts := by
  intro n hn
  obtain ⟨n, rfl⟩ := Nat.exists_eq_succ_of_ne_zero (Nat.ne_zero_of_lt hn)
  cases rest with
  | nil => exact h 1 (by decide)
  | cons c rest =>
    rw [statements?, lineEnd?_newline]
    exact h n (Nat.lt_of_succ_lt_succ hn)

theorem statement {c : Char} {t : List Char} (h : ReadsAs rest sts)
    (hread : statement? (line ++ '\n' :: rest) = some (st, '\n' :: rest)) (hline : line = c :: t)
    (hc : isBare c = true ∨ c = '[') :
    ReadsAs (line ++ '\n' :: rest) (st :: sts) := by
  intro n hn
  obtain ⟨n, rfl⟩ := Nat.exists_eq_succ_of_ne_zero (Nat.ne_zero_of_lt hn)
  have hrest := h n (by simp at hn; omega)
  obtain ⟨hend, hblank⟩ := lineEnd?_of_statement hc (t ++ '\n' :: rest)
  rw [← List.cons_append, ← hline] at hend hblank
  rw [statements?, hend, hblank]
  simp [hread, lineEnd?_newline, hrest]

end ReadsAs

/-- What the lines of a section say. -/
def Section.statements (s : Section) : List Statement :=
  .table [] s.name :: s.pairs.map fun p => .entry [] p.1 p.2.toValue

/-- A section whose keys need no quotes and whose integers have a written form. -/
structure Section.IsWritten (s : Section) : Prop where
  bareName : IsBareKey s.name
  bareKeys : ∀ p ∈ s.pairs, IsBareKey p.1
  fits : ∀ p ∈ s.pairs, p.2.Fits

theorem readsAs_pairs {pairs : List (String × Scalar)} (hkeys : ∀ p ∈ pairs, IsBareKey p.1)
    (hfits : ∀ p ∈ pairs, p.2.Fits) (h : ReadsAs rest sts) :
    ReadsAs ((pairs.flatMap fun p => pairLine p ++ ['\n']) ++ rest)
      ((pairs.map fun p => .entry [] p.1 p.2.toValue) ++ sts) := by
  induction pairs with
  | nil => exact h
  | cons p pairs ih =>
    rw [List.forall_mem_cons] at hkeys hfits
    obtain ⟨c, t, ht, hc⟩ := pairLine_eq_cons hkeys.1
    have hline := (ih hkeys.2 hfits.2).statement
      (statement?_pairLine hkeys.1 hfits.1 _) ht (.inl hc)
    simpa using hline

theorem readsAs_section {s : Section} (hs : s.IsWritten) (h : ReadsAs rest sts) :
    ReadsAs (s.render ++ rest) (s.statements ++ sts) := by
  have hpairs := readsAs_pairs hs.bareKeys hs.fits h
  have hline := hpairs.statement (statement?_headerLine hs.bareName _) rfl (.inr rfl)
  simpa [Section.render, Section.statements, headerLine, pairLine] using hline

theorem readsAs_renderSections {sections : List Section} (h : ∀ s ∈ sections, s.IsWritten) :
    ReadsAs (renderSections sections) (sections.flatMap Section.statements) := by
  induction sections with
  | nil => exact readsAs_nil
  | cons s sections ih =>
    rw [List.forall_mem_cons] at h
    cases sections with
    | nil => simpa [renderSections] using readsAs_section h.1 readsAs_nil
    | cons s' sections =>
      have := readsAs_section h.1 (ih h.2).newline
      simpa [renderSections] using this

end TimingFeed.Toml
