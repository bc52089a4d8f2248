import Mathlib.Data.List.Induction
import TimingFeed.Proofs.Text.Numeral
import TimingFeed.Toml.Lexical
import TimingFeed.Toml.Printer

/-!
# Strings are read back

Main statement: `string?_quote`. Every string is read back from its written form, whichever of the
four ways of quoting is chosen for it.

* `Writes c w`: between double quotes the characters `w` stand for `c`. Both readers of such strings
  take the same steps for them.
* In triple quotes a quote stands as it is. What the reader does there depends on the next two
  characters: three quotes end the string, and up to two more quotes behind them belong to it.
* Without escapes a string in single quotes must fit as it is; `choose_eq_literal` and
  `choose_eq_multilineLiteral` say that it does. `le_longestRun_of_replicate` is behind the second:
  no run of a character is longer than the longest one.
-/

namespace TimingFeed.Toml

variable {c : Char} {s t w rest : List Char}

/-- A character of a class is none outside of it. -/
theorem ne_of_holds {p : Char → Bool} {d : Char} (hc : p c = true) (hd : p d = false) : c ≠ d :=
  fun h => by simp [← h, hc] at hd

/-! ### Runs of a character -/

/-- The runs of a character at the end of a text and anywhere in it, as they are counted. -/
def runs (c : Char) (s : List Char) : Nat × Nat :=
  s.foldl (fun (run, best) d => if d = c then (run + 1, max best (run + 1)) else (0, best)) (0, 0)

theorem runs_append_self : runs c (s ++ [c]) =
    ((runs c s).1 + 1, max (runs c s).2 ((runs c s).1 + 1)) := by
  simp [runs]

theorem runs_append_of_ne {d : Char} (h : d ≠ c) : runs c (s ++ [d]) = (0, (runs c s).2) := by
  simp [runs, h]

theorem fst_runs_le_snd_runs (c : Char) (s : List Char) : (runs c s).1 ≤ (runs c s).2 := by
  induction s using List.reverseRecOn with
  | nil => exact Nat.le_refl 0
  | append_singleton s d ih =>
    by_cases hd : d = c
    · subst hd
      rw [runs_append_self]
      exact Nat.le_max_right _ _
    · rw [runs_append_of_ne hd]
      exact Nat.zero_le _

theorem snd_runs_le_append (c d : Char) (s : List Char) :
    (runs c s).2 ≤ (runs c (s ++ [d])).2 := by
  by_cases hd : d = c
  · subst hd
    rw [runs_append_self]
    exact Nat.le_max_left _ _
  · exact (runs_append_of_ne hd).symm ▸ Nat.le_refl _

/-- No run is longer than the longest one that was counted. -/
theorem le_runs_of_replicate (c : Char) (s : List Char) (n : Nat) :
    (List.replicate n c <:+ s → n ≤ (runs c s).1) ∧
      (List.replicate n c <:+: s → n ≤ (runs c s).2) := by
  induction s using List.reverseRecOn generalizing n with
  | nil => simp +contextual
  | append_singleton s d ih =>
    have hend : List.replicate n c <:+ s ++ [d] → n ≤ (runs c (s ++ [d])).1 := by
      rw [List.suffix_concat_iff]
      rintro (hnil | ⟨t, ht, hsuffix⟩)
      · simp_all
      · obtain ⟨n, rfl⟩ := Nat.exists_eq_succ_of_ne_zero (n := n) (by rintro rfl; simp at ht)
        obtain ⟨rfl, hd⟩ := List.append_inj' (List.replicate_succ'.symm.trans ht) rfl
        obtain rfl : c = d := List.singleton_inj.1 hd
        rw [runs_append_self]
        exact Nat.succ_le_succ ((ih n).1 hsuffix)
    refine ⟨hend, fun h => ?_⟩
    obtain hsuffix | hinfix := List.infix_concat_iff.1 h
    · exact Nat.le_trans (hend hsuffix) (fst_runs_le_snd_runs c _)
    · exact Nat.le_trans ((ih n).2 hinfix) (snd_runs_le_append c d s)

theorem le_longestRun_of_replicate {n : Nat} (h : List.replicate n c <:+: s) :
    n ≤ longestRun c s := (le_runs_of_replicate c s n).2 h

theorem not_mem_of_longestRun (h : longestRun c s = 0) : c ∉ s := by
  intro hc
  obtain ⟨s₁, s₂, rfl⟩ := List.append_of_mem hc
  have hrun : List.replicate 1 c <:+: s₁ ++ c :: s₂ := ⟨s₁, s₂, by simp⟩
  have := le_longestRun_of_replicate hrun
  omega

/-! ### Characters -/

/-- How a character may be written among double quotes. -/
inductive Writes : Char → List Char → Prop
  | plain {c : Char} (isPlain : isPlain c = true) (notQuote : c ≠ '"') (notBackslash : c ≠ '\\') :
      Writes c [c]
  | letter {c x : Char} (escaped : escaped? x = some c) : Writes c ['\\', x]
  | code {c x y z u : Char} (codePoint : Text.codePoint? [x, y, z, u] = some c) :
      Writes c ['\\', 'u', x, y, z, u]

/-- A written character begins with none of the characters that the readers look out for. -/
theorem Writes.exists_cons (h : Writes c w) :
    ∃ d w', w = d :: w' ∧ d ≠ '"' ∧ d ≠ '\n' ∧ d ≠ '\r' := by
  cases h with
  | plain isPlain notQuote =>
    exact ⟨c, [], rfl, notQuote, ne_of_holds isPlain rfl, ne_of_holds isPlain rfl⟩
  | letter => exact ⟨'\\', _, rfl, by decide, by decide, by decide⟩
  | code => exact ⟨'\\', _, rfl, by decide, by decide, by decide⟩

theorem basicBody_append_of_writes (h : Writes c w) :
    basicBody (w ++ t) = before c (basicBody t) := by
  cases h with
  | plain isPlain notQuote notBackslash =>
    rw [List.singleton_append, basicBody.eq_def]
    split <;> simp_all
  | letter escaped =>
    unfold escaped? at escaped
    split at escaped <;> cases escaped <;> simp [basicBody, escaped?]
  | code codePoint => simp [basicBody, codePoint]

theorem multilineBasicBody_append_of_writes (h : Writes c w) :
    multilineBasicBody .off (w ++ t) = before c (multilineBasicBody .off t) := by
  cases h with
  | plain isPlain notQuote notBackslash =>
    have hreturn : c ≠ '\r' := ne_of_holds isPlain rfl
    rw [List.singleton_append, multilineBasicBody.eq_def]
    split <;> simp_all
  | letter escaped =>
    unfold escaped? at escaped
    split at escaped <;> cases escaped <;> simp [multilineBasicBody, escaped?, isBlank]
  | code codePoint => simp [multilineBasicBody, codePoint]

/-- The escape of a control character stands for it. -/
theorem writes_escapeControl (h : c.toNat < 0x80) : Writes c (escapeControl c) := by
  unfold escapeControl
  split_ifs with hb ht hn hf hr
  · exact .letter (hb ▸ rfl)
  · exact .letter (ht ▸ rfl)
  · exact .letter (hn ▸ rfl)
  · exact .letter (hf ▸ rfl)
  · exact .letter (hr ▸ rfl)
  · have hlt : c.toNat < 16 ^ 4 := by omega
    exact .code (Text.codePoint?_hexFixed .upper hlt)

/-- A character other than a double quote as it is written, if it is no line end that may stand as
it is. -/
def escapeChar (c : Char) : List Char :=
  if c = '\\' then ['\\', '\\']
  else if c.toNat < 0x20 ∨ c.toNat = 0x7f then escapeControl c
  else [c]

theorem writes_escapeChar (h : c ≠ '"') : Writes c (escapeChar c) := by
  unfold escapeChar
  split_ifs with hbackslash hcontrol
  · subst hbackslash
    exact .letter rfl
  · exact writes_escapeControl (by omega)
  · refine .plain ?_ h hbackslash
    simp only [isPlain, Bool.or_eq_true, Bool.and_eq_true, decide_eq_true_eq]
    omega

theorem escapeFrom_cons {multiline : Bool} {quotes : Nat} (hquote : c ≠ '"')
    (hnewline : ¬(c = '\n' ∧ multiline = true)) :
    escapeFrom multiline quotes (c :: s) = escapeChar c ++ escapeFrom multiline 0 s := by
  rw [escapeFrom, if_neg hquote, if_neg hnewline, escapeChar]
  split_ifs <;> rfl

/-- How an escaped string begins: with a double quote only if it is one that may stand as it is, and
with a line end only if it is one. -/
theorem escapeFrom_eq_cons (multiline : Bool) (quotes : Nat) (c : Char) (s : List Char) :
    ∃ d t, escapeFrom multiline quotes (c :: s) = d :: t ∧ d ≠ '\r' ∧ (d = '\n' → c = '\n') ∧
      (d = '"' → c = '"' ∧ quotes < (if multiline then 2 else 0) ∧
        t = escapeFrom multiline (quotes + 1) s) := by
  by_cases hquote : c = '"'
  · subst hquote
    by_cases hlt : quotes < if multiline then 2 else 0
    · exact ⟨'"', _, by rw [escapeFrom, if_pos rfl, if_pos hlt], by decide, nofun,
        fun _ => ⟨rfl, hlt, rfl⟩⟩
    · exact ⟨'\\', _, by rw [escapeFrom, if_pos rfl, if_neg hlt], by decide, nofun, nofun⟩
  · by_cases hnewline : c = '\n' ∧ multiline = true
    · obtain ⟨rfl, rfl⟩ := hnewline
      exact ⟨'\n', _, rfl, by decide, fun _ => rfl, nofun⟩
    · obtain ⟨d, w, hw, hdquote, hdnewline, hdreturn⟩ := (writes_escapeChar hquote).exists_cons
      refine ⟨d, w ++ escapeFrom multiline 0 s, ?_, hdreturn, fun h => absurd h hdnewline,
        fun h => absurd h hdquote⟩
      rw [escapeFrom_cons hquote hnewline, hw, List.cons_append]

/-! ### One line -/

theorem basicBody_escapeFrom (quotes : Nat) (s rest : List Char) :
    basicBody (escapeFrom false quotes s ++ '"' :: rest) = some (s, rest) := by
  induction s generalizing quotes with
  | nil => simp [escapeFrom, basicBody]
  | cons c s ih =>
    by_cases hquote : c = '"'
    · subst hquote
      rw [escapeFrom]
      simp [basicBody, escaped?, ih, before]
    · rw [escapeFrom_cons hquote (by simp), List.append_assoc,
        basicBody_append_of_writes (writes_escapeChar hquote), ih]
      rfl

theorem literalBody_append (hplain : ∀ c ∈ s, isPlain c = true) (hquote : '\'' ∉ s) :
    literalBody (s ++ '\'' :: rest) = some (s, rest) := by
  induction s with
  | nil => rfl
  | cons c s ih =>
    rw [List.forall_mem_cons] at hplain
    rw [List.mem_cons, not_or] at hquote
    rw [List.cons_append, literalBody, if_pos hplain.1, ih hplain.2 hquote.2]
    · rfl
    · exact fun h => hquote.1 h.symm

/-! ### Several lines -/

theorem multilineBasicBody_quote (h : ¬∃ u, t = '"' :: '"' :: u) :
    multilineBasicBody .off ('"' :: t) = before '"' (multilineBasicBody .off t) := by
  have hplain : isPlain '"' = true := rfl
  rw [multilineBasicBody.eq_def]
  split <;> grind

theorem multilineLiteralBody_quote (h : ¬∃ u, t = '\'' :: '\'' :: u) :
    multilineLiteralBody ('\'' :: t) = before '\'' (multilineLiteralBody t) := by
  have hplain : isPlain '\'' = true := rfl
  rw [multilineLiteralBody.eq_def]
  split <;> grind

theorem multilineLiteralBody_plain (hquote : c ≠ '\'') (hplain : isPlain c = true) :
    multilineLiteralBody (c :: t) = before c (multilineLiteralBody t) := by
  have hnewline : c ≠ '\n' := ne_of_holds hplain rfl
  have hreturn : c ≠ '\r' := ne_of_holds hplain rfl
  rw [multilineLiteralBody.eq_def]
  split <;> simp_all

theorem closing_of_head {quote : Char} (h : ∀ c ∈ rest.head?, c ≠ quote) :
    closing quote rest = ([], rest) := by
  unfold closing
  split <;> simp_all

theorem closing_cons_of_head {quote : Char} (h : ∀ c ∈ rest.head?, c ≠ quote) :
    closing quote (quote :: rest) = ([quote], rest) := by
  cases rest with
  | nil => simp [closing]
  | cons d rest => simp [closing, h d rfl]

theorem escapeFrom_quote_of_lt {quotes : Nat} (h : quotes < 2) :
    escapeFrom true quotes ('"' :: s) = '"' :: escapeFrom true (quotes + 1) s := by
  simp [escapeFrom, h]

theorem escapeFrom_quote_of_le {quotes : Nat} (h : 2 ≤ quotes) :
    escapeFrom true quotes ('"' :: s) = ['\\', '"'] ++ escapeFrom true 0 s := by
  simp [escapeFrom, Nat.not_lt.2 h]

/-- A double quote at the start belongs to the string, unless the string is at its end. -/
theorem of_escapeFrom_append_eq_cons {quotes : Nat} {u : List Char}
    (h : escapeFrom true quotes s ++ t = '"' :: u) :
    s = [] ∨ quotes < 2 ∧ ∃ s', s = '"' :: s' ∧ u = escapeFrom true (quotes + 1) s' ++ t := by
  cases s with
  | nil => exact .inl rfl
  | cons c s =>
    obtain ⟨d, w, hw, -, -, hquote⟩ := escapeFrom_eq_cons true quotes c s
    rw [hw, List.cons_append, List.cons.injEq] at h
    obtain ⟨hd, rfl⟩ := h
    obtain ⟨rfl, hlt, rfl⟩ := hquote hd
    exact .inr ⟨hlt, s, rfl, rfl⟩

theorem multilineBasicBody_escapeFrom (hrest : ∀ c ∈ rest.head?, c ≠ '"') (quotes : Nat)
    (s : List Char) :
    multilineBasicBody .off (escapeFrom true quotes s ++ '"' :: '"' :: '"' :: rest) =
      some (s, rest) := by
  induction s generalizing quotes with
  | nil => simp [escapeFrom, multilineBasicBody, closing_of_head hrest]
  | cons c s ih =>
    by_cases hquote : c = '"'
    · subst hquote
      by_cases hlt : quotes < 2
      · rw [escapeFrom_quote_of_lt hlt, List.cons_append]
        by_cases hnext : ∃ u, escapeFrom true (quotes + 1) s ++ '"' :: '"' :: '"' :: rest =
          '"' :: '"' :: u
        · -- Three quotes in a row: the string ends with this quote or with one more.
          obtain ⟨u, hu⟩ := hnext
          obtain rfl | ⟨hlt, s', rfl, hs'⟩ := of_escapeFrom_append_eq_cons hu
          · simp [escapeFrom, multilineBasicBody, closing_cons_of_head hrest]
          · obtain rfl | ⟨hlt', -⟩ := of_escapeFrom_append_eq_cons hs'.symm
            · rw [escapeFrom_quote_of_lt hlt]
              simp [escapeFrom, multilineBasicBody, closing]
            · omega
        · rw [multilineBasicBody_quote hnext, ih]
          rfl
      · rw [escapeFrom_quote_of_le (Nat.le_of_not_lt hlt), List.append_assoc,
          multilineBasicBody_append_of_writes (.letter rfl), ih]
        rfl
    · by_cases hnewline : c = '\n'
      · simp [escapeFrom, hnewline, multilineBasicBody, ih, before]
      · rw [escapeFrom_cons hquote (by simp [hnewline]), List.append_assoc,
          multilineBasicBody_append_of_writes (writes_escapeChar hquote), ih]
        rfl

theorem multilineLiteralBody_append (hrest : ∀ c ∈ rest.head?, c ≠ '\'')
    (hplain : ∀ c ∈ s, c = '\n' ∨ isPlain c = true) (hrun : ¬['\'', '\'', '\''] <:+: s) :
    multilineLiteralBody (s ++ '\'' :: '\'' :: '\'' :: rest) = some (s, rest) := by
  induction s with
  | nil => simp [multilineLiteralBody, closing_of_head hrest]
  | cons c s ih =>
    rw [List.forall_mem_cons] at hplain
    have hs := ih hplain.2 fun h => hrun (h.trans (List.suffix_cons c s).isInfix)
    by_cases hquote : c = '\''
    · subst hquote
      rw [List.cons_append]
      by_cases hnext : ∃ u, s ++ '\'' :: '\'' :: '\'' :: rest = '\'' :: '\'' :: u
      · -- Three quotes in a row, but none within the string.
        obtain ⟨u, hu⟩ := hnext
        match s with
        | [] => simp [multilineLiteralBody, closing_cons_of_head hrest]
        | [d] =>
          obtain ⟨rfl, -⟩ := List.cons.inj hu
          simp [multilineLiteralBody, closing]
        | d :: e :: s =>
          simp only [List.cons_append, List.cons.injEq] at hu
          obtain ⟨rfl, rfl, -⟩ := hu
          exact absurd (List.prefix_append ['\'', '\'', '\''] s).isInfix hrun
      · rw [multilineLiteralBody_quote hnext, hs]
        rfl
    · by_cases hnewline : c = '\n'
      · simp [hnewline, multilineLiteralBody, hs, before]
      · rw [List.cons_append, multilineLiteralBody_plain hquote (hplain.1.resolve_left hnewline),
          hs]
        rfl

/-! ### Quotes -/

/-- A string without characters that need escapes. -/
theorem eq_newline_or_isPlain (h : s.any needsEscape = false) :
    ∀ c ∈ s, c = '\n' ∨ isPlain c = true := by
  intro c hc
  have hescape := List.any_eq_false.1 h c hc
  simp only [needsEscape, isPlain] at hescape ⊢
  grind

/-- Single quotes are only put around what they can hold. -/
theorem choose_eq_literal (h : Quoting.choose s = .literal) :
    (∀ c ∈ s, isPlain c = true) ∧ '\'' ∉ s := by
  simp only [Quoting.choose] at h
  split_ifs at h with hbasic hliteral
  simp only [Bool.and_eq_true, Bool.not_eq_true', decide_eq_true_eq] at hliteral
  obtain ⟨⟨hescape, hsingle⟩, hnewline⟩ := hliteral
  refine ⟨fun c hc => ?_, not_mem_of_longestRun hsingle⟩
  refine (eq_newline_or_isPlain hescape c hc).resolve_left ?_
  rintro rfl
  simp [hc] at hnewline

theorem choose_eq_multilineLiteral (h : Quoting.choose s = .multilineLiteral) :
    (∀ c ∈ s, c = '\n' ∨ isPlain c = true) ∧ ¬['\'', '\'', '\''] <:+: s := by
  simp only [Quoting.choose] at h
  split_ifs at h with hbasic hliteral hmultilineBasic hmultilineLiteral
  simp only [Bool.and_eq_true, Bool.not_eq_true', decide_eq_true_eq] at hmultilineLiteral
  obtain ⟨hescape, hsingle⟩ := hmultilineLiteral
  refine ⟨eq_newline_or_isPlain hescape, fun hrun => ?_⟩
  have := le_longestRun_of_replicate (n := 3) hrun
  omega

/-- What follows a string: no quote, which might belong to it. -/
def NoQuote (rest : List Char) : Prop := ∀ c ∈ rest.head?, c ≠ '"' ∧ c ≠ '\''

theorem string?_doubleQuote (h : ¬∃ u, t = '"' :: '"' :: u) : string? ('"' :: t) = basicBody t := by
  unfold string?
  split <;> simp_all

theorem string?_singleQuote (h : ¬∃ u, t = '\'' :: '\'' :: u) :
    string? ('\'' :: t) = literalBody t := by
  unfold string?
  split <;> simp_all

theorem dropNewline_of_head (h : ∀ c ∈ t.head?, c ≠ '\n' ∧ c ≠ '\r') : dropNewline t = t := by
  rw [dropNewline]
  unfold newline?
  split <;> simp_all

theorem string?_basic (hrest : NoQuote rest) :
    string? (quoteAs .basic s ++ rest) = some (s, rest) := by
  have htwo : ¬∃ u, escapeFrom false 0 s ++ '"' :: rest = '"' :: '"' :: u := by
    rintro ⟨u, hu⟩
    cases s with
    | nil => exact (hrest '"' (by simp_all [escapeFrom])).1 rfl
    | cons c s =>
      obtain ⟨d, w, hw, -, -, hquote⟩ := escapeFrom_eq_cons false 0 c s
      rw [hw, List.cons_append, List.cons.injEq] at hu
      exact absurd (hquote hu.1).2.1 (by simp)
  have htext : quoteAs .basic s ++ rest = '"' :: (escapeFrom false 0 s ++ '"' :: rest) := by
    simp [quoteAs, Quoting.isMultiline, Quoting.delimiter, Quoting.hasEscapes]
  rw [htext, string?_doubleQuote htwo, basicBody_escapeFrom]

theorem string?_literal (hrest : NoQuote rest) (hplain : ∀ c ∈ s, isPlain c = true)
    (hquote : '\'' ∉ s) : string? (quoteAs .literal s ++ rest) = some (s, rest) := by
  have htwo : ¬∃ u, s ++ '\'' :: rest = '\'' :: '\'' :: u := by
    rintro ⟨u, hu⟩
    cases s with
    | nil => exact (hrest '\'' (by simp_all)).2 rfl
    | cons c s => simp_all
  have htext : quoteAs .literal s ++ rest = '\'' :: (s ++ '\'' :: rest) := by
    simp [quoteAs, Quoting.isMultiline, Quoting.delimiter, Quoting.hasEscapes]
  rw [htext, string?_singleQuote htwo, literalBody_append hplain hquote]

/-- The line end after the opening quotes is there exactly for the reader to drop. -/
theorem dropNewline_opening (h : '\n' ∉ s → ∀ c ∈ t.head?, c ≠ '\n' ∧ c ≠ '\r') :
    dropNewline ((if s.contains '\n' then ['\n'] else []) ++ t) = t := by
  by_cases hnewline : '\n' ∈ s
  · simp [hnewline, dropNewline, newline?]
  · simpa [hnewline] using dropNewline_of_head (h hnewline)

theorem string?_multilineBasic (hrest : NoQuote rest) :
    string? (quoteAs .multilineBasic s ++ rest) = some (s, rest) := by
  have htext : quoteAs .multilineBasic s ++ rest = '"' :: '"' :: '"' ::
      ((if s.contains '\n' then ['\n'] else []) ++
        (escapeFrom true 0 s ++ '"' :: '"' :: '"' :: rest)) := by
    by_cases hnewline : '\n' ∈ s <;>
      simp [quoteAs, Quoting.isMultiline, Quoting.delimiter, Quoting.hasEscapes, hnewline]
  rw [htext, string?, dropNewline_opening,
    multilineBasicBody_escapeFrom fun c hc => (hrest c hc).1]
  intro hnewline c hc
  cases s with
  | nil =>
    obtain rfl : '"' = c := by simpa [escapeFrom] using hc
    decide
  | cons d s =>
    obtain ⟨e, w, hw, hreturn, hline, -⟩ := escapeFrom_eq_cons true 0 d s
    obtain rfl : e = c := by simpa [hw] using hc
    exact ⟨fun h => hnewline (hline h ▸ List.mem_cons_self), hreturn⟩

theorem string?_multilineLiteral (hrest : NoQuote rest)
    (hplain : ∀ c ∈ s, c = '\n' ∨ isPlain c = true) (hrun : ¬['\'', '\'', '\''] <:+: s) :
    string? (quoteAs .multilineLiteral s ++ rest) = some (s, rest) := by
  have htext : quoteAs .multilineLiteral s ++ rest = '\'' :: '\'' :: '\'' ::
      ((if s.contains '\n' then ['\n'] else []) ++ (s ++ '\'' :: '\'' :: '\'' :: rest)) := by
    by_cases hnewline : '\n' ∈ s <;>
      simp [quoteAs, Quoting.isMultiline, Quoting.delimiter, Quoting.hasEscapes, hnewline]
  rw [htext, string?, dropNewline_opening,
    multilineLiteralBody_append (fun c hc => (hrest c hc).2) hplain hrun]
  intro hnewline c hc
  cases s with
  | nil =>
    obtain rfl : '\'' = c := by simpa using hc
    decide
  | cons d s =>
    obtain rfl : d = c := by simpa using hc
    have hd : d ≠ '\n' := fun h => hnewline (h ▸ List.mem_cons_self)
    have hplain := (hplain d List.mem_cons_self).resolve_left hd
    exact ⟨hd, ne_of_holds hplain rfl⟩

theorem quote_eq_cons (s : List Char) : ∃ c t, quote s = c :: t ∧ (c = '"' ∨ c = '\'') := by
  rw [quote]
  cases Quoting.choose s <;> simp [quoteAs, Quoting.delimiter, Quoting.isMultiline]
  · split_ifs <;> simp
  · split_ifs <;> simp

/-- **A string is read back**, however it is quoted. -/
theorem string?_quote (hrest : NoQuote rest) : string? (quote s ++ rest) = some (s, rest) := by
  rw [quote]
  cases hchoose : Quoting.choose s with
  | basic => exact string?_basic hrest
  | literal =>
    obtain ⟨hplain, hquote⟩ := choose_eq_literal hchoose
    exact string?_literal hrest hplain hquote
  | multilineBasic => exact string?_multilineBasic hrest
  | multilineLiteral =>
    obtain ⟨hplain, hrun⟩ := choose_eq_multilineLiteral hchoose
    exact string?_multilineLiteral hrest hplain hrun

end TimingFeed.Toml
