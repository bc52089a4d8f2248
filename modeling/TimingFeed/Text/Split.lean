/-!
# Parts of a text

* `splitAt` cuts a text at every occurrence of a character;
* `intercalate_splitAt` says that the parts, with the character between them, are the text.
-/

namespace TimingFeed.Text

/-- The parts of a text between occurrences of a character. -/
def splitAt (d : Char) (s : List Char) : List (List Char) :=
  s.foldr
    (fun c parts =>
      if c = d then [] :: parts
      else match parts with
        | [] => [[c]]
        | part :: rest => (c :: part) :: rest)
    [[]]

theorem splitAt_ne_nil (d : Char) (s : List Char) : splitAt d s ≠ [] := by
  induction s with
  | nil => simp [splitAt]
  | cons c s ih =>
    simp only [splitAt, List.foldr_cons] at ih ⊢
    split
    · simp
    · split <;> simp

theorem intercalate_splitAt (d : Char) (s : List Char) :
    List.intercalate [d] (splitAt d s) = s := by
  induction s with
  | nil => rfl
  | cons c s ih =>
    have hn := splitAt_ne_nil d s
    simp only [splitAt, List.foldr_cons] at ih hn ⊢
    generalize List.foldr _ _ s = parts at ih hn ⊢
    cases parts with
    | nil => exact absurd rfl hn
    | cons part rest =>
      split
      · next h => subst h; simp [List.intercalate, List.intersperse] at ih ⊢; exact ih
      · cases rest <;> simp [List.intercalate, List.intersperse] at ih ⊢ <;> exact ih

end TimingFeed.Text
