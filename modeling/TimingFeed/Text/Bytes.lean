/-!
# Places in a text counted in bytes

A place in a text may be given by the number of UTF-8 bytes before it. Such a number is
a place only if it lies between two characters.

* `dropBytes?` is the text after a place, `takeBytes?` the text before it;
* `byteLength_of_takeBytes?` and `takeBytes?_append_dropBytes?` say that the two parts have
  the right length and make up the text.
-/

namespace TimingFeed.Text

/-- The number of bytes of a text. -/
def byteLength : List Char → Nat
  | [] => 0
  | c :: s => c.utf8Size + byteLength s

/-- The text after the first `n` bytes, if a character ends there. -/
def dropBytes? (n : Nat) : List Char → Option (List Char)
  | [] => if n = 0 then some [] else none
  | c :: s =>
    if n = 0 then some (c :: s)
    else if c.utf8Size ≤ n then dropBytes? (n - c.utf8Size) s
    else none

/-- The first `n` bytes of a text, if a character ends there. -/
def takeBytes? (n : Nat) : List Char → Option (List Char)
  | [] => if n = 0 then some [] else none
  | c :: s =>
    if n = 0 then some []
    else if c.utf8Size ≤ n then (takeBytes? (n - c.utf8Size) s).map (c :: ·)
    else none

theorem byteLength_of_takeBytes? {n : Nat} {s t : List Char} (h : takeBytes? n s = some t) :
    byteLength t = n := by
  induction s generalizing n t with
  | nil =>
    simp only [takeBytes?] at h
    split at h
    · next hn => cases h; simp [byteLength, hn]
    · cases h
  | cons c s ih =>
    simp only [takeBytes?] at h
    split at h
    · next hn => cases h; simp [byteLength, hn]
    · split at h
      · next hc =>
        obtain ⟨u, hu, rfl⟩ := Option.map_eq_some_iff.mp h
        have := ih hu
        simp only [byteLength] at this ⊢
        omega
      · cases h

theorem takeBytes?_append_dropBytes? {n : Nat} {s t : List Char} (h : takeBytes? n s = some t) :
    ∃ u, dropBytes? n s = some u ∧ t ++ u = s := by
  induction s generalizing n t with
  | nil =>
    simp only [takeBytes?] at h
    split at h
    · next hn => cases h; exact ⟨[], by simp [dropBytes?, hn], rfl⟩
    · cases h
  | cons c s ih =>
    simp only [takeBytes?] at h
    split at h
    · next hn => cases h; exact ⟨c :: s, by simp [dropBytes?, hn], rfl⟩
    · next hn =>
      split at h
      · next hc =>
        obtain ⟨v, hv, rfl⟩ := Option.map_eq_some_iff.mp h
        obtain ⟨u, hu, rfl⟩ := ih hv
        exact ⟨u, by simp [dropBytes?, hn, hc, hu], rfl⟩
      · cases h

end TimingFeed.Text
