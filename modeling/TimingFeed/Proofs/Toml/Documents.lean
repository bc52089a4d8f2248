import Mathlib.Data.List.Nodup
import TimingFeed.Proofs.Toml.Statements

/-!
# A written document is read back

Main statement: `Document.read?_renderSections`. Sections with bare keys, none of them given twice,
are read back with their values in the order in which they were written.

The proof follows the draft of the document: `Draft.foldlM_pairs` fills the open table,
`Draft.foldlM_section` opens a new one and leaves the others as they are.
-/

namespace TimingFeed.Toml

/-! ### Entries -/

theorem find?_eq_none_iff {α : Type} {key : String} {entries : List (String × α)} :
    find? key entries = none ↔ key ∉ entries.map Prod.fst := by
  induction entries with
  | nil => simp [find?]
  | cons e entries ih =>
    obtain ⟨k, v⟩ := e
    by_cases hk : k = key
    · simp [find?, hk]
    · simp [find?, hk, ih, Ne.symm hk]

/-- The entries of a section while the document grows. -/
def Section.nodes (s : Section) : Entries := s.pairs.map fun p => (p.1, .value p.2.toValue)

/-- A section as the entry of a document. -/
def Section.toEntry (s : Section) : String × Value :=
  (s.name, .table (s.pairs.map fun p => (p.1, p.2.toValue)))

theorem entriesToValues_nodes (pairs : List (String × Scalar)) :
    entriesToValues (pairs.map fun p => (p.1, .value p.2.toValue)) =
      pairs.map fun p => (p.1, p.2.toValue) := by
  induction pairs with
  | nil => rfl
  | cons p pairs ih => simp [entriesToValues, Node.toValue, ih]

theorem entriesToValues_sections (sections : List Section) :
    entriesToValues (sections.map fun s => (s.name, .table .header s.nodes)) =
      sections.map Section.toEntry := by
  induction sections with
  | nil => rfl
  | cons s sections ih =>
    have hnodes : entriesToValues s.nodes = s.pairs.map fun p => (p.1, p.2.toValue) :=
      entriesToValues_nodes s.pairs
    simp only [List.map_cons, entriesToValues, Node.toValue, hnodes, ih, Section.toEntry]

/-! ### Statements -/

namespace Draft

variable {d : Draft}

/-- Pairs with new keys go to the end of the open table. -/
theorem foldlM_pairs {pairs : List (String × Scalar)}
    (h : (d.opened.map Prod.fst ++ pairs.map Prod.fst).Nodup) :
    (pairs.map fun p => Statement.entry [] p.1 p.2.toValue).foldlM step? d =
      some { d with opened := d.opened ++ pairs.map fun p => (p.1, .value p.2.toValue) } := by
  induction pairs generalizing d with
  | nil => simp
  | cons p pairs ih =>
    have hnotMem := (List.nodup_cons.1 (List.nodup_middle.1 h)).1
    have hnew : find? p.1 d.opened = none :=
      find?_eq_none_iff.2 fun hmem => hnotMem (List.mem_append_left _ hmem)
    have hstep : d.step? (.entry [] p.1 p.2.toValue) =
        some { d with opened := d.opened ++ [(p.1, .value p.2.toValue)] } := by
      simp [step?, insert?, changeAt, hnew]
    rw [List.map_cons, List.foldlM_cons, hstep, Option.bind_eq_bind, Option.bind_some, ih]
    · simp
    · simpa using h

/-- A section with a new name becomes a table at the end of the document. -/
theorem foldlM_section {s : Section} {root : Entries} (hclose : d.close? = some root)
    (hname : s.name ∉ root.map Prod.fst) (hkeys : (s.pairs.map Prod.fst).Nodup) :
    ∃ d', s.statements.foldlM step? d = some d' ∧
      d'.close? = some (root ++ [(s.name, .table .header s.nodes)]) := by
  have hnew := find?_eq_none_iff.2 hname
  have hstep : d.step? (.table [] s.name) = some ⟨root, .table [] s.name, []⟩ := by
    simp [step?, hclose, changeAt, hnew, entriesAt]
  refine ⟨⟨root, .table [] s.name, s.nodes⟩, ?_, by simp [close?, changeAt]⟩
  rw [Section.statements, List.foldlM_cons, hstep, Option.bind_eq_bind, Option.bind_some,
    foldlM_pairs (by simpa using hkeys)]
  simp [Section.nodes]

theorem foldlM_sections {sections : List Section} {root : Entries} (hclose : d.close? = some root)
    (hnames : (root.map Prod.fst ++ sections.map Section.name).Nodup)
    (hkeys : ∀ s ∈ sections, (s.pairs.map Prod.fst).Nodup) :
    ∃ d', (sections.flatMap Section.statements).foldlM step? d = some d' ∧
      d'.close? = some (root ++ sections.map fun s => (s.name, .table .header s.nodes)) := by
  induction sections generalizing d root with
  | nil => exact ⟨d, rfl, by simpa using hclose⟩
  | cons s sections ih =>
    rw [List.forall_mem_cons] at hkeys
    have hnotMem := (List.nodup_cons.1 (List.nodup_middle.1 hnames)).1
    obtain ⟨d', hd', hclose'⟩ :=
      foldlM_section hclose (fun hmem => hnotMem (List.mem_append_left _ hmem)) hkeys.1
    obtain ⟨d'', hd'', hclose''⟩ := ih hclose' (by simpa using hnames) hkeys.2
    refine ⟨d'', ?_, by simpa using hclose''⟩
    rw [List.flatMap_cons, List.foldlM_append, hd']
    exact hd''

end Draft

/-! ### Documents -/

/-- Sections that make up a document: no name is given twice, and no key within a section. -/
structure AreDistinct (sections : List Section) : Prop where
  names : (sections.map Section.name).Nodup
  keys : ∀ s ∈ sections, (s.pairs.map Prod.fst).Nodup

theorem ofStatements?_sections {sections : List Section} (h : AreDistinct sections) :
    Document.ofStatements? (sections.flatMap Section.statements) =
      some (sections.map Section.toEntry) := by
  have hstart : Draft.close? {} = some [] := rfl
  obtain ⟨d, hd, hclose⟩ := Draft.foldlM_sections hstart (by simpa using h.names) h.keys
  rw [Document.ofStatements?, hd, Option.bind_some, hclose, List.nil_append, Option.map_some,
    entriesToValues_sections]

/-- **A written document is read back.** -/
theorem Document.read?_renderSections {sections : List Section}
    (hwritten : ∀ s ∈ sections, s.IsWritten) (hdistinct : AreDistinct sections) :
    Document.read? (String.ofList (renderSections sections)) =
      some (sections.map Section.toEntry) := by
  have hmark : dropMark (renderSections sections) = renderSections sections := by
    cases sections with
    | nil => rfl
    | cons s sections => cases sections <;> rfl
  have hread := readsAs_renderSections hwritten _ (Nat.lt_succ_self _)
  rw [Document.read?, String.toList_ofList, hmark, hread, Option.bind_some,
    ofStatements?_sections hdistinct]

end TimingFeed.Toml
