import TimingFeed.Proofs.Cache.Contents

/-!
# Damaged cache files

A cache file that was cut off or whose first line was changed is refused. Main statement:
`load_damaged`. A cut may fall anywhere, also between two packets; what comes after the last
packet is not looked at.

* `Incremental` says how a reader treats bytes that follow: unless it runs out of bytes, it leaves
  them unread and answers as before;
* `Incremental.bind` and the lemmas after it show it of every reader of the format, from numbers
  to the records of a file;
* `Incremental.endOfFile`: a reader that uses up its input runs out of bytes on any part of it.
-/

namespace TimingFeed

/-- Bytes that follow do not matter to a reader unless it runs out of bytes. -/
def Incremental {α : Type} (read : List UInt8 → Except RecordError (α × List UInt8)) : Prop :=
  ∀ s more, read s = .error .endOfFile ∨
    read (s ++ more) = (read s).map fun r => (r.1, r.2 ++ more)

namespace Incremental

variable {α β : Type}

theorem pure (a : α) : Incremental fun s => .ok (a, s) := fun _ _ => .inr rfl

/-- A check that does not read. -/
theorem check {next : α → List UInt8 → Except RecordError (β × List UInt8)}
    (x : Except RecordError α) (h : ∀ a, Incremental (next a)) :
    Incremental fun s => x >>= fun a => next a s := by
  cases x with
  | error e => exact fun _ _ => .inr rfl
  | ok a => exact h a

/-- One reader after another. -/
theorem bind {read : List UInt8 → Except RecordError (α × List UInt8)}
    {next : α × List UInt8 → Except RecordError (β × List UInt8)}
    (h : Incremental read) (hnext : ∀ a, Incremental fun s => next (a, s)) :
    Incremental fun s => read s >>= next := by
  intro s more
  dsimp only
  rcases h s more with hend | hmore
  · exact .inl (by rw [hend]; rfl)
  · rw [hmore]
    cases read s with
    | error e => exact .inr rfl
    | ok r => exact hnext r.1 r.2 more

/-- **A reader that uses up its input runs out of bytes on any part of it.** -/
theorem endOfFile {read : List UInt8 → Except RecordError (α × List UInt8)}
    (h : Incremental read) {s more : List UInt8} {a : α} (hwhole : read (s ++ more) = .ok (a, []))
    (hmore : more ≠ []) : read s = .error .endOfFile := by
  rcases h s more with hend | heq
  · exact hend
  · -- Otherwise the bytes that follow would be left.
    rw [hwhole] at heq
    cases hread : read s with
    | error e =>
      rw [hread] at heq
      cases heq
    | ok r =>
      rw [hread] at heq
      have hrest := congrArg (Except.map Prod.snd) heq
      simp only [Except.map, Except.ok.injEq] at hrest
      exact absurd (List.append_eq_nil_iff.1 hrest.symm).2 hmore

end Incremental

/-! ### The readers of the format -/

/-- So many bytes are there or not. -/
theorem splitExactly_eq (n : Nat) (s : List UInt8) :
    splitExactly n s = if n ≤ s.length then some (s.take n, s.drop n) else none := by
  split
  · next h =>
    have hsplit := splitExactly_append (s.take n) (s.drop n)
    rwa [List.length_take_of_le h, List.take_append_drop] at hsplit
  · next h =>
    rcases hs : splitExactly n s with _ | ⟨bytes, rest⟩
    · rfl
    · obtain ⟨rfl, rfl⟩ := splitExactly_eq_some_iff.1 hs
      exact absurd (by simp) h

theorem splitExactly_append_of_some {n : Nat} {s bytes rest : List UInt8}
    (h : splitExactly n s = some (bytes, rest)) (more : List UInt8) :
    splitExactly n (s ++ more) = some (bytes, rest ++ more) := by
  obtain ⟨rfl, rfl⟩ := splitExactly_eq_some_iff.1 h
  rw [List.append_assoc, splitExactly_append]

theorem incremental_readBytes (count : Nat) : Incremental (readBytes count) := by
  intro s more
  rcases hs : splitExactly count s with _ | ⟨bytes, rest⟩
  · exact .inl (by rw [readBytes, hs])
  · refine .inr ?_
    rw [readBytes, readBytes, hs, splitExactly_append_of_some hs]
    rfl

theorem incremental_readNumber (width : Nat) : Incremental (readNumber width) := by
  intro s more
  rcases hs : splitExactly width s with _ | ⟨bytes, rest⟩
  · exact .inl (by rw [readNumber, hs])
  · refine .inr ?_
    rw [readNumber, readNumber, hs, splitExactly_append_of_some hs]
    rfl

theorem Packet.incremental_decode : Incremental Packet.decode := by
  intro s more
  match s with
  | [] | [_] | [_, _] => exact .inl rfl
  | first :: second :: data :: s =>
    have hfields : Incremental fun s => decode (first :: second :: data :: s) :=
      (incremental_readNumber 8).bind fun _ => (incremental_readNumber 4).bind fun _ =>
        .check _ fun _ => (incremental_readNumber 8).bind fun length =>
          (incremental_readBytes length).bind fun _ => .pure _
    exact hfields s more

namespace PacketCache

theorem incremental_decodeAll (n : Nat) : Incremental (decodeAll n) := by
  induction n with
  | zero => exact .pure []
  | succ n ih => exact Packet.incremental_decode.bind fun _ => ih.bind fun _ => .pure _

/-- The number of records and the records. -/
def readRecords (s : List UInt8) : Except RecordError (List Packet × List UInt8) :=
  readNumber 8 s >>= fun r => decodeAll r.1 r.2

theorem decodeRecords_eq (s : List UInt8) :
    decodeRecords s = (readRecords s).map Prod.fst := by
  unfold decodeRecords readRecords
  cases readNumber 8 s with
  | error e => rfl
  | ok r =>
    simp only [Bind.bind, Except.bind]
    cases decodeAll r.1 r.2 <;> rfl

theorem incremental_readRecords : Incremental readRecords :=
  (incremental_readNumber 8).bind incremental_decodeAll

/-! ### Files -/

/-- A file that is shorter than the first line is truncated. -/
theorem decode_of_short {s : List UInt8} (h : s.length < cacheSignature.length) :
    decode s = .error (.cache .truncated) := by
  rw [decode, splitExactly_eq, if_neg (Nat.not_le.2 h)]

/-- A file with another first line has another version. -/
theorem decode_of_signature_ne {s : List UInt8} (h : cacheSignature.length ≤ s.length)
    (hne : s.take cacheSignature.length ≠ cacheSignature) :
    decode s = .error (.cache .unsupportedVersion) := by
  rw [decode, splitExactly_eq, if_pos h]
  simp only [if_neg hne]

/-- Behind the right first line only the records count. -/
theorem decode_signature_append (s : List UInt8) :
    decode (cacheSignature ++ s) =
      ((readRecords s).mapError .serialization).map fun r => ofList r.1 := by
  simp only [decode, splitExactly_append, if_true, decodeRecords_eq]
  cases readRecords s <;> rfl

variable {c : PacketCache}

/-- The records of a cache are read to the end. -/
theorem readRecords_file (htimes : ∀ p ∈ c.toList, ¬ p.time.IsBeforeEpoch) (hc : c.Addressable) :
    readRecords (LittleEndian.encode 8 c.toList.length ++ c.toList.flatMap Packet.record) =
      .ok (c.toList, []) := by
  have hall := decodeAll_records htimes hc.payloads []
  rw [List.append_nil] at hall
  simp only [readRecords, readNumber_encode (w := 8) hc.packets, Bind.bind, Except.bind, hall]

/-- A file that was cut off is refused: within its first line as truncated, after it because the
records end too early. -/
theorem decode_cut (htimes : ∀ p ∈ c.toList, ¬ p.time.IsBeforeEpoch) (hc : c.Addressable)
    {cut : List UInt8} (hcut : cut <+: c.file) (hne : cut ≠ c.file) :
    decode cut = .error
      (if cut.length < cacheSignature.length then .cache .truncated
        else .serialization .endOfFile) := by
  obtain ⟨more, hmore⟩ := hcut
  by_cases hshort : cut.length < cacheSignature.length
  · rw [if_pos hshort, decode_of_short hshort]
  · -- The first line is whole, so the cut falls into the records.
    obtain ⟨records, rfl⟩ : ∃ records, cut = cacheSignature ++ records := by
      have hfirst : cacheSignature <+: cut :=
        List.prefix_of_prefix_length_le (List.prefix_append _ _)
          (show cut <+: c.file from ⟨more, hmore⟩) (Nat.not_lt.1 hshort)
      obtain ⟨records, hrecords⟩ := hfirst
      exact ⟨records, hrecords.symm⟩
    have hnonempty : more ≠ [] := by
      rintro rfl
      exact hne (by simpa using hmore)
    rw [file, List.append_assoc, List.append_cancel_left_eq] at hmore
    have hend := incremental_readRecords.endOfFile (hmore ▸ readRecords_file htimes hc) hnonempty
    rw [if_neg hshort, decode_signature_append, hend]
    rfl

/-- **Damaged cache files are detected.** Let a cache be saved. Every proper beginning of its file
is refused, as truncated if it is shorter than the first line and otherwise because the records end
too early, and is never a shorter cache; whatever follows the file, the same cache is loaded; and a
file that is long enough but differs in a byte of the first line has an unsupported version. -/
theorem load_damaged (hc : c.Addressable) {bytes : List UInt8} (hsave : c.save true = .ok bytes) :
    (∀ cut, cut <+: bytes → cut ≠ bytes →
      load (some cut) = .error
        (if cut.length < cacheSignature.length then .cache .truncated
          else .serialization .endOfFile)) ∧
    (∀ more, load (some (bytes ++ more)) = .ok c) ∧
    ∀ other : List UInt8, cacheSignature.length ≤ other.length →
      (∃ i < cacheSignature.length, other[i]? ≠ bytes[i]?) →
      load (some other) = .error (.cache .unsupportedVersion) := by
  obtain ⟨htimes, rfl⟩ := save_eq_ok_iff.1 hsave
  refine ⟨fun cut => decode_cut htimes hc, decode_file htimes hc, ?_⟩
  rintro other hlen ⟨i, hi, hdiffers⟩
  refine decode_of_signature_ne hlen fun hsame => hdiffers ?_
  rw [file, List.getElem?_append_left hi]
  conv_rhs => rw [← hsame]
  rw [List.getElem?_take_of_lt hi]

/-- A file of two packets that ends within its first line, ends after the first packet, goes on
after the second, or names another version. -/
theorem load_damaged_noticeAndEvent :
    load (some (noticeAndEvent.file.take 10)) = .error (.cache .truncated) ∧
      load (some (noticeAndEvent.file.take 62)) = .error (.serialization .endOfFile) ∧
      load (some (noticeAndEvent.file ++ [0, 1])) = .ok noticeAndEvent ∧
      load (some (noticeAndEvent.file.set 26 0x32)) = .error (.cache .unsupportedVersion) := by
  have hc : noticeAndEvent.Addressable := ⟨by decide, by decide⟩
  have hsave : noticeAndEvent.save true = .ok noticeAndEvent.file := by decide +kernel
  obtain ⟨hcut, hmore, hversion⟩ := load_damaged hc hsave
  refine ⟨?_, ?_, hmore [0, 1], ?_⟩
  · have hshort : (noticeAndEvent.file.take 10).length < cacheSignature.length := by decide +kernel
    have hload := hcut _ (List.take_prefix 10 _) (by decide +kernel)
    rwa [if_pos hshort] at hload
  · have hlong : ¬ (noticeAndEvent.file.take 62).length < cacheSignature.length := by
      decide +kernel
    have hload := hcut _ (List.take_prefix 62 _) (by decide +kernel)
    rwa [if_neg hlong] at hload
  · exact hversion _ (by decide +kernel) ⟨26, by decide +kernel, by decide +kernel⟩

end PacketCache

end TimingFeed
