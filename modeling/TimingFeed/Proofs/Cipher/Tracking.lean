import TimingFeed.Cipher.Tracker
import TimingFeed.Proofs.Cipher.Recovery

/-!
# The key is recovered

A tracker that sees the packets of a connection, hidden under some key, finds this key and no
other. Main statement: `status_from_marker`.

* `KeySearch.Knows key n` is the invariant: after `n` hidden bytes the search holds a solve of
  bytes that the key gives, and from the 25th byte on the key itself;
* `KeySearch.knows_marker` anchors it on the marker, `Knows.observe` keeps it over one packet
  and `Knows.run` over all packets that carry on (`CarriesOn`);
* `Tracker.observeEach_getElem?` says what the status is after each packet.
-/

namespace TimingFeed

open Keystream Solver

/-- A packet whose plaintext is text of seven bits. -/
def Packet.IsText (p : Packet) : Prop :=
  p.systemKind? ≠ some .commentary ∧ p.systemKind? ≠ some .notice ∧
    p.systemKind? ≠ some .timestamp

instance (p : Packet) : Decidable p.IsText := inferInstanceAs (Decidable (_ ∧ _ ∧ _))

/-- Packets that can carry a solve on after `n` hidden bytes. -/
structure CarriesOn (n : Nat) (packets : List Packet) : Prop where
  /-- None of them restarts the cipher. -/
  steady : ∀ p ∈ packets, p.restartsCipher = false
  /-- The packets up to the byte that fixes the last key bit are text. -/
  text : ∀ before p after, packets = before ++ p :: after →
    n + (hiddenBytes before).length < fullBytes → p.hidden ≠ [] → p.IsText
  /-- So are the bytes up to there. -/
  clear : ∀ b ∈ (hiddenBytes packets).take (fullBytes - n), b < 128

namespace CarriesOn

variable {n : Nat} {p : Packet} {packets more : List Packet}

/-- The first packet and the others after it. -/
theorem tail (h : CarriesOn n (p :: packets)) : CarriesOn (n + p.hidden.length) packets where
  steady q hq := h.steady q (List.mem_cons_of_mem p hq)
  text before q after heq hlt :=
    h.text (p :: before) q after (by rw [heq, List.cons_append])
      (by rw [hiddenBytes_cons, List.length_append]; omega)
  clear b hb := by
    refine h.clear b ?_
    rw [hiddenBytes_cons, List.take_append]
    exact List.mem_append_right _ (by rwa [Nat.sub_sub])

theorem head_clear (h : CarriesOn n (p :: packets)) :
    ∀ b ∈ p.hidden.take (fullBytes - n), b < 128 := by
  intro b hb
  refine h.clear b ?_
  rw [hiddenBytes_cons, List.take_append]
  exact List.mem_append_left _ hb

/-- Packets of text carry on if their bytes are clear. -/
theorem of_text (hp : ∀ p ∈ packets, p.restartsCipher = false ∧ (p.hidden ≠ [] → p.IsText))
    (hclear : ∀ b ∈ (hiddenBytes packets).take (fullBytes - n), b < 128) :
    CarriesOn n packets where
  steady p h := (hp p h).1
  text before p after heq _ := (hp p (by simp [heq])).2
  clear := hclear

/-- The first packets carry on if all do. -/
theorem of_append (h : CarriesOn n (packets ++ more)) : CarriesOn n packets where
  steady q hq := h.steady q (List.mem_append_left more hq)
  text before q after heq :=
    h.text before q (after ++ more) (by rw [heq, List.append_assoc, List.cons_append])
  clear b hb := by
    refine h.clear b ?_
    rw [hiddenBytes_append, List.take_append]
    exact List.mem_append_left _ hb

end CarriesOn

/-! ### What hidden bytes tell -/

/-- A byte without its top bit shows the top bit of the keystream. -/
theorem fits_topBit {b : UInt8} (h : b < 128) (k : UInt8) : Known.topBit.Fits (b ^^^ k) k := by
  have htop : b.toBitVec.getLsbD 7 = false := by
    rw [BitVec.getLsbD]
    exact Nat.testBit_lt_two_pow (UInt8.lt_iff_toNat_lt.1 h)
  rw [Known.Fits, UInt8.toBitVec_xor, BitVec.getLsbD_xor, htop, Bool.false_xor]

section Compatible

variable {key : Word} {seen : List (UInt8 × Known)}

/-- Hidden text gives the top bits of the keystream. -/
theorem Compatible.append_text (h : Compatible key seen) {payload : List UInt8} {n : Nat}
    (hclear : ∀ b ∈ payload.take n, b < 128) :
    Compatible key (seen ++ (((payload.mapIdx fun i b => b ^^^ byteAt key (seen.length + i)).take
      n).map fun b => (b, .topBit))) := by
  rw [compatible_append]
  refine ⟨h, fun i x hi => ?_⟩
  rw [List.getElem?_map, Option.map_eq_some_iff] at hi
  obtain ⟨c, hc, rfl⟩ := hi
  by_cases hin : i < n
  · rw [List.getElem?_take_of_lt hin, List.getElem?_mapIdx, Option.map_eq_some_iff] at hc
    obtain ⟨b, hb, rfl⟩ := hc
    have hmem : b ∈ payload.take n :=
      List.mem_of_getElem? ((List.getElem?_take_of_lt hin).trans hb)
    exact fits_topBit (hclear b hmem) _
  · rw [List.getElem?_take, if_neg hin] at hc
    cases hc

end Compatible

namespace Keystream

variable {key : Word} (hkey : key ≠ 0#32) {p : Packet} (hp : p.restartsCipher = false) (n : Nat)

include hkey hp

/-- What hiding leaves of a packet: its category, and as many hidden bytes. -/
theorem systemKind?_applyPacket_after :
    ((after key n).applyPacket p).1.systemKind? = p.systemKind? := by
  rw [applyPacket_after hkey hp]
  dsimp only
  split <;> rfl

theorem restartsCipher_applyPacket_after :
    ((after key n).applyPacket p).1.restartsCipher = false := by
  rw [Packet.restartsCipher, systemKind?_applyPacket_after hkey hp]
  exact hp

theorem hidden_applyPacket_after :
    ((after key n).applyPacket p).1.hidden =
      p.hidden.mapIdx fun i b => b ^^^ byteAt key (n + i) := by
  rw [applyPacket_after hkey hp]
  by_cases he : p.isEncrypted
  · simp [Packet.hidden, he]
  · simp [Packet.hidden, he]

end Keystream

namespace KeySearch

/-! ### One packet -/

section Observe

variable (m : Marker) (s : KeySearch) {p : Packet}

/-- A packet without hidden bytes that does not restart the cipher tells nothing. -/
theorem observe_of_hidden_eq_nil (hp : p.restartsCipher = false) (hidden : p.hidden = []) :
    s.observe m p = s := by
  have hempty := Packet.hidden_eq_nil_iff.1 hidden
  rw [observe, if_neg (by simp [hp]), if_neg fun h => h.2 (hempty h.1)]

/-- Hidden bytes advance the search. -/
theorem observe_of_hidden_ne_nil (hp : p.restartsCipher = false) (hidden : p.hidden ≠ []) :
    s.observe m p = s.advance m p ∧ p.payload = p.hidden := by
  by_cases he : p.isEncrypted
  · have hpayload : p.hidden = p.payload := if_pos he
    rw [hpayload] at hidden ⊢
    exact ⟨by rw [observe, if_neg (by simp [hp]), if_pos ⟨he, hidden⟩], rfl⟩
  · exact absurd (if_neg he) hidden

theorem isUnreliable_eq_false (h : p.IsText) : isUnreliable p = false := by
  obtain ⟨hcommentary, hnotice, htimestamp⟩ := h
  unfold isUnreliable
  split
  · next heq => exact absurd heq hcommentary
  · next heq => exact absurd heq hnotice
  · next heq => exact absurd heq htimestamp
  · rfl

/-- A known key stays known. -/
theorem observe_recovered (key : Word) (p : Packet) :
    (recovered key).observe m p = recovered key := by
  unfold observe
  split
  · rfl
  · split <;> rfl

/-- Before the marker, quiet packets tell nothing. -/
theorem observe_start (hp : p.IsQuiet) : start.observe m p = start := by
  by_cases hr : p.restartsCipher
  · rw [observe, if_pos hr]
    rfl
  · exact observe_of_hidden_eq_nil m start (Bool.eq_false_iff.2 hr) (hp.resolve_left hr)

end Observe

/-- After `n` hidden bytes the search has a solve of them, or knows the key once they fix it. -/
inductive Knows (key : Word) (n : Nat) : KeySearch → Prop
  | solving {s : Solver} {seen : List (UInt8 × Known)} (nonempty : seen ≠ [])
      (length : seen.length = n) (short : n < fullBytes) (tracks : s.Tracks seen)
      (compatible : Compatible key seen) : Knows key n (.solving s)
  | recovered (long : fullBytes ≤ n) : Knows key n (.recovered key)

variable {key : Word} {n : Nat}

/-- What the invariant shows: seven bits more than bytes, then the key. -/
theorem Knows.status_eq {s : KeySearch} (h : Knows key n s) :
    s.status = if n < fullBytes then .inProgress (7 + n) else .recovered key := by
  cases h with
  | @solving s seen nonempty length short tracks compatible =>
    have hlen : seen.length ≠ 0 := fun h0 => nonempty (List.length_eq_zero_iff.1 h0)
    have hfew : n + 7 ≤ keyBits := Nat.le_of_succ_le (Nat.add_lt_add_right short 7)
    rw [if_pos short, status, tracks.resolved, bitsAfter, if_neg hlen, length,
      Nat.min_eq_left hfew, Nat.add_comm]
  | recovered long => rw [if_neg (Nat.not_lt.2 long), status]

theorem Knows.eq_recovered {s : KeySearch} (h : Knows key n s) (hn : fullBytes ≤ n) :
    s = .recovered key := by
  cases h with
  | solving _ _ short => exact absurd hn (Nat.not_le.2 short)
  | recovered => rfl

/-- A solve is settled: enough bytes give the key. -/
theorem knows_settle {s : Solver} {seen : List (UInt8 × Known)} (h : s.Tracks seen)
    (hn : seen ≠ []) (hkey : Compatible key seen) (hshort : n < fullBytes → seen.length = n)
    (hlong : fullBytes ≤ n → fullBytes ≤ seen.length) : Knows key n (settle s) := by
  by_cases hfull : fullBytes ≤ n
  · have hlen := hlong hfull
    rw [settle, if_pos (h.isComplete_iff.2 hlen), h.key_eq hlen hkey]
    exact .recovered hfull
  · have hlen := hshort (Nat.lt_of_not_le hfull)
    rw [settle, if_neg fun hc => hfull (hlen ▸ h.isComplete_iff.1 hc)]
    exact .solving hn hlen (Nat.lt_of_not_le hfull) h hkey

/-- The marker anchors the search. -/
theorem knows_marker {m : Marker} {q : Packet} (hkind : q.systemKind? = some m.kind)
    (htext : q.payload = m.plaintext.mapIdx fun i b => b ^^^ byteAt key (0 + i))
    (hne : m.plaintext ≠ []) : Knows key m.plaintext.length (anchor m q) := by
  obtain ⟨t, hanchor, htracks, hcompatible, hseen⟩ := Marker.anchor_of_hidden hkind htext
  rw [anchor, hanchor]
  refine knows_settle htracks (fun h0 => hne ?_) hcompatible (fun _ => hseen) (fun h => hseen ▸ h)
  exact List.length_eq_zero_iff.1 (hseen ▸ List.length_eq_zero_iff.2 h0)

/-- Text carries the solve on. -/
theorem Knows.advance {s : KeySearch} (h : Knows key n s) (m : Marker) {q : Packet}
    {text : List UInt8} (hq : q.payload = text.mapIdx fun i b => b ^^^ byteAt key (n + i))
    (hrel : n < fullBytes → isUnreliable q = false)
    (hclear : ∀ b ∈ text.take (fullBytes - n), b < 128) :
    Knows key (n + text.length) (s.advance m q) := by
  cases h with
  | @solving s seen nonempty length short tracks compatible =>
    subst length
    have hall := compatible.append_text hclear
    obtain ⟨t, ht, htracks⟩ :=
      tracks.absorbAll_of_compatible (fun h0 => absurd h0 nonempty) hall
    have hextend : s.extend q.payload = .ok t := by rw [tracks.extend_eq nonempty, hq, ht]
    simp only [KeySearch.advance, extend, hrel short, hextend]
    -- Bytes after the one that fixes the last key bit are not looked at.
    have hmore : (((text.mapIdx fun i b => b ^^^ byteAt key (seen.length + i)).take
        (fullBytes - seen.length)).map fun b => (b, Known.topBit)).length =
          min (fullBytes - seen.length) text.length := by
      rw [List.length_map, List.length_take, List.length_mapIdx]
    refine knows_settle htracks (by simp [nonempty]) hall ?_ ?_
    · intro hlt
      rw [List.length_append, hmore]
      omega
    · intro hle
      rw [List.length_append, hmore]
      omega
  | recovered long => exact .recovered (Nat.le_add_right_of_le long)

/-- **One packet keeps the invariant.** -/
theorem Knows.observe {s : KeySearch} (h : Knows key n s) (hkey : key ≠ 0#32) (m : Marker)
    {p : Packet} (hp : p.restartsCipher = false)
    (htext : n < fullBytes → p.hidden ≠ [] → p.IsText)
    (hclear : ∀ b ∈ p.hidden.take (fullBytes - n), b < 128) :
    Knows key (n + p.hidden.length) (s.observe m ((after key n).applyPacket p).1) := by
  have hq := restartsCipher_applyPacket_after hkey hp n
  have hhidden := hidden_applyPacket_after hkey hp n
  by_cases hempty : p.hidden = []
  · rw [hempty, List.mapIdx_nil] at hhidden
    rw [observe_of_hidden_eq_nil m s hq hhidden, hempty]
    exact h
  · have hne : ((after key n).applyPacket p).1.hidden ≠ [] := by
      rwa [hhidden, ne_eq, List.mapIdx_eq_nil_iff]
    obtain ⟨hobserve, hpayload⟩ := observe_of_hidden_ne_nil m s hq hne
    rw [hobserve]
    refine h.advance m (hpayload.trans hhidden) (fun hlt => ?_) hclear
    apply isUnreliable_eq_false
    rw [Packet.IsText, systemKind?_applyPacket_after hkey hp]
    exact htext hlt hempty

/-- **So do all packets that carry on.** -/
theorem Knows.run {s : KeySearch} (h : Knows key n s) (hkey : key ≠ 0#32) (m : Marker)
    {packets : List Packet} (hc : CarriesOn n packets) :
    Knows key (n + (hiddenBytes packets).length)
      (((after key n).replay packets).foldl (KeySearch.observe m) s) := by
  induction packets generalizing n s with
  | nil => exact h
  | cons p rest ih =>
    have hp : p.restartsCipher = false := hc.steady p List.mem_cons_self
    have hone := h.observe hkey m hp (hc.text [] p rest rfl) hc.head_clear
    have hnext : ((after key n).applyPacket p).2 = after key (n + p.hidden.length) := by
      rw [applyPacket_after hkey hp]
    rw [hiddenBytes_cons, List.length_append, ← Nat.add_assoc, replay_cons, List.foldl_cons, hnext]
    exact ih hone hc.tail

/-- Quiet packets leave a search at its start. -/
theorem run_quiet (m : Marker) {packets : List Packet} (h : ∀ p ∈ packets, p.IsQuiet) :
    packets.foldl (observe m) start = start := by
  induction packets with
  | nil => rfl
  | cons p rest ih =>
    rw [List.forall_mem_cons] at h
    rw [List.foldl_cons, observe_start m h.1, ih h.2]

/-- A known key stays known over any packets. -/
theorem run_recovered (m : Marker) (key : Word) (packets : List Packet) :
    packets.foldl (observe m) (recovered key) = recovered key := by
  induction packets with
  | nil => rfl
  | cons p rest ih => rw [List.foldl_cons, observe_recovered, ih]

/-- Quiet packets, the marker and packets that carry on: from the marker on, the search knows
the hidden bytes. -/
theorem knows_from_marker (hkey : key ≠ 0#32) {m : Marker} {quiet more : List Packet}
    {reference : Packet} (hquiet : ∀ p ∈ quiet, p.IsQuiet)
    (hkind : reference.systemKind? = some m.kind) (hencrypted : reference.isEncrypted = true)
    (htext : reference.payload = m.plaintext) (hne : m.plaintext ≠ [])
    (hmore : CarriesOn m.plaintext.length more) :
    Knows key (hiddenBytes (reference :: more)).length
      (((Keystream.start key).replay (quiet ++ reference :: more)).foldl (observe m) start) := by
  have hhidden : reference.hidden = m.plaintext := (if_pos hencrypted).trans htext
  have hp := reference.restartsCipher_of_isEncrypted hencrypted
  obtain ⟨hsame, hstay⟩ :
      (Keystream.start key).replay quiet = quiet ∧
        (Keystream.start key).advance quiet = Keystream.start key := replay_quiet hquiet
  -- The quiet packets leave both the search and the keystream at their start.
  rw [replay_append, hsame, hstay, List.foldl_append, run_quiet m hquiet, replay_cons,
    List.foldl_cons, ← after_zero, hiddenBytes_cons, List.length_append, hhidden]
  have hq := restartsCipher_applyPacket_after hkey hp 0
  have hqhidden := hidden_applyPacket_after hkey hp 0
  rw [hhidden] at hqhidden
  have hqne : ((after key 0).applyPacket reference).1.hidden ≠ [] := by
    rwa [hqhidden, ne_eq, List.mapIdx_eq_nil_iff]
  obtain ⟨hobserve, hpayload⟩ := observe_of_hidden_ne_nil m start hq hqne
  have hqkind := (systemKind?_applyPacket_after hkey hp 0).trans hkind
  have hanchored := knows_marker hqkind (hpayload.trans hqhidden) hne
  have hnext : ((after key 0).applyPacket reference).2 = after key m.plaintext.length := by
    rw [applyPacket_after hkey hp, hhidden, Nat.zero_add]
  rw [hobserve, hnext]
  exact hanchored.run hkey m hmore

end KeySearch

/-! ### A whole connection -/

/-- The event that opens a connection. -/
def openingEvent : Packet := .assemble ⟨0x20, 0x00⟩ [] .epoch

/-- The notice that every session begins with. -/
def openingNotice : Packet := .assemble ⟨0xC0, 0x1E⟩ Marker.pleaseWaitText .epoch

/-- The values of two cars, with a position between them. -/
def twoValues : List Packet :=
  [.assemble ⟨0x21, 0x40⟩ [0x31, 0x3A, 0x32, 0x39] .epoch, .assemble ⟨0x01, 0x06⟩ [] .epoch,
    .assemble ⟨0x42, 0x80⟩ [0x31, 0x3A, 0x32, 0x39, 0x2E, 0x31, 0x32, 0x33] .epoch]

theorem carriesOn_twoValues : CarriesOn Marker.pleaseWaitText.length twoValues :=
  .of_text (by decide) (by decide +kernel)

namespace Tracker

variable (t : Tracker)

/-- The state after several packets. -/
theorem observeEach_snd (packets : List Packet) :
    (t.observeEach packets).2 =
      { t with search := packets.foldl (KeySearch.observe t.marker) t.search } := by
  induction packets generalizing t with
  | nil => rfl
  | cons p rest ih => exact ih (t.observe p)

/-- The status after each packet is that of the packets up to it. -/
theorem observeEach_getElem? (packets : List Packet) {i : Nat} (hi : i < packets.length) :
    (t.observeEach packets).1[i]? =
      some ((packets.take (i + 1)).foldl (KeySearch.observe t.marker) t.search).status := by
  induction packets generalizing t i with
  | nil => simp at hi
  | cons p rest ih =>
    rw [List.take_succ_cons, List.foldl_cons]
    cases i with
    | zero => rfl
    | succ i => exact ih (t.observe p) (Nat.lt_of_succ_lt_succ hi)

/-- **The tracker recovers exactly the key of the connection.** Packets that are not hidden, are
empty or restart the cipher come first; then comes the marker, and after it packets that carry
on. When `n` hidden bytes were seen from the marker on, the status is the solve of `7 + n` bits,
or the key once these are all. -/
theorem status_from_marker {key : Word} (hkey : key ≠ 0#32) (m : Marker)
    {quiet more : List Packet} {reference : Packet} (hquiet : ∀ p ∈ quiet, p.IsQuiet)
    (hkind : reference.systemKind? = some m.kind) (hencrypted : reference.isEncrypted = true)
    (htext : reference.payload = m.plaintext) (hne : m.plaintext ≠ [])
    (hmore : CarriesOn m.plaintext.length more) {i : Nat} (hi : i ≤ more.length) :
    (({ marker := m } : Tracker).observeEach
        ((Keystream.start key).replay (quiet ++ reference :: more))).1[quiet.length + i]? =
      some (if (hiddenBytes (reference :: more.take i)).length < 25 then
          .inProgress (7 + (hiddenBytes (reference :: more.take i)).length)
        else .recovered key) := by
  have hfirst : CarriesOn m.plaintext.length (more.take i) := by
    rw [← List.take_append_drop i more] at hmore
    exact hmore.of_append
  have htake : (quiet ++ reference :: more).take (quiet.length + i + 1) =
      quiet ++ reference :: more.take i := by
    rw [Nat.add_assoc, List.take_length_add_append, List.take_succ_cons]
  have hlt : quiet.length + i <
      ((Keystream.start key).replay (quiet ++ reference :: more)).length := by
    rw [length_replay, List.length_append, List.length_cons]
    omega
  -- The packets up to the position are a connection of the same kind.
  rw [observeEach_getElem? _ _ hlt, take_replay, htake]
  exact congrArg some
    (KeySearch.knows_from_marker hkey hquiet hkind hencrypted htext hne hfirst).status_eq

/-- The last key bit falls into the second value. -/
theorem status_from_marker_two_values :
    (({ marker := .pleaseWait } : Tracker).observeEach ((Keystream.start 0xC0FFEE42#32).replay
        ([openingEvent] ++ openingNotice :: twoValues))).1[1 + 3]? =
      some (.recovered 0xC0FFEE42#32) :=
  (@status_from_marker 0xC0FFEE42#32 (by decide) .pleaseWait [openingEvent] twoValues openingNotice
    (List.forall_mem_singleton.2 (.inl (by decide))) (by decide) (by decide) rfl (by decide +kernel)
    carriesOn_twoValues 3 (by decide)).trans (by decide +kernel)

end Tracker

end TimingFeed
