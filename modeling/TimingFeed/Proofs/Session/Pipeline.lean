import TimingFeed.Proofs.Framer.Framing
import TimingFeed.Proofs.Session.Run
import Mathlib.Tactic.ByContra

/-!
# The whole pipeline

From the bytes of an encrypted connection to its plaintext. Main statement: `decrypts_session`.
However the bytes are cut into chunks, the framer finds the packets, the session passes them on,
its tracker recovers the key, and the kept packets decrypt to what was sent.
-/

namespace TimingFeed

/-! ### Receipt times play no part in the cipher -/

theorem Keystream.applyPacket_untimed (k : Keystream) (p : Packet) :
    k.applyPacket p.untimed = ((k.applyPacket p).1.untimed, (k.applyPacket p).2) := by
  by_cases hr : p.restartsCipher
  · have hr' : p.untimed.restartsCipher = true := hr
    rw [applyPacket, if_pos hr', applyPacket, if_pos hr]
  · have hr' : ¬ p.untimed.restartsCipher = true := hr
    rw [applyPacket, if_neg hr', applyPacket, if_neg hr]
    by_cases he : p.isEncrypted
    · have he' : p.untimed.isEncrypted = true := he
      rw [if_pos he', if_pos he]
      rfl
    · have he' : ¬ p.untimed.isEncrypted = true := he
      rw [if_neg he', if_neg he]

theorem Keystream.replay_untimed (k : Keystream) (packets : List Packet) :
    k.replay (packets.map Packet.untimed) = (k.replay packets).map Packet.untimed := by
  induction packets generalizing k with
  | nil => rfl
  | cons p rest ih =>
    rw [List.map_cons, replay_cons, replay_cons, applyPacket_untimed, ih, List.map_cons]

theorem KeySearch.observe_untimed (m : Marker) (s : KeySearch) (p : Packet) :
    s.observe m p.untimed = s.observe m p := rfl

/-- A search goes the same way over packets that differ in their receipt times alone. -/
theorem KeySearch.run_untimed (m : Marker) (s : KeySearch) (packets : List Packet) :
    (packets.map Packet.untimed).foldl (observe m) s = packets.foldl (observe m) s := by
  simp only [List.foldl_map, observe_untimed]

/-- Packets alike but for their receipt times are passed on, searched and decrypted alike. -/
theorem Session.handleAll_untimed {marker : Marker} (limit : Nat) {received sent : List Packet}
    (h : received.map Packet.untimed = sent.map Packet.untimed) {key : Word}
    (hkey : sent.foldl (KeySearch.observe marker) .start = .recovered key) :
    ((start marker limit).handleAll received).1.key? = some key ∧
      ∃ kept, ((start marker limit).handleAll received).1.decryptedCache? = some kept ∧
        kept.map Packet.untimed =
          ((Keystream.start key).replay (sent.take limit)).map Packet.untimed := by
  have hsearch : ((start marker limit).handleAll received).1.tracker.search = .recovered key := by
    rw [tracker_handleAll, Tracker.observeEach_snd]
    show received.foldl (KeySearch.observe marker) .start = _
    rw [← KeySearch.run_untimed, h, KeySearch.run_untimed, hkey]
  have hfound : ((start marker limit).handleAll received).1.key? = some key := by
    rw [key?, Tracker.key?, Tracker.status, hsearch]
    rfl
  refine ⟨hfound, _, by rw [decryptedCache?, hfound, Option.map_some], ?_⟩
  rw [cache_handleAll, ← Keystream.replay_untimed, ← Keystream.replay_untimed]
  show (Keystream.start key).replay (([] ++ received.take limit).map Packet.untimed) = _
  rw [List.nil_append, List.map_take, h, List.map_take]

theorem Packet.isEncrypted_of_notice (p : Packet) (h : p.systemKind? = some .notice) :
    p.isEncrypted = true := by
  have hs : p.header.isSystem = true := by
    by_contra hs
    rw [systemKind?, if_neg hs] at h
    cases h
  rw [isEncrypted, if_pos hs, h]

/-- Nothing hidden, then the notice, then enough that carries on, then anything: the search over
the hidden packets ends with the key. -/
theorem KeySearch.run_recovers {key : Word} (hkey : key ≠ 0#32)
    {before opening rest : List Packet} {notice : Packet} (hbefore : ∀ p ∈ before, p.hidden = [])
    (hkind : notice.systemKind? = some .notice)
    (htext : notice.payload = Marker.pleaseWaitText)
    (hopening : CarriesOn Marker.pleaseWaitText.length opening)
    (henough : 25 ≤ (hiddenBytes (notice :: opening)).length) :
    ((Keystream.start key).replay (before ++ notice :: (opening ++ rest))).foldl
        (observe .pleaseWait) start = recovered key := by
  have hquiet : ∀ p ∈ before, p.IsQuiet := fun p hp => .inr (hbefore p hp)
  have hne : Marker.pleaseWait.plaintext ≠ [] := by decide +kernel
  have hknows := knows_from_marker hkey hquiet hkind (notice.isEncrypted_of_notice hkind) htext
    hne hopening
  have hsplit : before ++ notice :: (opening ++ rest) = (before ++ notice :: opening) ++ rest := by
    rw [List.append_assoc, List.cons_append]
  rw [hsplit, Keystream.replay_append, List.foldl_append, hknows.eq_recovered henough,
    run_recovered]

/-- **The whole pipeline decrypts a session.** The packets of a connection are hidden under one
key that is not zero. Nothing is hidden before the notice; from the notice on, packets that carry
on have at least 25 hidden bytes, and anything may follow them. However the bytes of the hidden
packets are cut into chunks, a framer finds these packets, receipt times apart, and a fresh
session passes them on in order, finds the key, and decrypts what it has kept to the first
packets of the connection. -/
theorem Session.decrypts_session {key : Word} (hkey : key ≠ 0#32) (limit : Nat)
    {packets before opening rest : List Packet} {notice : Packet}
    (hpackets : packets = before ++ notice :: (opening ++ rest))
    (hwf : ∀ p ∈ packets, p.WellFormed) (hbefore : ∀ p ∈ before, p.hidden = [])
    (hkind : notice.systemKind? = some .notice) (htext : notice.payload = Marker.pleaseWaitText)
    (hopening : CarriesOn Marker.pleaseWaitText.length opening)
    (henough : 25 ≤ (hiddenBytes (notice :: opening)).length)
    {chunks : List (Instant × List UInt8)}
    (hchunks : chunks.flatMap (·.2) =
      ((Keystream.start key).replay packets).flatMap Packet.toBytes) :
    ∃ received : List Packet,
      (({} : Framer).feedEach chunks).1 = received.map .ok ∧
      received.map Packet.untimed =
        ((Keystream.start key).replay packets).map Packet.untimed ∧
      let (session, events) := (Session.start .pleaseWait limit).handleAll received
      events.filterMap SessionEvent.forwarded? = received ∧ session.key? = some key ∧
        ∃ kept, session.decryptedCache? = some kept ∧
          kept.map Packet.untimed = (packets.take limit).map Packet.untimed := by
  -- Hiding keeps headers and lengths, so the hidden packets are frames of their own.
  have hframing := framing_of_wellFormed (Keystream.wellFormed_replay (.start key) hwf)
  obtain ⟨received, hfeed, hsame⟩ := Framer.feedEach_of_framing hframing hchunks
  have hsearch : ((Keystream.start key).replay packets).foldl
      (KeySearch.observe .pleaseWait) .start = .recovered key := by
    rw [hpackets]
    exact KeySearch.run_recovers hkey hbefore hkind htext hopening henough
  obtain ⟨hfound, kept, hdecrypted, hkept⟩ := handleAll_untimed limit hsame hsearch
  refine ⟨received, by rw [hfeed], hsame, forwarded_handleAll _ received, hfound, kept,
    hdecrypted, ?_⟩
  -- What is kept begins where the connection began, so the same keystream shows it.
  rw [hkept, Keystream.take_replay, Keystream.replay_replay]

/-- A session that is restarted after two values. -/
def restartedSession : List Packet :=
  [openingEvent] ++ openingNotice :: (twoValues ++ [openingEvent])

/-- Its bytes under a key. -/
def restartedWire : List UInt8 :=
  ((Keystream.start 0xC0FFEE42#32).replay restartedSession).flatMap Packet.toBytes

/-- The bytes are cut within the header of the notice, and the last packets are not kept. -/
theorem Session.decrypts_restartedSession :
    ∃ received : List Packet,
      (({} : Framer).feedEach [(.epoch, restartedWire.take 3), (.epoch, restartedWire.drop 3)]).1 =
        received.map .ok ∧
      let (session, _) := (Session.start .pleaseWait 4).handleAll received
      session.key? = some 0xC0FFEE42#32 ∧ ∃ kept, session.decryptedCache? = some kept ∧
        kept.map Packet.untimed = (restartedSession.take 4).map Packet.untimed := by
  have hwire : restartedWire.take 3 ++ (restartedWire.drop 3 ++ []) =
      ((Keystream.start 0xC0FFEE42#32).replay restartedSession).flatMap Packet.toBytes := by
    rw [List.append_nil, List.take_append_drop, restartedWire]
  obtain ⟨received, hitems, -, -, hkey, hkept⟩ :=
    @decrypts_session 0xC0FFEE42#32 (by decide) 4 restartedSession [openingEvent] twoValues
      [openingEvent] openingNotice rfl (by decide +kernel) (by decide) (by decide) rfl
      carriesOn_twoValues (by decide +kernel)
      [(.epoch, restartedWire.take 3), (.epoch, restartedWire.drop 3)] hwire
  exact ⟨received, hitems, hkey, hkept⟩

end TimingFeed
