import TimingFeed.Proofs.Session.Run

/-!
# The cache of a session

A session takes packets and hands its cache over, in any order. Main statement: `answerAll_cache`.
Every packet is passed on once; the cache holds the first packets since it was last handed over,
up to the limit; and a warning tells of the first packet that is not kept.

* `Session.Call` is what can be asked of a session, `Session.answerAll` a run of calls;
* `Session.Stretches` are the packets of a run, cut where the cache was handed over;
* `Session.Keeps` is the invariant, `Keeps.answer` keeps it over one call and `keeps_answerAll`
  over a whole run.
-/

namespace TimingFeed

namespace Session

/-- What can be asked of a session. -/
inductive Call
  | handle (packet : Packet)
  | takeCache
  deriving DecidableEq

/-- The packet of a call, if it has one. -/
def Call.packet? : Call → Option Packet
  | handle p => some p
  | takeCache => none

/-- What a call gives: what happened, and the packets that are handed over, if it asks for them. -/
structure Answer where
  events : List SessionEvent := []
  taken? : Option (List Packet) := none

/-- The answer to a call, and the session after it. -/
def answer (s : Session) : Call → Answer × Session
  | .handle p => ({ events := (s.handle p).2 }, (s.handle p).1)
  | .takeCache => ({ taken? := some s.takeCache.1 }, s.takeCache.2)

/-- The answers to several calls in a row. -/
def answerAll : Session → List Call → List Answer × Session
  | s, [] => ([], s)
  | s, c :: calls =>
    let (first, t) := s.answer c
    let (later, u) := answerAll t calls
    (first :: later, u)

/-- The packets of a run, cut where the cache was handed over. -/
structure Stretches where
  /-- Those that were ended by handing over, the first one first. -/
  closed : List (List Packet) := []
  /-- The packets since then. -/
  current : List Packet := []

namespace Stretches

/-- A packet continues the current stretch, and handing over ends it. -/
def after (t : Stretches) : Call → Stretches
  | .handle p => { t with current := t.current ++ [p] }
  | .takeCache => { closed := t.closed ++ [t.current], current := [] }

/-- All stretches, the current one last. -/
def all (t : Stretches) : List (List Packet) := t.closed ++ [t.current]

end Stretches

/-- The stretches of a run of calls. -/
def stretches (calls : List Call) : Stretches := calls.foldl Stretches.after {}

/-- Each packet is in one stretch, in order. -/
theorem flatten_foldl_after (t : Stretches) (calls : List Call) :
    (calls.foldl Stretches.after t).all.flatten =
      t.all.flatten ++ calls.filterMap Call.packet? := by
  induction calls generalizing t with
  | nil => simp
  | cons c calls ih =>
    rw [List.foldl_cons, ih]
    cases c <;> simp [Stretches.after, Stretches.all, List.filterMap_cons, Call.packet?]

/-! ### The warning -/

/-- What the log says of a full cache. -/
def cacheFullMessage : String := "Packet cache full, later packets are not kept"

/-- The line that tells that the cache is full. -/
def cacheFullLine (limit : Nat) : LogLine :=
  ⟨.warn, cacheFullMessage, [("limit", toString limit)]⟩

/-- The lines of some events that tell of a full cache, whatever their level and values. -/
def cacheFullLines (events : List SessionEvent) : List LogLine :=
  (events.filterMap SessionEvent.line?).filter (·.message = cacheFullMessage)

namespace Stretches

variable (t : Stretches) (limit : Nat)

/-- One line for each stretch that is longer than the limit. -/
def warnings : List LogLine :=
  (t.all.filter (limit < ·.length)).map fun _ => cacheFullLine limit

/-- The packet after the last one that is kept makes a stretch longer than the limit. -/
theorem warnings_handle (p : Packet) :
    (t.after (.handle p)).warnings limit =
      t.warnings limit ++ if t.current.length = limit then [cacheFullLine limit] else [] := by
  rcases Nat.lt_trichotomy limit t.current.length with hover | hlast | hroom
  · simp [warnings, all, after, hover, Nat.lt_succ_of_lt hover, Nat.ne_of_gt hover]
  · simp [warnings, all, after, ← hlast]
  · have hfits : ¬ limit < t.current.length + 1 := Nat.not_lt.2 hroom
    simp [warnings, all, after, hfits, Nat.ne_of_lt hroom, Nat.not_lt.2 (Nat.le_of_lt hroom)]

/-- A stretch without packets is not longer. -/
theorem warnings_takeCache : (t.after .takeCache).warnings limit = t.warnings limit := by
  simp [warnings, all, after, List.filter_cons]

end Stretches

@[simp] theorem cacheFullLines_append (events more : List SessionEvent) :
    cacheFullLines (events ++ more) = cacheFullLines events ++ cacheFullLines more := by
  simp [cacheFullLines]

/-- A change of the status is told in other words. -/
@[simp] theorem cacheFullLines_statusEvents (before after : KeyStatus) :
    cacheFullLines (statusEvents before after) = [] := by
  unfold statusEvents
  split_ifs
  · rfl
  · cases after <;> simp [cacheFullLines, SessionEvent.line?, cacheFullMessage]

/-- A packet without room is told of, unless an earlier one was. -/
theorem cacheFullLines_keep (s : Session) (p : Packet) :
    cacheFullLines (s.keep p).2 =
      if s.cache.toList.length < s.cacheLimit ∨ s.cacheFull = true then []
      else [cacheFullLine s.cacheLimit] := by
  by_cases hroom : s.cache.toList.length < s.cacheLimit
  · simp [keep, hroom, cacheFullLines]
  · cases hfull : s.cacheFull <;>
      simp [keep, hroom, hfull, cacheFullLines, SessionEvent.line?, cacheFullLine, cacheFullMessage]

/-- From then on the session knows that one was. -/
theorem cacheFull_keep (s : Session) (p : Packet) :
    (s.keep p).1.cacheFull =
      (decide (s.cacheLimit ≤ s.cache.toList.length) || s.cacheFull) := by
  by_cases hroom : s.cache.toList.length < s.cacheLimit
  · simp [keep, hroom, Nat.not_le.2 hroom]
  · cases hfull : s.cacheFull <;> simp [keep, hroom, hfull, Nat.le_of_not_lt hroom]

theorem cacheFullLines_handle (s : Session) (p : Packet) :
    cacheFullLines (s.handle p).2 =
      if s.cache.toList.length < s.cacheLimit ∨ s.cacheFull = true then []
      else [cacheFullLine s.cacheLimit] := by
  have hkeep := cacheFullLines_keep { s with tracker := s.tracker.observe p } p
  have hforwarded : cacheFullLines [.forwarded p] = [] := rfl
  rw [handle, cacheFullLines_append, cacheFullLines_append, cacheFullLines_statusEvents,
    hforwarded, List.append_nil, List.nil_append]
  exact hkeep

theorem cacheFull_handle (s : Session) (p : Packet) :
    (s.handle p).1.cacheFull =
      (decide (s.cacheLimit ≤ s.cache.toList.length) || s.cacheFull) :=
  cacheFull_keep { s with tracker := s.tracker.observe p } p

/-! ### The invariant -/

/-- The session after some stretches, the events so far and what was handed over. -/
structure Keeps (limit : Nat) (t : Stretches) (events : List SessionEvent)
    (taken : List (List Packet)) (s : Session) : Prop where
  cacheLimit : s.cacheLimit = limit
  cache : s.cache.toList = t.current.take limit
  cacheFull : s.cacheFull = decide (limit < t.current.length)
  forwarded : events.filterMap SessionEvent.forwarded? = t.all.flatten
  taken : taken = t.closed.map (·.take limit)
  told : cacheFullLines events = t.warnings limit

theorem keeps_start (marker : Marker) (limit : Nat) :
    Keeps limit {} [] [] (start marker limit) where
  cacheLimit := rfl
  cache := by simp [start, PacketCache.toList]
  cacheFull := by simp [start]
  forwarded := rfl
  taken := rfl
  told := by simp [Stretches.warnings, Stretches.all, cacheFullLines]

section Step

variable {limit : Nat} {t : Stretches} {events : List SessionEvent} {taken : List (List Packet)}
  {s : Session}

/-- A packet is told of if it is the first one that is not kept. -/
theorem Keeps.told_handle (h : Keeps limit t events taken s) (p : Packet) :
    cacheFullLines (s.handle p).2 =
      if t.current.length = limit then [cacheFullLine limit] else [] := by
  have hroom : min limit t.current.length < limit ∨ limit < t.current.length ↔
      t.current.length ≠ limit := by omega
  rw [cacheFullLines_handle, h.cacheLimit, h.cache, h.cacheFull, List.length_take]
  simp only [decide_eq_true_iff, hroom, ne_eq, ite_not]

theorem Keeps.handle (h : Keeps limit t events taken s) (p : Packet) :
    Keeps limit (t.after (.handle p)) (events ++ (s.handle p).2) taken (s.handle p).1 where
  cacheLimit := (cacheLimit_handle s p).trans h.cacheLimit
  cache := by
    rw [cache_handle, h.cache, h.cacheLimit, Stretches.after, List.take_append, List.length_take]
    congr 2
    omega
  cacheFull := by
    rw [cacheFull_handle, h.cacheFull, h.cache, h.cacheLimit, List.length_take, ← Bool.decide_or,
      Stretches.after, List.length_append, List.length_singleton]
    congr 1
    exact propext (by omega)
  forwarded := by
    rw [List.filterMap_append, h.forwarded, forwarded_handle]
    simp [Stretches.after, Stretches.all]
  taken := h.taken
  told := by
    rw [cacheFullLines_append, h.told, h.told_handle, Stretches.warnings_handle]

theorem Keeps.takeCache (h : Keeps limit t events taken s) :
    Keeps limit (t.after .takeCache) events (taken ++ [s.takeCache.1]) s.takeCache.2 where
  cacheLimit := h.cacheLimit
  cache := by simp [Session.takeCache, Stretches.after, PacketCache.toList]
  cacheFull := by simp [Session.takeCache, Stretches.after]
  forwarded := by
    rw [h.forwarded]
    simp [Stretches.after, Stretches.all]
  taken := by
    rw [h.taken, Session.takeCache, h.cache, Stretches.after, List.map_append]
    rfl
  told := h.told.trans (t.warnings_takeCache limit).symm

/-- **One call keeps it.** -/
theorem Keeps.answer (h : Keeps limit t events taken s) (c : Call) :
    Keeps limit (t.after c) (events ++ (s.answer c).1.events)
      (taken ++ (s.answer c).1.taken?.toList) (s.answer c).2 := by
  cases c with
  | handle p => simpa [Session.answer] using h.handle p
  | takeCache => simpa [Session.answer] using h.takeCache

/-- **So does a run of calls.** -/
theorem Keeps.answerAll (h : Keeps limit t events taken s) (calls : List Call) :
    Keeps limit (calls.foldl Stretches.after t)
      (events ++ (s.answerAll calls).1.flatMap Answer.events)
      (taken ++ (s.answerAll calls).1.filterMap Answer.taken?) (s.answerAll calls).2 := by
  induction calls generalizing t events taken s with
  | nil => simpa [Session.answerAll] using h
  | cons c calls ih =>
    have hcalls := ih (h.answer c)
    have htaken : (s.answerAll (c :: calls)).1.filterMap Answer.taken? =
        (s.answer c).1.taken?.toList ++
          ((s.answer c).2.answerAll calls).1.filterMap Answer.taken? := by
      cases c <;> rfl
    rw [List.append_assoc, List.append_assoc, ← htaken] at hcalls
    exact hcalls

end Step

/-- After any run of calls to a fresh session its invariant holds. -/
theorem keeps_answerAll (marker : Marker) (limit : Nat) (calls : List Call) :
    Keeps limit (stretches calls) (((start marker limit).answerAll calls).1.flatMap Answer.events)
      (((start marker limit).answerAll calls).1.filterMap Answer.taken?)
      ((start marker limit).answerAll calls).2 :=
  (keeps_start marker limit).answerAll calls

/-- **What a session keeps, hands over, passes on and tells.** A fresh session takes packets and
hands its cache over, in any order. Every packet was passed on, once and in order; the cache holds
the first packets since it was last handed over, up to the limit; each time these packets were
handed over, and none is left then. That the cache is full was told once for every stretch between
two handings over, or up to now, with more packets than the limit; and of the next packet it is told
exactly if it is the first one that is not kept. -/
theorem answerAll_cache (marker : Marker) (limit : Nat) (calls : List Call) :
    let (answers, s) := (start marker limit).answerAll calls
    let events := answers.flatMap Answer.events
    let t := stretches calls
    events.filterMap SessionEvent.forwarded? = calls.filterMap Call.packet? ∧
      s.cache.toList = t.current.take limit ∧
      answers.filterMap Answer.taken? = t.closed.map (·.take limit) ∧
      s.takeCache.1 = t.current.take limit ∧ s.takeCache.2.cache.toList = [] ∧
      cacheFullLines events = (t.all.filter (limit < ·.length)).map (fun _ => cacheFullLine limit) ∧
      ∀ p, cacheFullLines (s.handle p).2 =
        if t.current.length = limit then [cacheFullLine limit] else [] := by
  have hkeeps := keeps_answerAll marker limit calls
  refine ⟨?_, hkeeps.cache, hkeeps.taken, hkeeps.cache, rfl, hkeeps.told, hkeeps.told_handle⟩
  exact hkeeps.forwarded.trans (flatten_foldl_after {} calls)

end Session

end TimingFeed
