import TimingFeed.Config.Writing
import TimingFeed.Proofs.Result
import TimingFeed.Proofs.Toml.Documents

/-!
# Settings survive saving

Main statement: `load_of_save`. Accepted settings that can be saved are loaded with their times
rounded down to whole milliseconds and are saved the same way again, as long as the milliseconds of
the time to connect fit 64 bits. Longer ones are cut before anything checks that they can be written
(`longTimeout_cut`).

* `Config.sections` is the document of settings; `toText_eq_ok_iff` says which settings have one.
* `ofDocument_sections`: what is read from it are the settings with their times cut
  (`Config.saved`), whether they were accepted or not.
* Of the two times only the length of a poll is bounded from above (`pollInterval_saved`).
-/

namespace TimingFeed

open Toml (Section Value)

/-! ### Times -/

namespace Span

/-- A time in whole milliseconds, rounded down. -/
def rounded (d : Span) : Span := .ofMillis d.millis

/-- A time as it comes back from a document: its milliseconds, cut to 64 bits. -/
def saved (d : Span) : Span := .ofMillis (d.millis % 2 ^ 64)

theorem saved_eq_rounded_iff {d : Span} : d.saved = d.rounded ↔ d.millis < 2 ^ 64 := by
  constructor
  · intro h
    have hmillis : d.millis % 2 ^ 64 = d.millis := by
      simpa [saved, rounded] using congrArg millis h
    omega
  · intro h
    rw [saved, rounded, Nat.mod_eq_of_lt h]

end Span

namespace Config

variable {c : Config}

/-- Settings with their times rounded down to whole milliseconds. -/
def rounded (c : Config) : Config :=
  { c with stream := { c.stream with
      pollInterval := c.stream.pollInterval.rounded
      connectTimeout := c.stream.connectTimeout.rounded } }

/-- Settings as they come back from a document. -/
def saved (c : Config) : Config :=
  { c with stream := { c.stream with
      pollInterval := c.stream.pollInterval.saved
      connectTimeout := c.stream.connectTimeout.saved } }

/-! ### The document of settings -/

/-- That all numbers among the settings have a written form. -/
structure IsWritable (c : Config) : Prop where
  pollInterval : c.stream.pollInterval.millis % 2 ^ 64 ≤ maxInteger
  readBufferSize : c.stream.readBufferSize.toNat ≤ maxInteger
  connectTimeout : c.stream.connectTimeout.millis % 2 ^ 64 ≤ maxInteger
  maxCachedPackets : c.session.maxCachedPackets.toNat ≤ maxInteger

/-- The document of settings, whether its numbers have a written form or not. -/
def sections (c : Config) : List Section :=
  [⟨"stream",
    [("host", .string c.stream.host),
      ("port", .integer c.stream.port.toNat),
      ("poll_interval", .integer (c.stream.pollInterval.millis % 2 ^ 64 : Nat)),
      ("idle_polls_before_ping", .integer c.stream.idlePollsBeforePing.toNat),
      ("ping_byte", .integer c.stream.pingByte.toNat),
      ("read_buffer_size", .integer c.stream.readBufferSize.toNat),
      ("connect_timeout", .integer (c.stream.connectTimeout.millis % 2 ^ 64 : Nat))]⟩,
    ⟨"session", [("max_cached_packets", .integer c.session.maxCachedPackets.toNat)]⟩,
    c.logging.toSection]

theorem writeNumber_eq_ok_iff {n : Nat} {x : Toml.Scalar} :
    writeNumber n = .ok x ↔ n ≤ maxInteger ∧ .integer n = x := by
  unfold writeNumber
  split_ifs with hn <;> simp [hn]

theorem toSections_eq_ok_iff {sections : List Section} :
    c.toSections = .ok sections ↔ c.IsWritable ∧ c.sections = sections := by
  simp only [toSections, StreamConfig.toSection, SessionConfig.toSection, bind_eq_ok_iff,
    writeSpan, writeNumber_eq_ok_iff, pure, Except.pure, Except.ok.injEq]
  constructor
  · rintro ⟨_, ⟨_, ⟨hpoll, rfl⟩, _, ⟨hbuffer, rfl⟩, _, ⟨hconnect, rfl⟩, rfl⟩, _,
      ⟨_, ⟨hlimit, rfl⟩, rfl⟩, rfl⟩
    exact ⟨⟨hpoll, hbuffer, hconnect, hlimit⟩, rfl⟩
  · rintro ⟨⟨hpoll, hbuffer, hconnect, hlimit⟩, rfl⟩
    exact ⟨_, ⟨_, ⟨hpoll, rfl⟩, _, ⟨hbuffer, rfl⟩, _, ⟨hconnect, rfl⟩, rfl⟩, _,
      ⟨_, ⟨hlimit, rfl⟩, rfl⟩, rfl⟩

theorem toText_eq_ok_iff {text : String} :
    c.toText = .ok text ↔ c.IsWritable ∧ String.ofList (Toml.renderSections c.sections) = text := by
  simp only [toText, map_eq_ok_iff, toSections_eq_ok_iff]
  constructor
  · rintro ⟨_, ⟨hc, rfl⟩, rfl⟩
    exact ⟨hc, rfl⟩
  · rintro ⟨hc, rfl⟩
    exact ⟨_, ⟨hc, rfl⟩, rfl⟩

theorem fits_natCast {n : Nat} (h : n ≤ maxInteger) : (Toml.Scalar.integer n).Fits := by
  have hmax : maxInteger = 0x7FFFFFFFFFFFFFFF := rfl
  simp only [Toml.Scalar.Fits, Toml.inRange, Bool.and_eq_true, decide_eq_true_eq]
  omega

theorem isWritten_sections (h : c.IsWritable) : ∀ s ∈ c.sections, s.IsWritten := by
  have hport := c.stream.port.toNat_lt
  have hpolls := c.stream.idlePollsBeforePing.toNat_lt
  have hping := c.stream.pingByte.toNat_lt
  have hmax : maxInteger = 0x7FFFFFFFFFFFFFFF := rfl
  simp only [sections, LoggingConfig.toSection, List.forall_mem_cons, List.not_mem_nil,
    false_imp_iff, implies_true, and_true]
  refine ⟨⟨(by decide : Toml.IsBareKey "stream"), ?_, ?_⟩,
    ⟨(by decide : Toml.IsBareKey "session"), ?_, ?_⟩,
    ⟨(by decide : Toml.IsBareKey "logging"), ?_, ?_⟩⟩
  all_goals
    simp only [List.forall_mem_cons, List.not_mem_nil, false_imp_iff, implies_true, and_true]
  · decide
  · exact ⟨trivial, fits_natCast (by omega), fits_natCast h.pollInterval,
      fits_natCast (by omega), fits_natCast (by omega), fits_natCast h.readBufferSize,
      fits_natCast h.connectTimeout⟩
  · decide
  · exact fits_natCast h.maxCachedPackets
  · decide
  · exact ⟨trivial, trivial, trivial, trivial⟩

theorem areDistinct_sections (c : Config) : Toml.AreDistinct c.sections where
  names := by simp [sections, LoggingConfig.toSection]
  keys := by simp [sections, LoggingConfig.toSection]

/-! ### Reading -/

section Reading

open Setting

theorem text_string (s : String) : text (.string s) = .ok s := rfl

theorem unsigned_natCast {bits n : Nat} (h : n < Nat.pow 2 bits) (expected : String) :
    unsigned bits expected (.integer n) = .ok n := by
  have hlt : (n : Int) < Nat.pow 2 bits := Int.ofNat_lt.2 h
  rw [unsigned, if_pos ⟨Int.natCast_nonneg n, hlt⟩, Int.toNat_natCast]

theorem size_toNat (x : UInt64) : size (.integer x.toNat) = .ok x := by
  rw [size, unsigned_natCast x.toNat_lt]
  simp [Except.map]

theorem millis_saved (d : Span) : millis (.integer (d.millis % 2 ^ 64 : Nat)) = .ok d.saved := by
  have hlt : d.millis % 2 ^ 64 < Nat.pow 2 64 := Nat.mod_lt _ (by decide)
  rw [millis, unsigned_natCast hlt]
  rfl

variable {host port pollInterval idlePolls pingByte readBufferSize connectTimeout limit : Value}

/-- A complete section `stream` is read value by value. -/
theorem read_stream {stream : StreamConfig} (hhost : text host = .ok stream.host)
    (hport : unsigned 16 "u16" port = .ok stream.port.toNat)
    (hpollInterval : millis pollInterval = .ok stream.pollInterval)
    (hidlePolls : unsigned 32 "u32" idlePolls = .ok stream.idlePollsBeforePing.toNat)
    (hpingByte : unsigned 8 "u8" pingByte = .ok stream.pingByte.toNat)
    (hreadBufferSize : size readBufferSize = .ok stream.readBufferSize)
    (hconnectTimeout : millis connectTimeout = .ok stream.connectTimeout) :
    StreamConfig.read (.table [("host", host), ("port", port), ("poll_interval", pollInterval),
      ("idle_polls_before_ping", idlePolls), ("ping_byte", pingByte),
      ("read_buffer_size", readBufferSize), ("connect_timeout", connectTimeout)]) = .ok stream := by
  simp [StreamConfig.read, readSection, StreamConfig.fields, checkAll, Field.of, required,
    Toml.find?, hhost, hport, hpollInterval, hidlePolls, hpingByte, hreadBufferSize,
    hconnectTimeout, Except.map, Except.bind, bind, pure, Except.pure]

theorem read_session {session : SessionConfig}
    (hlimit : size limit = .ok session.maxCachedPackets) :
    SessionConfig.read (.table [("max_cached_packets", limit)]) = .ok session := by
  simp [SessionConfig.read, readSection, SessionConfig.fields, checkAll, Field.of, required,
    Toml.find?, hlimit, Except.map, Except.bind, bind, pure, Except.pure]

theorem read_logging (logging : LoggingConfig) :
    LoggingConfig.read logging.toSection.toEntry.2 = .ok logging := by
  simp [LoggingConfig.toSection, Section.toEntry, LoggingConfig.read, readSection,
    LoggingConfig.fields, checkAll, Field.of, required, Toml.find?, text, level, truth,
    LogLevel.ofText?_lowerName, Toml.Scalar.toValue, Except.map, Except.bind, bind, pure,
    Except.pure]

/-- The three sections make up the settings. -/
theorem ofDocument_of_read {v₁ v₂ v₃ : Value} {stream : StreamConfig} {session : SessionConfig}
    {logging : LoggingConfig} (hstream : StreamConfig.read v₁ = .ok stream)
    (hsession : SessionConfig.read v₂ = .ok session)
    (hlogging : LoggingConfig.read v₃ = .ok logging) :
    ofDocument [("stream", v₁), ("session", v₂), ("logging", v₃)] =
      .ok { stream, session, logging } := by
  simp [ofDocument, readEntry, hstream, hsession, hlogging, Except.map, Except.bind, bind, pure,
    Except.pure]

/-- Settings are read from their own document. -/
theorem ofDocument_sections (c : Config) :
    ofDocument (c.sections.map Section.toEntry) = .ok c.saved := by
  have hstream : StreamConfig.read _ = .ok c.saved.stream :=
    read_stream (text_string c.stream.host) (unsigned_natCast c.stream.port.toNat_lt "u16")
      (millis_saved c.stream.pollInterval)
      (unsigned_natCast c.stream.idlePollsBeforePing.toNat_lt "u32")
      (unsigned_natCast c.stream.pingByte.toNat_lt "u8") (size_toNat c.stream.readBufferSize)
      (millis_saved c.stream.connectTimeout)
  have hsession : SessionConfig.read _ = .ok c.session :=
    read_session (size_toNat c.session.maxCachedPackets)
  exact ofDocument_of_read hstream hsession (read_logging c.logging)

end Reading

/-! ### Saving and loading -/

variable {directoryExists : Bool} {text : String}

theorem save_eq_ok_iff :
    c.save directoryExists = .ok text ↔ directoryExists = true ∧ c.toText = .ok text := by
  unfold save
  cases c.toText <;> cases directoryExists <;> simp [Except.bind]

/-- What comes back is written as before. -/
theorem toText_saved (c : Config) : c.saved.toText = c.toText := by
  have hsaved : ∀ d : Span, writeSpan d.saved = writeSpan d := by
    intro d
    simp [writeSpan, Span.saved]
  simp only [toText, toSections, StreamConfig.toSection, saved, hsaved]

/-- Settings that are written are read back. -/
theorem ofText_of_toText (h : c.toText = .ok text) : ofText text = .ok c.saved := by
  obtain ⟨hc, rfl⟩ := toText_eq_ok_iff.1 h
  rw [ofText, Toml.Document.read?_renderSections (isWritten_sections hc) (areDistinct_sections c)]
  simp only [ofDocument_sections]
  rfl

theorem load_toUTF8 (text : String) : load (some text.toUTF8) = ofText text := by
  have htext : String.fromUTF8? text.toUTF8 = some text := dif_pos text.isValidUTF8
  simp only [load, htext]

/-! ### Checking again -/

theorem problemIf_eq_nil_iff {p : Prop} [Decidable p] {problem : ConfigProblem} :
    problemIf p problem = [] ↔ ¬p := by
  unfold problemIf
  split_ifs with hp <;> simp [hp]

theorem problems_eq_nil_iff : c.problems = [] ↔
    Text.trim c.stream.host.toList ≠ [] ∧ c.stream.port ≠ 0 ∧
      pollIntervalProblems c.stream.pollInterval = [] ∧ c.stream.idlePollsBeforePing ≠ 0 ∧
      maxFrameLength ≤ c.stream.readBufferSize.toNat ∧ 100 ≤ c.stream.connectTimeout.millis ∧
      c.logging.problems = [] := by
  simp only [problems, StreamConfig.problems, List.append_eq_nil_iff, problemIf_eq_nil_iff,
    and_assoc, Nat.not_lt, ne_eq]

theorem pollIntervalProblems_eq_nil_iff {d : Span} : pollIntervalProblems d = [] ↔
    10 ≤ d.millis ∧ (d.secs < 10 ∨ d.secs = 10 ∧ d.nanos = 0) := by
  unfold pollIntervalProblems
  split_ifs with hshort
  · simp [hshort]
  · rw [problemIf_eq_nil_iff]
    omega

/-- The length of a poll is bounded from above, so nothing is cut off, and rounding does not take
it out of its bounds. -/
theorem pollInterval_saved {d : Span} (h : pollIntervalProblems d = []) :
    pollIntervalProblems d.saved = [] ∧ d.saved = d.rounded := by
  rw [pollIntervalProblems_eq_nil_iff] at h
  obtain ⟨hshort, hlong⟩ := h
  have hnanos := d.nanos_lt
  have hmillis : d.millis = d.secs * 1000 + d.nanos / 1000000 := rfl
  simp only [nanosPerSecond] at hnanos
  have hrounded : d.saved = d.rounded := Span.saved_eq_rounded_iff.2 (by omega)
  refine ⟨?_, hrounded⟩
  rw [hrounded, pollIntervalProblems_eq_nil_iff, Span.rounded, Span.millis_ofMillis]
  refine ⟨hshort, ?_⟩
  simp only [Span.ofMillis]
  omega

theorem problems_saved (h : c.problems = []) :
    c.saved.problems = [] ↔ 100 ≤ c.stream.connectTimeout.millis % 2 ^ 64 := by
  rw [problems_eq_nil_iff] at h ⊢
  obtain ⟨hhost, hport, hpoll, hidle, hbuffer, -, hlogging⟩ := h
  have hconnect : c.saved.stream.connectTimeout.millis = c.stream.connectTimeout.millis % 2 ^ 64 :=
    Span.millis_ofMillis _
  rw [hconnect]
  exact ⟨fun hsaved => hsaved.2.2.2.2.2.1,
    fun hlong => ⟨hhost, hport, (pollInterval_saved hpoll).1, hidle, hbuffer, hlong, hlogging⟩⟩

theorem saved_eq_rounded_iff (h : c.problems = []) :
    c.saved = c.rounded ↔ c.stream.connectTimeout.millis < 2 ^ 64 := by
  have hpoll := (pollInterval_saved (problems_eq_nil_iff.1 h).2.2.1).2
  rw [← Span.saved_eq_rounded_iff, saved, rounded, hpoll]
  simp

/-- **Settings survive saving.** Accepted settings that are saved are loaded again, and saving what
was loaded gives the same file.

If the milliseconds of the time to connect fit 64 bits, what is loaded is accepted, and it is what
was saved, with both times rounded down to whole milliseconds. If not, that time has lost its upper
bits: it is another one, and it may be too short to be accepted. -/
theorem load_of_save (hc : c.problems = []) (h : c.save directoryExists = .ok text) :
    load (some text.toUTF8) = .ok c.saved ∧ c.saved.save directoryExists = .ok text ∧
      (c.stream.connectTimeout.millis < 2 ^ 64 → c.saved = c.rounded ∧ c.saved.problems = []) ∧
      (2 ^ 64 ≤ c.stream.connectTimeout.millis → c.saved ≠ c.rounded ∧
        (c.saved.problems = [] ↔ 100 ≤ c.stream.connectTimeout.millis % 2 ^ 64)) := by
  obtain ⟨rfl, htext⟩ := save_eq_ok_iff.1 h
  refine ⟨?loaded, ?again, fun hlt => ⟨(saved_eq_rounded_iff hc).2 hlt, ?accepted⟩,
    fun hle => ⟨fun heq => ?_, problems_saved hc⟩⟩
  case loaded => rw [load_toUTF8, ofText_of_toText htext]
  case again =>
    rw [save_eq_ok_iff, toText_saved]
    exact ⟨rfl, htext⟩
  case accepted =>
    rw [problems_saved hc, Nat.mod_eq_of_lt hlt]
    exact (problems_eq_nil_iff.1 hc).2.2.2.2.2.1
  · exact Nat.not_lt.2 hle ((saved_eq_rounded_iff hc).1 heq)

/-- Settings with texts that need quotes and escapes, and with times that are rounded. -/
def awkward : Config where
  stream := {
    host := "a 'quoted' \"host\"\n\\ on two lines"
    pollInterval := .ofParts 10 0
    connectTimeout := .ofParts 0 100999999 }
  logging := { appName := "\"\"\"bell\x07\"\"" }

theorem load_of_save_awkward : ∃ text, awkward.save true = .ok text ∧
    load (some text.toUTF8) = .ok awkward.rounded ∧ awkward.rounded.problems = [] ∧
      awkward.rounded.save true = .ok text := by
  have hproblems : awkward.problems = [] := by decide
  have hwritable : awkward.IsWritable := ⟨by decide, by decide, by decide, by decide⟩
  have hsave := save_eq_ok_iff.2 ⟨rfl, toText_eq_ok_iff.2 ⟨hwritable, rfl⟩⟩
  obtain ⟨hload, hagain, hshort, -⟩ := load_of_save hproblems hsave
  obtain ⟨hrounded, haccepted⟩ := hshort (by decide)
  rw [hrounded] at hload hagain haccepted
  exact ⟨_, hsave, hload, haccepted, hagain⟩

/-- Settings with a time to connect of `2 ^ 64 + 384` milliseconds. -/
def longTimeout : Config where
  stream := { connectTimeout := .ofMillis (2 ^ 64 + 384) }

/-- They are accepted and saved, and 384 milliseconds are loaded. -/
theorem longTimeout_cut : longTimeout.problems = [] ∧ ∃ text, longTimeout.save true = .ok text ∧
    load (some text.toUTF8) = .ok { stream := { connectTimeout := .ofMillis 384 } } ∧
      longTimeout.rounded ≠ { stream := { connectTimeout := .ofMillis 384 } } := by
  have hwritable : longTimeout.IsWritable := ⟨by decide, by decide, by decide, by decide⟩
  have htext := toText_eq_ok_iff.2 ⟨hwritable, rfl⟩
  refine ⟨by decide, _, save_eq_ok_iff.2 ⟨rfl, htext⟩, ?_, by decide⟩
  rw [load_toUTF8, ofText_of_toText htext]
  rfl

end Config

end TimingFeed
