import TimingFeed.Config.Environment
import TimingFeed.Proofs.Result
import TimingFeed.Proofs.Text.Numeral

/-!
# What the environment overrides

Main statement: `ofEnvironment_overrides`. A variable that holds text is never ignored: it
overrides its setting, or the first one that cannot is reported. A variable whose bytes are no text
is ignored (`undecodable_ignored`), as if it were not set.

* `Environment.Holds` says that a variable is set to a text, by the bytes of that text;
* `numberVariables` are the variables for numbers, in the order in which they are looked at, and
  `NumberVariable.Offends` says that one of them holds a text that is no number within its bound;
* `Overrides env c` says of every setting in `c` where it comes from.
-/

namespace TimingFeed

namespace Environment

variable (env : Environment) {name raw : String}

/-- A variable is set to the bytes of a text. -/
def Holds (name raw : String) : Prop := env name = some raw.toUTF8

theorem text_eq_some_iff : env.text name = some raw ↔ env.Holds name raw := by
  rw [text, Option.bind_eq_some_iff, Holds]
  constructor
  · rintro ⟨bytes, hbytes, htext⟩
    unfold String.fromUTF8? at htext
    split_ifs at htext
    cases htext
    exact hbytes
  · intro h
    exact ⟨raw.toUTF8, h, dif_pos raw.isValidUTF8⟩

/-- The bytes of a text belong to it alone. -/
theorem holds_unique {other : String} (h : env.Holds name raw) (hother : env.Holds name other) :
    raw = other :=
  Option.some_injective _
    ((env.text_eq_some_iff.2 h).symm.trans (env.text_eq_some_iff.2 hother))

theorem text_eq_none_iff : env.text name = none ↔ ¬∃ raw, env.Holds name raw := by
  simp only [← text_eq_some_iff, Option.eq_none_iff_forall_ne_some, not_exists, ne_eq]

end Environment

/-- A variable that overrides a number among the settings. -/
structure NumberVariable where
  name : String
  max : Nat
  /-- That a number is the setting. -/
  Is : Config → Nat → Prop

namespace NumberVariable

def port : NumberVariable := ⟨portVariable, 0xFFFF, fun c n => c.stream.port.toNat = n⟩

def pollInterval : NumberVariable :=
  ⟨pollIntervalVariable, 0xFFFFFFFFFFFFFFFF, fun c n => c.stream.pollInterval = .ofMillis n⟩

def idlePolls : NumberVariable :=
  ⟨idlePollsVariable, 0xFFFFFFFF, fun c n => c.stream.idlePollsBeforePing.toNat = n⟩

def cacheLimit : NumberVariable :=
  ⟨cacheLimitVariable, 0xFFFFFFFFFFFFFFFF, fun c n => c.session.maxCachedPackets.toNat = n⟩

end NumberVariable

/-- The variables for numbers, in the order in which they are looked at. -/
def numberVariables : List NumberVariable := [.port, .pollInterval, .idlePolls, .cacheLimit]

namespace NumberVariable

variable (env : Environment) (v : NumberVariable)

/-- The variable is set to a text that stands for no number within its bound. -/
def Offends (raw : String) : Prop :=
  env.Holds v.name raw ∧ ¬∃ n ≤ v.max, Text.Denotes raw.toList n

/-- What can be read from the variable. -/
inductive Reads : Except ConfigError (Option Nat) → Prop
  /-- The variable is not set, or its bytes are no text. -/
  | unset (silent : ¬∃ raw, env.Holds v.name raw) : Reads (.ok none)
  | number {raw : String} {n : Nat} (holds : env.Holds v.name raw)
      (denotes : Text.Denotes raw.toList n) (fits : n ≤ v.max) : Reads (.ok (some n))
  | offence {raw : String} (offends : v.Offends env raw) :
      Reads (.error (.invalidVariable v.name raw))

theorem reads_number : v.Reads env (env.number v.name v.max) := by
  unfold Environment.number
  cases htext : env.text v.name with
  | none => exact .unset (env.text_eq_none_iff.1 htext)
  | some raw =>
    have hholds := env.text_eq_some_iff.1 htext
    dsimp only
    cases hread : Text.readUnsigned v.max (Text.trim raw.toList) with
    | some n =>
      obtain ⟨hdenotes, hle⟩ := Text.readUnsigned_trim_eq_some_iff.1 hread
      exact .number hholds hdenotes hle
    | none =>
      refine .offence ⟨hholds, fun ⟨n, hle, hdenotes⟩ => ?_⟩
      rw [Text.readUnsigned_trim_eq_some_iff.2 ⟨hdenotes, hle⟩] at hread
      cases hread

/-- The report of the variable, if there is one. -/
def report? : Option ConfigError :=
  match env.number v.name v.max with
  | .ok _ => none
  | .error e => some e

variable {env v}

theorem report?_eq_some_iff {e : ConfigError} :
    v.report? env = some e ↔ ∃ raw, v.Offends env raw ∧ e = .invalidVariable v.name raw := by
  have hreads := v.reads_number env
  unfold report?
  generalize env.number v.name v.max = result at hreads ⊢
  cases hreads with
  | unset silent => exact iff_of_false nofun fun ⟨raw, h, _⟩ => silent ⟨raw, h.1⟩
  | number holds denotes fits =>
    refine iff_of_false nofun fun ⟨raw, h, _⟩ => ?_
    obtain rfl := env.holds_unique holds h.1
    exact h.2 ⟨_, fits, denotes⟩
  | offence offends =>
    constructor
    · rintro ⟨⟩
      exact ⟨_, offends, rfl⟩
    · rintro ⟨raw, h, rfl⟩
      rw [env.holds_unique offends.1 h.1]

/-- A setting that is what was read from its variable, or the default if nothing was. -/
theorem sets_of_number {value : Option Nat} {c : Config}
    (h : env.number v.name v.max = .ok value) (hvalue : ∀ n ≤ v.max, value = some n → v.Is c n)
    (hdefault : value = none → ∀ n, v.Is {} n → v.Is c n) :
    (∀ raw, env.Holds v.name raw → ∃ n ≤ v.max, Text.Denotes raw.toList n ∧ v.Is c n) ∧
      ((¬∃ raw, env.Holds v.name raw) → ∀ n, v.Is {} n → v.Is c n) := by
  have hreads := v.reads_number env
  rw [h] at hreads
  cases hreads with
  | unset silent => exact ⟨fun raw hraw => absurd ⟨raw, hraw⟩ silent, fun _ => hdefault rfl⟩
  | @number raw n holds denotes fits =>
    refine ⟨fun other hother => ?_, fun silent => absurd ⟨raw, holds⟩ silent⟩
    obtain rfl := env.holds_unique holds hother
    exact ⟨n, fits, denotes, hvalue n fits rfl⟩

end NumberVariable

namespace Config

open NumberVariable (sets_of_number)

variable {env : Environment} {c : Config} {e : ConfigError}

/-- The first report ends the reading. -/
theorem ofEnvironment_eq_error_iff :
    ofEnvironment env = .error e ↔ numberVariables.findSome? (·.report? env) = some e := by
  simp only [ofEnvironment, numberVariables, List.findSome?_cons, NumberVariable.report?, bind,
    Except.bind, pure, Except.pure, List.findSome?_nil, NumberVariable.port,
    NumberVariable.pollInterval, NumberVariable.idlePolls, NumberVariable.cacheLimit]
  cases env.number portVariable 0xFFFF with
  | error => simp
  | ok =>
    cases env.number pollIntervalVariable 0xFFFFFFFFFFFFFFFF with
    | error => simp
    | ok =>
      cases env.number idlePollsVariable 0xFFFFFFFF with
      | error => simp
      | ok => cases env.number cacheLimitVariable 0xFFFFFFFFFFFFFFFF <;> simp

/-- Where the settings come from: the text of a variable, or the defaults. -/
structure Overrides (env : Environment) (c : Config) : Prop where
  numbers : ∀ v ∈ numberVariables,
    (∀ raw, env.Holds v.name raw → ∃ n ≤ v.max, Text.Denotes raw.toList n ∧ v.Is c n) ∧
      ((¬∃ raw, env.Holds v.name raw) → ∀ n, v.Is {} n → v.Is c n)
  host : ∀ raw, env.Holds hostVariable raw → c.stream.host = raw
  defaultHost : (¬∃ raw, env.Holds hostVariable raw) → c.stream.host = ({} : Config).stream.host
  /-- No variable is about the other settings. -/
  others : c.stream.pingByte = ({} : Config).stream.pingByte ∧
    c.stream.readBufferSize = ({} : Config).stream.readBufferSize ∧
    c.stream.connectTimeout = ({} : Config).stream.connectTimeout ∧
    c.logging = ({} : Config).logging

theorem overrides_of_ok (h : ofEnvironment env = .ok c) : Overrides env c := by
  simp only [ofEnvironment, bind_eq_ok_iff, pure, Except.pure, Except.ok.injEq] at h
  obtain ⟨port, hport, pollInterval, hpollInterval, idlePolls, hidlePolls, limit, hlimit, rfl⟩ := h
  constructor
  case numbers =>
    simp only [numberVariables, List.forall_mem_cons, List.not_mem_nil, false_imp_iff,
      implies_true, and_true]
    refine ⟨sets_of_number (v := .port) hport ?port (by rintro rfl n hn; exact hn),
      sets_of_number (v := .pollInterval) hpollInterval ?pollInterval
        (by rintro rfl n hn; exact hn),
      sets_of_number (v := .idlePolls) hidlePolls ?idlePolls (by rintro rfl n hn; exact hn),
      sets_of_number (v := .cacheLimit) hlimit ?cacheLimit (by rintro rfl n hn; exact hn)⟩
    case port =>
      rintro n hn rfl
      exact UInt16.toNat_ofNat_of_lt' (Nat.lt_succ_of_le hn)
    case pollInterval =>
      rintro n - rfl
      rfl
    case idlePolls =>
      rintro n hn rfl
      exact UInt32.toNat_ofNat_of_lt' (Nat.lt_succ_of_le hn)
    case cacheLimit =>
      rintro n hn rfl
      exact UInt64.toNat_ofNat_of_lt' (Nat.lt_succ_of_le hn)
  case host =>
    intro raw hraw
    rw [env.text_eq_some_iff.2 hraw]
    rfl
  case defaultHost =>
    intro hsilent
    rw [env.text_eq_none_iff.2 hsilent]
    rfl
  case others => exact ⟨rfl, rfl, rfl, rfl⟩

/-- **A variable that holds text is never ignored.** For every environment:

* settings are read exactly if each variable for a number that is set to a text stands for a number
  within its bound;
* in these settings each variable that is set to a text has overridden its default, with the number
  that the text stands for, and all other settings are the defaults;
* else the error names the first variable that offends, with its text.

A variable whose bytes are no text counts as not set. -/
theorem ofEnvironment_overrides (env : Environment) :
    ((∃ c, ofEnvironment env = .ok c) ↔ ∀ v ∈ numberVariables, ¬∃ raw, v.Offends env raw) ∧
      (∀ c, ofEnvironment env = .ok c → Overrides env c) ∧
      ∀ e, ofEnvironment env = .error e ↔
        ∃ before v after raw, numberVariables = before ++ v :: after ∧
          (∀ u ∈ before, ¬∃ raw, u.Offends env raw) ∧ v.Offends env raw ∧
          e = .invalidVariable v.name raw ∧
          e.message = "Invalid value for " ++ v.name ++ ": '" ++ raw ++ "'" := by
  have hsilent : ∀ v : NumberVariable, v.report? env = none ↔ ¬∃ raw, v.Offends env raw := by
    intro v
    rw [Option.eq_none_iff_forall_ne_some]
    simp only [ne_eq, NumberVariable.report?_eq_some_iff, not_exists, not_and]
    exact ⟨fun h raw hraw => h _ raw hraw rfl, fun h e raw hraw _ => h raw hraw⟩
  refine ⟨?_, fun c => overrides_of_ok, fun e => ?_⟩
  · have hnone : (∃ c, ofEnvironment env = .ok c) ↔
        numberVariables.findSome? (·.report? env) = none := by
      cases hresult : ofEnvironment env with
      | ok c =>
        refine iff_of_true ⟨c, rfl⟩ (Option.eq_none_iff_forall_ne_some.2 fun e he => ?_)
        rw [ofEnvironment_eq_error_iff.2 he] at hresult
        cases hresult
      | error e => exact iff_of_false nofun (by simp [ofEnvironment_eq_error_iff.1 hresult])
    rw [hnone, List.findSome?_eq_none_iff]
    simp only [hsilent]
  · rw [ofEnvironment_eq_error_iff, List.findSome?_eq_some_iff]
    simp only [hsilent, NumberVariable.report?_eq_some_iff]
    constructor
    · rintro ⟨before, v, after, hvariables, ⟨raw, hraw, rfl⟩, hbefore⟩
      exact ⟨before, v, after, raw, hvariables, hbefore, hraw, rfl, rfl⟩
    · rintro ⟨before, v, after, raw, hvariables, hbefore, hraw, rfl, -⟩
      exact ⟨before, v, after, hvariables, ⟨raw, hraw, rfl⟩, hbefore⟩

/-- An environment with one variable. -/
def setOnly (name : String) (bytes : ByteArray) : Environment := fun other =>
  if other = name then some bytes else none

/-- The port is set to a byte that is no text and so no number, and yet the defaults are read. -/
theorem undecodable_ignored :
    setOnly portVariable ⟨#[0xFF]⟩ portVariable = some ⟨#[0xFF]⟩ ∧
      (¬∃ raw, (setOnly portVariable ⟨#[0xFF]⟩).Holds portVariable raw) ∧
      ofEnvironment (setOnly portVariable ⟨#[0xFF]⟩) = .ok {} := by
  have htext : (setOnly portVariable ⟨#[0xFF]⟩).text portVariable = none := rfl
  exact ⟨rfl, (Environment.text_eq_none_iff _).1 htext, rfl⟩

/-- A port with blanks and a plus sign around its digits is read; one that is too large is
reported. -/
theorem ofEnvironment_overrides_port :
    Text.Denotes " +0080\t".toList 80 ∧
      ∃ v ∈ numberVariables, v.Offends (setOnly portVariable "65536".toUTF8) "65536" := by
  constructor
  · have hok : ofEnvironment (setOnly portVariable " +0080\t".toUTF8) =
        .ok { stream := { port := 80 } } := rfl
    have hholds : (setOnly portVariable " +0080\t".toUTF8).Holds portVariable " +0080\t" :=
      if_pos rfl
    obtain ⟨hport, -⟩ :=
      ((ofEnvironment_overrides _).2.1 _ hok).numbers .port List.mem_cons_self
    obtain ⟨n, -, hdenotes, hn⟩ := hport _ hholds
    have hn : 80 = n := hn
    exact hn ▸ hdenotes
  · have herror : ofEnvironment (setOnly portVariable "65536".toUTF8) =
        .error (.invalidVariable portVariable "65536") := rfl
    obtain ⟨before, v, after, raw, hvariables, -, hoffends, he, -⟩ :=
      ((ofEnvironment_overrides _).2.2 _).1 herror
    simp only [ConfigError.invalidVariable.injEq] at he
    obtain ⟨-, rfl⟩ := he
    exact ⟨v, by simp [hvariables], hoffends⟩

end Config

end TimingFeed
