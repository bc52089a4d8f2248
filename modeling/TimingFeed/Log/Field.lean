import TimingFeed.Decimal.Reading
import TimingFeed.Pattern.Basic
import TimingFeed.Text.Split

/-!
# Fields in log filters

A rule of a filter may ask for a field, by its name or also by its value: a truth value,
a number, or a pattern for the text of the value.

* `FieldRule.ofText?` reads what a rule asks for, `FieldRule.text` writes it;
* `FieldRule.compare` is the order in which rules are kept.
-/

namespace TimingFeed

/-- What the value of a field is compared with. -/
inductive FieldValue
  | truth (b : Bool)
  /-- A number with a point or a power of ten, or an integer that does not fit 64 bits. -/
  | float (x : Binary64)
  | notANumber
  | natural (n : Nat)
  /-- An integer that is written with a minus sign. -/
  | integer (n : Int)
  | pattern (text : String)
  deriving DecidableEq, Repr

namespace FieldValue

/-- Read a value: of what it can be the first of the six kinds, a natural number before an
integer and that before another number. A text that is no pattern is no value. -/
def ofText? (s : String) : Option FieldValue :=
  let cs := s.toList
  if s = "true" then some (truth true)
  else if s = "false" then some (truth false)
  else
    match Text.readUnsigned 0xFFFFFFFFFFFFFFFF cs,
      Text.readInteger (-0x8000000000000000) 0x7FFFFFFFFFFFFFFF cs, Binary64.ofText? cs with
    | some n, _, _ => some (natural n)
    | none, some n, _ => some (integer n)
    | none, none, some .nan => some notANumber
    | none, none, some x => some (float x)
    | none, none, none => if Pattern.isValid cs then some (pattern s) else none

/-- A value as it is written: numbers in their shortest form, a pattern as it was read. -/
def text : FieldValue → String
  | truth b => if b then "true" else "false"
  | float x => x.shortText
  | notANumber => Binary64.nan.shortText
  | natural n => toString n
  | integer n => toString n
  | pattern s => s

/-- The place of a kind of values among the kinds. -/
def rank : FieldValue → Nat
  | truth _ => 0
  | float _ => 1
  | notANumber => 2
  | natural _ => 3
  | integer _ => 4
  | pattern _ => 5

/-- The order of values: by kind, and within a kind by what they are. -/
protected def compare : FieldValue → FieldValue → Ordering
  | truth a, truth b => Ord.compare a b
  | float x, float y => Ord.compare x.position y.position
  | natural m, natural n => Ord.compare m n
  | integer m, integer n => Ord.compare m n
  | pattern s, pattern t => Ord.compare s t
  | v, w => Ord.compare v.rank w.rank

instance : Ord FieldValue := ⟨FieldValue.compare⟩

theorem compare_self (v : FieldValue) : v.compare v = .eq := by
  cases v <;> simp [FieldValue.compare]

end FieldValue

/-- What a rule asks of a field: its presence, or also its value. -/
structure FieldRule where
  name : String
  value : Option FieldValue := none
  deriving DecidableEq, Repr

namespace FieldRule

/-- Read what is asked for: a name, and perhaps an equals sign and a value. What follows
another equals sign is passed over. -/
def ofText? (s : String) : Option FieldRule :=
  match (Text.splitAt '=' s.toList).map String.ofList with
  | [] => none
  | [name] => some { name }
  | name :: value :: _ => (FieldValue.ofText? value).map fun v => { name, value := some v }

/-- The rule as it is written. -/
def text (f : FieldRule) : String :=
  match f.value with
  | none => f.name
  | some v => f.name ++ "=" ++ v.text

/-- The order of rules: one that asks for a value is greater than one that does not. -/
protected def compare (f g : FieldRule) : Ordering :=
  (Ord.compare f.value.isSome g.value.isSome).then
    ((Ord.compare f.name g.name).then (Ord.compare f.value g.value))

instance : Ord FieldRule := ⟨FieldRule.compare⟩

end FieldRule

end TimingFeed
