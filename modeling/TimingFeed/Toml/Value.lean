import TimingFeed.Decimal.Binary64

/-!
# TOML values

The values of the format, with the entries of a table in the order in which they
were written.
-/

namespace TimingFeed.Toml

/-- A value of the format. Dates and times are only recognised, not kept. -/
inductive Value
  | string (text : String)
  | integer (n : Int)
  | float (x : Binary64)
  | boolean (b : Bool)
  | dateTime
  | array (items : List Value)
  | table (entries : List (String × Value))
  deriving Repr, Inhabited

/-- The value of a key in a list of entries. -/
def find? {α : Type} (key : String) : List (String × α) → Option α
  | [] => none
  | (k, v) :: rest => if k = key then some v else find? key rest

end TimingFeed.Toml
