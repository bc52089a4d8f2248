import TimingFeed.Toml.Lexical
import TimingFeed.Toml.Value

/-!
# Numbers, dates and times of the format

Numbers may have single underscores between digits. Integers have 64 bits and a
sign; decimal ones have no leading zero, and other bases have no sign.

* `integer?` and `float?` read numbers, `dateTime?` recognises dates and times;
* `number?` tries the three in the order in which they can be told apart.
-/

namespace TimingFeed.Toml

/-- The digits after a first one: more digits, each after at most one underscore. -/
def moreDigits (isDigit : Char → Bool) : List Char → List Char × List Char
  | '_' :: c :: rest =>
    if isDigit c then
      let (ds, s) := moreDigits isDigit rest
      (c :: ds, s)
    else ([], '_' :: c :: rest)
  | c :: rest =>
    if isDigit c then
      let (ds, s) := moreDigits isDigit rest
      (c :: ds, s)
    else ([], c :: rest)
  | [] => ([], [])

/-- One or more digits. -/
def digits? (isDigit : Char → Bool) : List Char → Option (List Char × List Char)
  | c :: rest =>
    if isDigit c then
      let (ds, s) := moreDigits isDigit rest
      some (c :: ds, s)
    else none
  | [] => none

/-- A decimal number without a leading zero. -/
def wholePart? : List Char → Option (List Char × List Char)
  | '0' :: rest => some (['0'], rest)
  | s => digits? Char.isDigit s

/-- The range of integers. -/
def inRange (n : Int) : Bool := -0x8000000000000000 ≤ n && n < 0x8000000000000000

/-- An integer in a base other than ten. -/
def basedInteger? (isDigit : Char → Bool) (base : Nat) (s : List Char) :
    Option (Int × List Char) :=
  (digits? isDigit s).bind fun (ds, rest) =>
    (ds.foldlM (fun (n : Nat) c => (Text.hexValue? c).map (base * n + ·)) 0).bind fun n =>
      if inRange n then some (↑n, rest) else none

/-- Read an integer. -/
def integer? : List Char → Option (Int × List Char)
  | '0' :: 'x' :: rest => basedInteger? (fun c => (Text.hexValue? c).isSome) 16 rest
  | '0' :: 'o' :: rest => basedInteger? (fun c => '0' ≤ c && c ≤ '7') 8 rest
  | '0' :: 'b' :: rest => basedInteger? (fun c => c = '0' || c = '1') 2 rest
  | s =>
    let (negative, s) := Text.sign s
    (wholePart? s).bind fun (ds, rest) =>
      let n : Int := Text.digitsValue ds
      let n := if negative then -n else n
      if inRange n then some (n, rest) else none

/-- The digits after a decimal point, if there is one. -/
def fraction? : List Char → Option (List Char × List Char)
  | '.' :: rest => digits? Char.isDigit rest
  | _ => none

/-- The power of ten after an exponent letter, if there is one. -/
def exponent? : List Char → Option (Int × List Char)
  | c :: rest =>
    if c = 'e' ∨ c = 'E' then
      let (negative, s) := Text.sign rest
      (digits? Char.isDigit s).map fun (ds, s) =>
        let n : Int := Text.digitsValue ds
        (if negative then -n else n, s)
    else none
  | [] => none

/-- The words for numbers that have no digits. -/
def specialFloat? (negative : Bool) : List Char → Option (Binary64 × List Char)
  | 'i' :: 'n' :: 'f' :: rest => some (.infinite negative, rest)
  | 'n' :: 'a' :: 'n' :: rest => some (.nan, rest)
  | _ => none

/-- Read a number with a fraction, an exponent or both. One that is too large is
refused; one that is too small becomes negative infinity. -/
def float? (s : List Char) : Option (Binary64 × List Char) :=
  let (negative, s) := Text.sign s
  match wholePart? s with
  | none => specialFloat? negative s
  | some (whole, rest) =>
    let build (fraction : List Char) (power : Int) (rest : List Char) :=
      let digits := Text.digitsValue (whole ++ fraction)
      let x := Binary64.ofDecimal negative digits (power - fraction.length)
      if x = .infinite false then none else some (x, rest)
    match fraction? rest with
    | some (fraction, rest) =>
      match exponent? rest with
      | some (power, rest) => build fraction power rest
      | none => build fraction 0 rest
    | none => (exponent? rest).bind fun (power, rest) => build [] power rest

/-- A number of exactly `width` digits within bounds. -/
def fixedDigits? (width low high : Nat) (s : List Char) : Option (Nat × List Char) :=
  let ds := s.take width
  let n := Text.digitsValue ds
  if ds.length = width ∧ ds.all Char.isDigit ∧ low ≤ n ∧ n ≤ high then some (n, s.drop width)
  else none

/-- Pass over one character. -/
def char? (c : Char) : List Char → Option (List Char)
  | d :: rest => if d = c then some rest else none
  | [] => none

/-- The number of days in a month. -/
def daysIn (year month : Nat) : Nat :=
  if month = 2 then if year % 4 = 0 ∧ (year % 100 ≠ 0 ∨ year % 400 = 0) then 29 else 28
  else if month = 4 ∨ month = 6 ∨ month = 9 ∨ month = 11 then 30
  else 31

/-- Pass over a date. -/
def date? (s : List Char) : Option (List Char) := do
  let (year, s) ← fixedDigits? 4 0 9999 s
  let (month, s) ← fixedDigits? 2 1 12 (← char? '-' s)
  let (_, s) ← fixedDigits? 2 1 (daysIn year month) (← char? '-' s)
  return s

/-- Pass over a time of day. -/
def time? (s : List Char) : Option (List Char) := do
  let (_, s) ← fixedDigits? 2 0 23 s
  let (_, s) ← fixedDigits? 2 0 59 (← char? ':' s)
  let (_, s) ← fixedDigits? 2 0 60 (← char? ':' s)
  match s with
  | '.' :: c :: rest => return if c.isDigit then rest.dropWhile Char.isDigit else s
  | _ => return s

/-- Pass over an offset from universal time, if there is one. -/
def offset : List Char → Option (List Char)
  | [] => some []
  | c :: rest =>
    if c = 'Z' ∨ c = 'z' then some rest
    else if c = '+' ∨ c = '-' then do
      let (_, s) ← fixedDigits? 2 0 23 rest
      let (_, s) ← fixedDigits? 2 0 59 (← char? ':' s)
      return s
    else some (c :: rest)

/-- Pass over a date, a time or both. -/
def dateTime? (s : List Char) : Option (List Char) :=
  match date? s with
  | none => time? s
  | some [] => some []
  | some (c :: rest) =>
    if c = 'T' ∨ c = 't' ∨ c = ' ' then
      match time? rest with
      | some rest => offset rest
      | none => some (c :: rest)
    else some (c :: rest)

/-- Read a number, a date or a time. -/
def number? (s : List Char) : Option (Value × List Char) :=
  match dateTime? s with
  | some rest => some (.dateTime, rest)
  | none =>
    match float? s with
    | some (x, rest) => some (.float x, rest)
    | none => (integer? s).map fun (n, rest) => (.integer n, rest)

end TimingFeed.Toml
