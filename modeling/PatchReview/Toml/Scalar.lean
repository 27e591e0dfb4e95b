import PatchReview.Number.Reading
import PatchReview.Toml.Blank

/-! Numbers, truth values, dates and times of TOML documents. -/
namespace PatchReview.Toml

/-- The digits with which the text starts, single underscores between them, and what follows. -/
def splitDigits (isDigit : Char → Bool) : List Char → List Char × List Char
  | [] => ([], [])
  | c :: rest =>
    if isDigit c then
      let (digits, behind) := splitDigits isDigit rest
      (c :: digits, behind)
    else if c = '_' then
      match rest with
      | d :: behind =>
        if isDigit d then
          let (digits, behind) := splitDigits isDigit behind
          (d :: digits, behind)
        else ([], c :: rest)
      | [] => ([], c :: rest)
    else ([], c :: rest)

/-- A run of digits that starts with a digit. -/
def takeDigits? (isDigit : Char → Bool) : List Char → Option (List Char × List Char)
  | [] => none
  | c :: rest => if isDigit c then some (splitDigits isDigit (c :: rest)) else none

/-- The letters of the number systems beside the decimal one. -/
def bases : List (Char × Nat) := [('x', 16), ('o', 8), ('b', 2)]

/-- A digit in a number system. -/
def isDigitOf (base : Nat) (c : Char) : Bool :=
  match Number.digitOf? c with
  | some d => d < base
  | none => false

/-- An integer in another number system than the decimal one. -/
def readBased? : List Char → Option (Value × List Char)
  | '0' :: letter :: rest => do
    let base ← bases.lookup letter
    let (digits, behind) ← takeDigits? (isDigitOf base) rest
    let n := digits.foldl (fun n c => base * n + (Number.digitOf? c).getD 0) 0
    return (.int n, behind)
  | _ => none

/-- The part of a number behind a point. -/
def readPlaces : List Char → Option (List Char) × List Char
  | '.' :: rest =>
    match takeDigits? Char.isDigit rest with
    | some (digits, behind) => (some digits, behind)
    | none => (none, '.' :: rest)
  | s => (none, s)

/-- The exponent of a number. -/
def readPower : List Char → Option Int × List Char
  | c :: rest =>
    if c = 'e' ∨ c = 'E' then
      let (negative, unsigned) := Number.splitSign rest
      match takeDigits? Char.isDigit unsigned with
      | some (digits, behind) =>
        let n : Int := Number.digitsValue digits
        (some (if negative then -n else n), behind)
      | none => (none, c :: rest)
    else (none, c :: rest)
  | [] => (none, [])

/-- The digits before the point: zero alone, or digits that start with another one. -/
def readWhole? : List Char → Option (List Char × List Char)
  | '0' :: rest => some (['0'], rest)
  | s => takeDigits? Char.isDigit s

/-- A decimal number. It is an integer if it has neither places nor an exponent. -/
def readDecimal? (s : List Char) : Option (Read Value) := do
  let (negative, unsigned) := Number.splitSign s
  let (whole, rest) ← readWhole? unsigned
  let (places, rest) := readPlaces rest
  let (power, rest) := readPower rest
  match places, power with
  | none, none =>
    if Number.maxDigits < whole.length then return .error (.integerTooLong whole.length)
    else
      let n : Int := Number.digitsValue whole
      return .ok (.int (if negative then -n else n), rest)
  | _, _ =>
    let places := places.getD []
    return .ok (.float (Binary64.ofDecimal negative (Number.digitsValue (whole ++ places))
      (power.getD 0 - places.length)), rest)

def readSpecial? (s : List Char) : Option (Value × List Char) :=
  let (negative, unsigned) := Number.splitSign s
  match unsigned with
  | 'i' :: 'n' :: 'f' :: rest => some (.float (.infinite negative), rest)
  | 'n' :: 'a' :: 'n' :: rest => some (.float .notANumber, rest)
  | _ => none

/-- Exactly two digits with a value between bounds. -/
def readPair? (least greatest : Nat) : List Char → Option (Nat × List Char)
  | a :: b :: rest =>
    if a.isDigit && b.isDigit then
      let n := Number.digitsValue [a, b]
      if least ≤ n ∧ n ≤ greatest then some (n, rest) else none
    else none
  | _ => none

/-- What follows a character with which the text must start. -/
def expect? (c : Char) : List Char → Option (List Char)
  | d :: rest => if d = c then some rest else none
  | [] => none

/-- The text behind the fraction of a second. -/
def skipFraction (s : List Char) : List Char :=
  match s with
  | '.' :: d :: rest => if d.isDigit then rest.dropWhile Char.isDigit else s
  | _ => s

/-- The text behind hours and minutes. -/
def afterHourMinute? (s : List Char) : Option (List Char) := do
  let (_, rest) ← readPair? 0 23 s
  let (_, rest) ← readPair? 0 59 (← expect? ':' rest)
  return rest

/-- The text behind a time of day. -/
def afterTime? (s : List Char) : Option (List Char) := do
  let (_, rest) ← readPair? 0 59 (← expect? ':' (← afterHourMinute? s))
  return skipFraction rest

/-- The text behind the distance from Greenwich, if it starts with one. -/
def skipOffset (s : List Char) : List Char :=
  match s with
  | 'Z' :: rest | 'z' :: rest => rest
  | '+' :: rest | '-' :: rest => (afterHourMinute? rest).getD s
  | _ => s

/-- The text behind the time of day that may follow a date. -/
def skipTimeOfDate (s : List Char) : List Char :=
  match s with
  | c :: rest =>
    if c = 'T' ∨ c = 't' ∨ c = ' ' then
      match afterTime? rest with
      | some behind => skipOffset behind
      | none => s
    else s
  | [] => s

def daysIn (year month : Nat) : Nat :=
  if month = 2 then
    if year % 4 = 0 ∧ (year % 100 ≠ 0 ∨ year % 400 = 0) then 29 else 28
  else if [4, 6, 9, 11].contains month then 30
  else 31

def readDate? (s : List Char) : Option (Bool × List Char) := do
  let (century, rest) ← readPair? 0 99 s
  let (ofCentury, rest) ← readPair? 0 99 rest
  let (month, rest) ← readPair? 1 12 (← expect? '-' rest)
  let (day, rest) ← readPair? 1 31 (← expect? '-' rest)
  let year := 100 * century + ofCentury
  return (0 < year && day ≤ daysIn year month, rest)

/-- A date, a time of day, or both. -/
def readMoment? (s : List Char) : Option (Read Value) :=
  let written (rest : List Char) : Value :=
    .moment (String.ofList (s.take (s.length - rest.length)))
  match readDate? s with
  | some (true, rest) =>
    let rest := skipTimeOfDate rest
    some (.ok (written rest, rest))
  | some (false, _) => some (.error .malformed)
  | none => (afterTime? s).map fun rest => .ok (written rest, rest)

def readBool? : List Char → Option (Value × List Char)
  | 't' :: 'r' :: 'u' :: 'e' :: rest => some (.bool true, rest)
  | 'f' :: 'a' :: 'l' :: 's' :: 'e' :: rest => some (.bool false, rest)
  | _ => none

/-- A value that is neither a string nor made of other values. -/
def readScalar (s : List Char) : Read Value :=
  match readBool? s with
  | some r => .ok r
  | none =>
    match readMoment? s with
    | some r => r
    | none =>
      match readBased? s with
      | some r => .ok r
      | none =>
        match readDecimal? s with
        | some r => r
        | none =>
          match readSpecial? s with
          | some r => .ok r
          | none => .error .malformed

end PatchReview.Toml
