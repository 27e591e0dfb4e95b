import PatchReview.Number.Binary64
import PatchReview.Text.Blank
import PatchReview.Text.Digit

/-! Numbers written by people: decimal digits of any script, single underscores between digits,
a sign, and blanks around the whole. -/
namespace PatchReview.Number

open Text

/-- Blanks that may stand around a number: all but the separators U+001C to U+001F. -/
def isNumberBlank (c : Char) : Bool := isBlank c && !(0x1C ≤ c.toNat && c.toNat ≤ 0x1F)

/-- The text without the blanks that may stand around a number. -/
def trimNumber (s : List Char) : List Char :=
  ((s.dropWhile isNumberBlank).reverse.dropWhile isNumberBlank).reverse

/-- The text with plain digits for the digits of all scripts and without the underscores that
stand between two digits; `none` if there is any other underscore. `afterDigit` tells whether a
digit stands before the text. -/
def plainDigits? (afterDigit : Bool) : List Char → Option (List Char)
  | [] => some []
  | '_' :: c :: rest =>
    match afterDigit, digitValue? c with
    | true, some d => (plainDigits? true rest).map (Nat.digitChar d :: ·)
    | _, _ => none
  | '_' :: [] => none
  | c :: rest =>
    match digitValue? c with
    | some d => (plainDigits? true rest).map (Nat.digitChar d :: ·)
    | none => (plainDigits? false rest).map (c :: ·)

def digitsValue (s : List Char) : Nat := s.foldl (fun n c => 10 * n + (c.toNat - '0'.toNat)) 0

/-- The value of a digit or of one of the letters that follow the digits in larger systems. -/
def digitOf? (c : Char) : Option Nat :=
  if c.isDigit then some (c.toNat - '0'.toNat)
  else if 'a' ≤ c ∧ c ≤ 'f' then some (c.toNat - 'a'.toNat + 10)
  else if 'A' ≤ c ∧ c ≤ 'F' then some (c.toNat - 'A'.toNat + 10)
  else none

def splitSign : List Char → Bool × List Char
  | '-' :: rest => (true, rest)
  | '+' :: rest => (false, rest)
  | s => (false, s)

/-- Integers longer than this many digits are neither read nor written. -/
def maxDigits : Nat := 4300

/-- Whether the integer is short enough to be written. -/
def isWritable (n : Int) : Bool := n.natAbs < Nat.pow 10 maxDigits

/-- The text of the error about a number with more digits, which are counted if it is read. -/
def tooLongMessage (digits : Option Nat) : String :=
  "Exceeds the limit (" ++ toString maxDigits ++ " digits) for integer string conversion" ++
    (match digits with
    | some n => ": value has " ++ toString n ++ " digits"
    | none => "") ++ "; use sys.set_int_max_str_digits() to increase the limit"

def readInt? (s : String) : Option Int := do
  let plain ← plainDigits? false (trimNumber s.toList)
  let (negative, digits) := splitSign plain
  if digits.isEmpty || !digits.all Char.isDigit || maxDigits < digits.length then none
  else
    let n : Int := digitsValue digits
    some (if negative then -n else n)

/-- The exponent after a numeral: nothing, or `e`, a sign and digits up to the end. -/
def readExponent? : List Char → Option Int
  | [] => some 0
  | c :: rest =>
    if c == 'e' || c == 'E' then
      let (negative, digits) := splitSign rest
      if digits.isEmpty || !digits.all Char.isDigit then none
      else
        let n : Int := digitsValue digits
        some (if negative then -n else n)
    else none

/-- A numeral without sign: digits, perhaps a point and digits, perhaps an exponent. -/
def readMagnitude? (negative : Bool) (s : List Char) : Option Binary64 :=
  let whole := s.takeWhile Char.isDigit
  let afterWhole := s.dropWhile Char.isDigit
  let (places, rest) := match afterWhole with
    | '.' :: r => (r.takeWhile Char.isDigit, r.dropWhile Char.isDigit)
    | r => ([], r)
  let digits := whole ++ places
  if digits.isEmpty then none
  else (readExponent? rest).map fun e =>
    Binary64.ofDecimal negative (digitsValue digits) (e - places.length)

/-- The floating-point number that a text stands for. -/
def readFloat? (s : String) : Option Binary64 := do
  let plain ← plainDigits? false (trimNumber s.toList)
  let (negative, body) := splitSign plain
  let word := String.ofList (body.map Char.toLower)
  if word == "inf" || word == "infinity" then some (.infinite negative)
  else if word == "nan" then some .notANumber
  else readMagnitude? negative body

end PatchReview.Number
