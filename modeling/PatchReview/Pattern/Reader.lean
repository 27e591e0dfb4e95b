import PatchReview.Number.Reading
import PatchReview.Pattern.Syntax
import PatchReview.Text.Digit
import PatchReview.Text.Word

/-! Reading regular expressions. -/
namespace PatchReview.Pattern

inductive PatternError where
  | unterminated
  | unbalanced
  | badEscape
  | badRange
  | nothingToRepeat
  | repeatedTwice
  | boundsOutOfOrder
  | boundTooLarge
  /-- A bound with more digits than are read. -/
  | boundTooLong (digits : Nat)
  | badGroupName
  | unknownGroup
  | openGroup
  | badFlags
  /-- Flags of the whole expression ask for ASCII letters and for all letters. -/
  | alphabetsClash
  | unknownExtension
  | looksBackUnevenly
  | tooManyBranches
deriving DecidableEq

/-- What flags change in the meaning of the parts that follow. -/
structure Flags where
  caseless : Bool := false
  multiline : Bool := false
  dotAll : Bool := false
  verbose : Bool := false
  ascii : Bool := false

/-- How letters are compared under the flags. -/
def Flags.caseRule (flags : Flags) : CaseRule :=
  if !flags.caseless then .exact else if flags.ascii then .ascii else .anyForm

/-- The text that is left to read and what has been learnt of the groups. -/
structure ReaderState where
  rest : List Char
  flags : Flags := {}
  /-- The letters of the flags of the whole expression. -/
  flagLetters : List Char := []
  /-- Whether a part is repeated; one of the flags does not go with that. -/
  hasRepeats : Bool := false
  /-- The widths of the groups by their numbers; `none` while the group is open. -/
  widths : List (Option Width) := []
  names : List (String × Nat) := []
  /-- The number of groups outside the outermost look behind, while one is read. -/
  groupsBeforeLook : Option Nat := none
  /-- Groups that conditions ask for before they have been seen. -/
  asked : List Nat := []

/-- A step of the reader. -/
abbrev Reading := StateT ReaderState (Except PatternError)

namespace Reading

/-- The next character, left in place. -/
def peek : Reading (Option Char) := do return (← get).rest.head?

def next (missing : PatternError) : Reading Char := do
  match (← get).rest with
  | [] => throw missing
  | c :: rest =>
    modify ({ · with rest })
    return c

/-- Takes the next character if it is `c`. -/
def accept (c : Char) : Reading Bool := do
  match (← get).rest with
  | d :: rest =>
    if c = d then
      modify ({ · with rest })
      return true
    else return false
  | [] => return false

/-- Takes at most `n` characters of a kind. -/
def takeUpTo (n : Nat) (ok : Char → Bool) : Reading (List Char) := do
  let taken := ((← get).rest.take n).takeWhile ok
  modify fun s => { s with rest := s.rest.drop taken.length }
  return taken

/-- Takes all characters up to a closing one, which is taken too. -/
def takeUntil (closing : Char) : Reading (List Char) := do
  let taken := (← get).rest.takeWhile (· != closing)
  match (← get).rest.drop taken.length with
  | [] => throw .unterminated
  | _ :: rest =>
    modify ({ · with rest })
    return taken

/-- The number of groups that have been opened. -/
def groupCount : Reading Nat := do return (← get).widths.length

end Reading

open Reading

def isOctal (c : Char) : Bool := '0' ≤ c && c ≤ '7'

def hexValue? (c : Char) : Option Nat :=
  if c.isDigit then some (c.toNat - '0'.toNat)
  else if 'a' ≤ c && c ≤ 'f' then some (c.toNat - 'a'.toNat + 10)
  else if 'A' ≤ c && c ≤ 'F' then some (c.toNat - 'A'.toNat + 10)
  else none

def valueOf (base : Nat) (digits : List Char) : Nat :=
  digits.foldl (fun n c => base * n + (hexValue? c).getD 0) 0

/-- A code point written with exactly `n` hexadecimal digits. -/
def readHex (n : Nat) : Reading Nat := do
  let digits ← takeUpTo n fun c => (hexValue? c).isSome
  if digits.length < n then throw .badEscape
  let code := valueOf 16 digits
  if 0x10FFFF < code then throw .badEscape
  return code

/-- The control characters with a letter of their own. -/
def controlEscapes : List (Char × Nat) :=
  [('a', 7), ('f', 12), ('n', 10), ('r', 13), ('t', 9), ('v', 11), ('\\', 92)]

/-- The letters of the named classes, and whether they stand for the opposite. -/
def classEscapes : List (Char × CharClass × Bool) := [
    ('d', .digit, false), ('D', .digit, true), ('s', .blank, false), ('S', .blank, true),
    ('w', .word, false), ('W', .word, true)]

/-- An escape that has the same meaning inside and outside a set: a control character, a named
class, a code point, or a character that is neither letter nor digit. -/
def readPlainEscape (flags : Flags) (c : Char) : Reading SetItem := do
  match controlEscapes.lookup c with
  | some code => return .range code code
  | none =>
    match classEscapes.lookup c with
    | some (cls, negated) => return .named cls negated flags.ascii
    | none =>
      let digits := if c = 'x' then 2 else if c = 'u' then 4 else if c = 'U' then 8 else 0
      if digits ≠ 0 then
        let code ← readHex digits
        return .range code code
      else if c.isAlphanum then throw .badEscape
      else return .range c.toNat c.toNat

/-- An escape inside a set, behind its backslash. -/
def readSetEscape (flags : Flags) : Reading SetItem := do
  let c ← next .badEscape
  if c = 'b' then return .range 8 8
  else if isOctal c then
    let more ← takeUpTo 2 isOctal
    let code := valueOf 8 (c :: more)
    if 0o377 < code then throw .badEscape
    return .range code code
  else readPlainEscape flags c

/-- One member of a set as it is written: a character or an escape. -/
def readMember (flags : Flags) (c : Char) : Reading SetItem :=
  if c = '\\' then readSetEscape flags else return .range c.toNat c.toNat

/-- The range between two members, which must be characters in order. -/
def rangeOf (a b : SetItem) : Reading SetItem :=
  match a, b with
  | .range lo _, .range hi _ => if hi < lo then throw .badRange else return .range lo hi
  | _, _ => throw .badRange

/-- The members of a set up to its closing bracket. A bracket in front is a character. The fuel is
the number of characters left. -/
def readMembers (flags : Flags) : Nat → List SetItem → Reading (List SetItem)
  | 0, _ => throw .unterminated
  | fuel + 1, items => do
    let c ← next .unterminated
    if c = ']' && !items.isEmpty then return items.reverse
    let first ← readMember flags c
    if ← accept '-' then
      let d ← next .unterminated
      if d = ']' then return (.range '-'.toNat '-'.toNat :: first :: items).reverse
      let last ← readMember flags d
      let item ← rangeOf first last
      readMembers flags fuel (item :: items)
    else readMembers flags fuel (first :: items)

/-- A set of characters, behind its opening bracket. -/
def readSet (flags : Flags) : Reading Node := do
  let negated ← accept '^'
  let items ← readMembers flags ((← get).rest.length + 1) []
  return .set flags.caseRule negated items

/-- Makes sure that a group may be referred to: it is closed, and not part of the look behind
that is being read. -/
def checkReference (index : Nat) : Reading Unit := do
  let s ← get
  match s.widths[index - 1]? with
  | some (some _) =>
    match s.groupsBeforeLook with
    | some n => if n < index then throw .openGroup
    | none => return
  | _ => throw .openGroup

/-- A reference to a numbered group that has been closed. -/
def readReference (flags : Flags) (index : Nat) : Reading Node := do
  if (← groupCount) < index then throw .unknownGroup
  checkReference index
  return .again flags.caseRule index

/-- A single character or class as an expression. -/
def single (flags : Flags) (item : SetItem) : Node := .set flags.caseRule false [item]

/-- An escape outside sets, behind its backslash. -/
def readEscape (flags : Flags) : Reading Node := do
  let c ← next .badEscape
  if c = 'A' then return .anchor .textStart
  else if c = 'Z' then return .anchor .textEnd
  else if c = 'b' then return .anchor (.wordEdge flags.ascii)
  else if c = 'B' then return .anchor (.noWordEdge flags.ascii)
  else if c = '0' then
    let code := valueOf 8 (← takeUpTo 2 isOctal)
    return single flags (.range code code)
  else if c.isDigit then
    match (← get).rest with
    | d :: e :: rest =>
      if isOctal c && isOctal d && isOctal e then
        let code := valueOf 8 [c, d, e]
        if 0o377 < code then throw .badEscape
        modify ({ · with rest })
        return single flags (.range code code)
      else readReference flags (valueOf 10 (c :: (← takeUpTo 1 Char.isDigit)))
    | _ => readReference flags (valueOf 10 (c :: (← takeUpTo 1 Char.isDigit)))
  else return single flags (← readPlainEscape flags c)

/-- Bounds of repetitions are smaller. -/
def boundLimit : Nat := 4294967295

/-- A bound of a repetition, or what stands for a bound that is left out. -/
def readBound (digits : List Char) (missing : Option Nat) : Reading (Option Nat) :=
  if digits.isEmpty then return missing
  else if Number.maxDigits < digits.length then throw (.boundTooLong digits.length)
  else if boundLimit ≤ valueOf 10 digits then throw .boundTooLarge
  else return some (valueOf 10 digits)

/-- The bounds behind an opening brace; `none`, and nothing taken, if the brace is a character. -/
def readBraces : Reading (Option (Nat × Option Nat)) := do
  let start := (← get).rest
  let low := start.takeWhile Char.isDigit
  let behind := start.drop low.length
  let (high, rest) := match behind with
    | ',' :: r => (r.takeWhile Char.isDigit, r.dropWhile Char.isDigit)
    | r => (low, r)
  match start, rest with
  | '\x7d' :: _, _ => return none
  | _, '\x7d' :: rest =>
    -- A backslash at the end is noticed before the bounds are read.
    if rest = ['\\'] then throw .badEscape
    modify ({ · with rest })
    let min ← readBound low (some 0)
    let max ← readBound high none
    if max.any (· < min.getD 0) then throw .boundsOutOfOrder
    return some (min.getD 0, max)
  | _, _ => return none

/-- Whether a part of a sequence can be repeated. -/
inductive Repeatable where
  | yes
  | anchor
  | repeated

/-- The last part of a sequence repeated as the characters behind it say. -/
def repeatLast (min : Nat) (max : Option Nat) :
    List (Node × Repeatable) → Reading (List (Node × Repeatable))
  | [] => throw .nothingToRepeat
  | (_, .anchor) :: _ => throw .nothingToRepeat
  | (_, .repeated) :: _ => throw .repeatedTwice
  | (node, .yes) :: parts => do
    let (greed, rest) := match (← get).rest with
      | '?' :: rest => (Greed.lazy, rest)
      | '+' :: rest => (Greed.possessive, rest)
      | rest => (Greed.greedy, rest)
    modify ({ · with rest, hasRepeats := true })
    return (.iterate min max greed node, .repeated) :: parts

/-- A sequence of parts as one expression; the last part comes first. -/
def sequenceOf : List (Node × Repeatable) → Node
  | [] => .empty
  | parts => parts.foldl (fun node part => match node with
    | .empty => part.1
    | node => .cat part.1 node) .empty

/-- The name of a group: a letter or underscore and word characters. -/
def isName (s : List Char) : Bool :=
  match s with
  | [] => false
  | c :: _ => s.all Text.isWord && !Text.isDigit c

def groupNamed (name : List Char) : Reading Nat := do
  if !isName name then throw .badGroupName
  match (← get).names.lookup (String.ofList name) with
  | some index => return index
  | none => throw .unknownGroup

/-- Opens a group, perhaps with a name that no other group has. -/
def openGroup (name : Option (List Char)) : Reading Nat := do
  let index := (← groupCount) + 1
  modify fun s => { s with widths := s.widths ++ [none] }
  match name with
  | none => return index
  | some name =>
    let name := String.ofList name
    if ((← get).names.lookup name).isSome then throw .badGroupName
    modify fun s => { s with names := (name, index) :: s.names }
    return index

/-- The width of an expression, given what is known of the groups. -/
def widthOf (node : Node) : Reading Width := do
  let widths := (← get).widths
  return node.width fun index => (widths[index - 1]?.join).getD ⟨0, some 0⟩

def closeGroup (index : Nat) (body : Node) : Reading Node := do
  let width ← widthOf body
  modify fun s => { s with widths := s.widths.set (index - 1) (some width) }
  return .group index body

/-- The flags with one letter switched on or off. -/
def switchFlag (flags : Flags) (on : Bool) : Char → Option Flags
  | 'i' => some { flags with caseless := on }
  | 'm' => some { flags with multiline := on }
  | 's' => some { flags with dotAll := on }
  | 'x' => some { flags with verbose := on }
  | 'a' => if on then some { flags with ascii := true } else none
  | 'u' => if on then some { flags with ascii := false } else none
  | 't' => some flags
  | _ => none

def switchFlags (flags : Flags) (on : Bool) (letters : List Char) : Reading Flags :=
  letters.foldlM (fun f c => match switchFlag f on c with
    | some f => pure f
    | none => throw .badFlags) flags

/-- The letters of flags that may stand in a group of flags. -/
def isFlagLetter (c : Char) : Bool := ['i', 'm', 's', 'x', 'a', 'u', 't'].contains c

inductive FlagGroup where
  /-- The flags hold for the whole expression. -/
  | whole (flags : Flags) (letters : List Char)
  /-- The flags hold for the rest of the group. -/
  | scoped (flags : Flags)

/-- Flags behind a question mark, up to the parenthesis or colon that ends them. -/
def readFlags (flags : Flags) : Reading FlagGroup := do
  let letters (s : ReaderState) : List Char := s.rest.takeWhile isFlagLetter
  let on := letters (← get)
  if on.contains 'a' && on.contains 'u' then throw .badFlags
  modify fun s => { s with rest := s.rest.drop on.length }
  let switched ← switchFlags flags true on
  let c ← next .badFlags
  if c = ')' && !on.isEmpty then return .whole switched on
  if on.contains 't' then throw .badFlags
  if c = ':' && !on.isEmpty then return .scoped switched
  if c ≠ '-' then throw (if on.isEmpty then .unknownExtension else .badFlags)
  let off := letters (← get)
  modify fun s => { s with rest := s.rest.drop off.length }
  if off.isEmpty || off.contains 't' || off.any on.contains then throw .badFlags
  let switched ← switchFlags switched false off
  if (← next .badFlags) ≠ ':' then throw .badFlags
  return .scoped switched

/-- Passes over a comment up to the closing parenthesis; a backslash hides the character behind
it. The fuel is the number of characters left. -/
def skipComment : Nat → Reading Unit
  | 0 => throw .unterminated
  | fuel + 1 => do
    let c ← next .unterminated
    if c = ')' then return
    if c = '\\' then
      let _ ← next .badEscape
    skipComment fuel

/-- The group that a condition asks for, by name or number, behind the opening parenthesis. -/
def readCondition : Reading Nat := do
  let name ← takeUntil ')'
  if isName name then
    let index ← groupNamed name
    if (← get).groupsBeforeLook.isSome then checkReference index
    return index
  if name.isEmpty || !name.all Char.isDigit then throw .badGroupName
  let index := valueOf 10 name
  if index = 0 then throw .badGroupName
  modify fun s => { s with asked := index :: s.asked }
  if (← get).groupsBeforeLook.isSome then checkReference index
  return index

/-- What a character outside sets and groups stands for. -/
def plainNode (flags : Flags) (c : Char) : Node × Repeatable :=
  if c = '.' then (.anyChar flags.dotAll, .yes)
  else if c = '^' then (.anchor (if flags.multiline then .lineStart else .textStart), .anchor)
  else if c = '$' then (.anchor (if flags.multiline then .lineEnd else .finalLineEnd), .anchor)
  else (single flags (.range c.toNat c.toNat), .yes)

/-- Characters between the parts that the verbose form passes over. -/
def isLayout (c : Char) : Bool := [' ', '\t', '\n', '\r', '\x0b', '\x0c'].contains c

mutual

/-- Alternatives up to a closing parenthesis or the end. `top` tells the whole expression, in
which flags at the start hold for all alternatives. -/
def readAlternatives (flags : Flags) (top : Bool) : Nat → Reading Node
  | 0 => throw .unterminated
  | fuel + 1 => do
    let first ← readSequence flags top [] fuel
    if ← accept '|' then
      let whole := (← get).flags
      let rest ← readAlternatives (if top then whole else flags) false fuel
      return .alt first rest
    else return first

/-- A sequence of parts up to a bar, a closing parenthesis or the end. -/
def readSequence (flags : Flags) (top : Bool) (parts : List (Node × Repeatable)) :
    Nat → Reading Node
  | 0 => throw .unterminated
  | fuel + 1 => do
    let c ← peek
    if c.all fun c => c = '|' || c = ')' then return sequenceOf parts
    else
      let c ← next .unterminated
      if flags.verbose && isLayout c then readSequence flags top parts fuel
      else if flags.verbose && c = '#' then
        modify fun s => { s with rest := (s.rest.dropWhile (· != '\n')).drop 1 }
        readSequence flags top parts fuel
      else if c = '\\' then
        let node ← readEscape flags
        let kind := match node with
          | .anchor _ => Repeatable.anchor
          | _ => .yes
        readSequence flags top ((node, kind) :: parts) fuel
      else if c = '[' then
        let node ← readSet flags
        readSequence flags top ((node, .yes) :: parts) fuel
      else if c = '(' then
        if ← accept '?' then readExtension flags top parts fuel
        else
          let index ← openGroup none
          let body ← readAlternatives flags false fuel
          if !(← accept ')') then throw .unterminated
          let node ← closeGroup index body
          readSequence flags top ((node, .yes) :: parts) fuel
      else
        let bounds ←
          if c = '*' then pure (some (0, none))
          else if c = '+' then pure (some (1, none))
          else if c = '?' then pure (some (0, some 1))
          else if c = '\x7b' then readBraces
          else pure none
        match bounds with
        | some (min, max) =>
          let parts ← repeatLast min max parts
          readSequence flags top parts fuel
        | none => readSequence flags top (plainNode flags c :: parts) fuel

/-- A group that starts with a question mark, behind it, and the rest of the sequence. -/
def readExtension (flags : Flags) (top : Bool) (parts : List (Node × Repeatable)) :
    Nat → Reading Node
  | 0 => throw .unterminated
  | fuel + 1 => do
    let c ← next .unterminated
    if c = 'P' then
      if ← accept '<' then
        let name ← takeUntil '>'
        if !isName name then throw .badGroupName
        let index ← openGroup (some name)
        let body ← readAlternatives flags false fuel
        if !(← accept ')') then throw .unterminated
        let node ← closeGroup index body
        readSequence flags top ((node, .yes) :: parts) fuel
      else if ← accept '=' then
        let index ← groupNamed (← takeUntil ')')
        checkReference index
        readSequence flags top ((.again flags.caseRule index, .yes) :: parts) fuel
      else throw .unknownExtension
    else if c = ':' || c = '>' then
      let body ← readAlternatives flags false fuel
      if !(← accept ')') then throw .unterminated
      let node := if c = '>' then .atomic body else body
      readSequence flags top ((node, .yes) :: parts) fuel
    else if c = '#' then
      skipComment ((← get).rest.length + 1)
      readSequence flags top parts fuel
    else if c = '=' || c = '!' then
      let body ← readAlternatives flags false fuel
      if !(← accept ')') then throw .unterminated
      readSequence flags top ((.ahead (c = '!') body, .yes) :: parts) fuel
    else if c = '<' then
      let d ← next .unterminated
      if d ≠ '=' && d ≠ '!' then throw .unknownExtension
      let outer := (← get).groupsBeforeLook
      if outer.isNone then
        let count ← groupCount
        modify fun s => { s with groupsBeforeLook := some count }
      let body ← readAlternatives flags false fuel
      modify fun s => { s with groupsBeforeLook := outer }
      if !(← accept ')') then throw .unterminated
      match (← widthOf body).fixed? with
      | none => throw .looksBackUnevenly
      | some width =>
        readSequence flags top ((.behind (d = '!') width body, .yes) :: parts) fuel
    else if c = '(' then
      let index ← readCondition
      let yes ← readSequence flags false [] fuel
      let no ← if ← accept '|' then readSequence flags false [] fuel else pure .empty
      if (← peek) = some '|' then throw .tooManyBranches
      if !(← accept ')') then throw .unterminated
      readSequence flags top ((.ifGroup index yes no, .yes) :: parts) fuel
    else
      modify fun s => { s with rest := c :: s.rest }
      match ← readFlags flags with
      | .whole flags letters =>
        if !top || !parts.isEmpty then throw .badFlags
        modify fun s => { s with flags, flagLetters := letters ++ s.flagLetters }
        readSequence flags top parts fuel
      | .scoped inner =>
        let body ← readAlternatives inner false fuel
        if !(← accept ')') then throw .unterminated
        readSequence flags top ((body, .yes) :: parts) fuel

end

/-- The text of the error about flags that clash. -/
def alphabetsClashMessage : String := "ASCII and UNICODE flags are incompatible"

/-- The whole of an expression. Flags that clash, a closing parenthesis too many and a
condition on a group that does not exist are errors. -/
def readAll (fuel : Nat) : Reading Node := do
  let node ← readAlternatives {} true fuel
  let letters := (← get).flagLetters
  if letters.contains 'a' && letters.contains 'u' then throw .alphabetsClash
  if (← peek).isSome then throw .unbalanced
  if letters.contains 't' && (← get).hasRepeats then throw .badFlags
  let count ← groupCount
  if (← get).asked.any (count < ·) then throw .unknownGroup
  return node

/-- The expression that a text denotes. -/
def compile? (text : String) : Except PatternError Node :=
  let rest := text.toList
  ((readAll (4 * rest.length + 4)).run { rest }).map (·.1)

end PatchReview.Pattern
