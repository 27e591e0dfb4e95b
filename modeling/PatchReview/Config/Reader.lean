import PatchReview.Config.Basic
import PatchReview.Text.Blank

/-! Configurations from tables of data. Every field is checked; unknown ones are passed over. -/
namespace PatchReview

/-- What a field of a configuration has to be. -/
inductive Requirement where
  | table
  | tables
  | texts
  | text
  | integer
  | number
  | oneOf (names : List String)
  | percentage
  | positive
  | expressionOrKeyword
  | expression

/-- The requirement in words that follow the name of the field. -/
def Requirement.words : Requirement → String
  | table => "must be a table/object"
  | tables => "must be a list of tables"
  | texts => "must be a list of strings"
  | text => "must be a string"
  | integer => "must be an integer"
  | number => "must be a number"
  | oneOf names => "must be one of: " ++ Text.join ", " names
  | percentage => "must be between 0 and 100"
  | positive => "must be > 0"
  | expressionOrKeyword => "must define exactly one of regex or keyword"
  | expression => "is not a valid pattern"

inductive ConfigError where
  | invalid (field : String) (r : Requirement)
  /-- A number in the table is too large to be computed with. -/
  | numberTooLarge
  /-- An integer in the table has too many digits to be read, which are counted then, or to be
  shown. -/
  | integerTooLong (digits : Option Nat)
  /-- The flags of an expression ask for two alphabets. -/
  | alphabetsClash

namespace ConfigError

def invalidMessage (field : String) (r : Requirement) : String :=
  field ++ " " ++ r.words

/-- The text of an error in a value. A number that is too large to be computed with is an error of
another kind. -/
def message? : ConfigError → Option String
  | invalid field r => some (invalidMessage field r)
  | numberTooLarge => none
  | integerTooLong digits => some (Number.tooLongMessage digits)
  | alphabetsClash => some Pattern.alphabetsClashMessage

end ConfigError

namespace Config

/-- The result of reading a field. -/
abbrev Checked (α : Type) := Except ConfigError α

/-- The value of a field; null counts as absent. -/
def given? (key : String) (fields : List (String × Value)) : Option Value :=
  (Value.field? key fields).filter fun v =>
    match v with
    | .null => false
    | _ => true

/-- The fields of a table; none if it is absent. -/
def readTable (fields : List (String × Value)) (key : String) :
    Checked (List (String × Value)) :=
  match given? key fields with
  | none => .ok []
  | some (.table inner) => .ok inner
  | some _ => .error (.invalid key .table)

/-- A text with something in it beside blanks. -/
def readText (field : String) : Value → Checked String
  | .text s => if (Text.trim s.toList).isEmpty then .error (.invalid field .text) else .ok s
  | _ => .error (.invalid field .text)

def readOptional (fields : List (String × Value)) (key field : String) :
    Checked (Option String) :=
  match given? key fields with
  | none => .ok none
  | some v => (readText field v).map some

def readTexts? (fields : List (String × Value)) (key field : String) :
    Checked (Option (List String)) :=
  match given? key fields with
  | none => .ok none
  | some (.list items) =>
    match items.mapM (fun v : Value => match v with
        | .text s => some s
        | _ => none) with
    | some texts => .ok (some texts)
    | none => .error (.invalid field .texts)
  | some _ => .error (.invalid field .texts)

def readTexts (fields : List (String × Value)) (key field : String) : Checked (List String) :=
  (readTexts? fields key field).map (·.getD [])

/-- An integer, which may be absent but not null. -/
def readInteger (fields : List (String × Value)) (key field : String) (default : Int) :
    Checked Int :=
  match Value.field? key fields with
  | none => .ok default
  | some (.int n) => .ok n
  | some _ => .error (.invalid field .integer)

def readPositive (fields : List (String × Value)) (key field : String) (default : Int) :
    Checked Int := do
  let n ← readInteger fields key field default
  if n ≤ 0 then throw (.invalid field .positive)
  return n

/-- The form of reports. What is no form stands for the form for people. -/
def readFormat (fields : List (String × Value)) : Checked OutputFormat :=
  match Value.field? "format" fields with
  | none => .ok .human
  | some v =>
    if v.hasShortIntegers then .ok ((OutputFormat.ofName? (Text.lowered v.asText)).getD .human)
    else .error (.integerTooLong none)

/-- The kind of findings that makes a review fail. -/
def readFailOn (fields : List (String × Value)) : Checked (Option Category) := do
  let some name ← readOptional fields "fail_on" "fail_on" | return none
  match Category.ofChoice? (Text.lowered name) with
  | some c => return some c
  | none => throw (.invalid "fail_on" (.oneOf (Category.all.map Category.choice)))

def readNumber (field : String) : Value → Checked Binary64
  | .float x => .ok x
  | .int n =>
    match Binary64.ofInt? n with
    | some x => .ok x
    | none => .error .numberTooLarge
  | _ => .error (.invalid field .number)

def readTimeout (fields : List (String × Value)) : Checked (Option Binary64) := do
  let field := "review.timeout_seconds"
  let some v := given? "timeout_seconds" fields | return none
  let t ← readNumber field v
  if t.isNonPositive then throw (.invalid field .positive)
  return some t

def checkExpression (field text : String) : Checked Unit :=
  match Pattern.compile? text with
  | .ok _ => .ok ()
  | .error .boundTooLarge => .error .numberTooLarge
  | .error (.boundTooLong digits) => .error (.integerTooLong digits)
  | .error .alphabetsClash => .error .alphabetsClash
  | .error _ => .error (.invalid field .expression)

/-- A pattern. `name` is the name of its table and `index` its place in the list. -/
def readPattern (name : String) (index : Nat) (fields : List (String × Value)) :
    Checked CustomPattern := do
  if (given? "regex" fields).isNone == (given? "keyword" fields).isNone then
    throw (.invalid name .expressionOrKeyword)
  let regex ← readOptional fields "regex" (name ++ ".regex")
  if let some text := regex then checkExpression (name ++ ".regex") text
  let keyword ← readOptional fields "keyword" (name ++ ".keyword")
  let ruleId ← readText (name ++ ".rule_id")
    ((Value.field? "rule_id" fields).getD (.text ("custom-pattern-" ++ toString index)))
  let message ← readText (name ++ ".message") ((Value.field? "message" fields).getD .null)
  let suggestion ← readOptional fields "suggestion" (name ++ ".suggestion")
  let tags ← readTexts fields "tags" (name ++ ".tags")
  let languages ← readTexts fields "languages" (name ++ ".languages")
  return { ruleId, message, regex, keyword, suggestion, tags,
           languages := languages.map Text.lowered }

/-- Patterns from the one with number `index` on. -/
def readPatternsFrom (index : Nat) : List (List (String × Value)) → Checked (List CustomPattern)
  | [] => .ok []
  | fields :: rest => do
    let p ← readPattern ("patterns[" ++ toString index ++ "]") index fields
    return p :: (← readPatternsFrom (index + 1) rest)

def readPatterns (fields : List (String × Value)) : Checked (List CustomPattern) :=
  match given? "patterns" fields with
  | none => .ok []
  | some (.list items) =>
    match items.mapM (fun v : Value => match v with
        | .table inner => some inner
        | _ => none) with
    | some tables => readPatternsFrom 0 tables
    | none => .error (.invalid "patterns" .tables)
  | some _ => .error (.invalid "patterns" .tables)

/-- The configuration that a table describes. -/
def ofFields (fields : List (String × Value)) (source : Option String) : Checked Config := do
  let detectors ← readTable fields "detectors"
  let review ← readTable fields "review"
  let format ← readFormat fields
  let minConfidence ← readInteger fields "min_confidence" "min_confidence" 0
  if minConfidence < 0 ∨ 100 < minConfidence then throw (.invalid "min_confidence" .percentage)
  let failOn ← readFailOn fields
  let rulesFile ← readOptional fields "rules_file" "rules_file"
  let included ← readTexts fields "include" "include"
  let excluded ← readTexts fields "exclude" "exclude"
  let enabled ← readTexts? detectors "enable" "detectors.enable"
  let disabled ← readTexts detectors "disable" "detectors.disable"
  let patterns ← readPatterns fields
  let maxFiles ← readPositive review "max_files" "review.max_files" 50
  let workers ← readPositive review "workers" "review.workers" 1
  let timeout ← readTimeout review
  let logLevel ← readText "log_level" ((Value.field? "log_level" fields).getD (.text "WARNING"))
  return {
    format
    minConfidence
    failOn
    rulesFile
    scope := ⟨included, excluded⟩
    detectors := ⟨enabled, disabled⟩
    patterns
    maxFiles
    workers
    timeout
    logLevel := Text.uppered logLevel
    source }

end Config
end PatchReview
