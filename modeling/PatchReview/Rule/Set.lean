import PatchReview.Rule.Basic

/-! Sets of rules, filed in buckets. Categories and languages have a bucket each; the buckets
keep the order in which they were opened, and each keeps the order of its rules. -/
namespace PatchReview

/-- Named buckets of rules. No two have one name. -/
abbrev Buckets := List (String × List Rule)

namespace Buckets

/-- Adds rules at the end of a bucket, which is opened behind the others if it is new. -/
def extend (name : String) (rules : List Rule) : Buckets → Buckets
  | [] => [(name, rules)]
  | (n, rs) :: rest => if n = name then (n, rs ++ rules) :: rest else (n, rs) :: extend name rules rest

/-- Puts rules in place of the content of a bucket, which is opened if it is new. -/
def put (name : String) (rules : List Rule) : Buckets → Buckets
  | [] => [(name, rules)]
  | (n, rs) :: rest => if n = name then (n, rules) :: rest else (n, rs) :: put name rules rest

/-- All rules with the names of their buckets. -/
def entries (b : Buckets) : List (String × Rule) :=
  b.flatMap fun (name, rules) => rules.map fun r => (name, r)

/-- Adds the content of every bucket of `b` to `a`. -/
def append (a b : Buckets) : Buckets := b.foldl (fun acc (name, rules) => extend name rules acc) a

def toValue (b : Buckets) : Value :=
  .table (b.map fun (name, rules) => (name, .list (rules.map Rule.toValue)))

end Buckets

/-- A set of rules. -/
structure RuleSet where
  categories : Buckets := []
  languages : Buckets := []
  global : List Rule := []
  /-- The closing line of review summaries; empty if none is given. -/
  tone : String := ""
  source : Option String := none
deriving Inhabited

namespace RuleSet

/-- Whether the name of a bucket names the language. Slashes separate several languages. -/
def namesLanguage (language : List Char) (bucket : String) : Bool :=
  ((Text.splitAt '/' bucket.toList).map Text.trim).contains language

/-- The rules for a language, from every bucket that names it. -/
def rulesFor (s : RuleSet) (language : String) : List Rule :=
  (s.languages.filter fun b => namesLanguage (Text.lower language.toList) b.1).flatMap (·.2)

/-- All rules with the names of their buckets: categories, languages, and rules outside both. -/
def entries (s : RuleSet) : List (String × Rule) :=
  s.categories.entries ++ (s.languages.entries.map fun (name, r) => ("### " ++ name, r)) ++
    s.global.map fun r => ("global", r)

/-- The rules of both sets. The tone of the second counts if it has one. -/
def append (a b : RuleSet) : RuleSet where
  categories := a.categories.append b.categories
  languages := a.languages.append b.languages
  global := a.global ++ b.global
  tone := if b.tone.isEmpty then a.tone else b.tone
  source := match [a.source, b.source].filterMap fun s => s.filter (· != "") with
    | [] => none
    | sources => some (Text.join ", " sources)

def merge (sets : List RuleSet) : RuleSet := sets.foldl append {}

def toValue (s : RuleSet) : Value :=
  .table [
    ("categories", s.categories.toValue),
    ("language_specific", s.languages.toValue),
    ("global", .list (s.global.map Rule.toValue)),
    ("tone", .text s.tone),
    ("source", match s.source with
      | some source => .text source
      | none => .null)]

end RuleSet
end PatchReview
