import PatchReview.Intent.File

/-! What detectors look at, and what they report. -/
namespace PatchReview

/-- A line under review with what is known of its file. -/
structure LineContext where
  content : String
  language : String
  file : FileIntent

inductive Evidence where
  | exact
  | structural
  | pattern
  | keyword
deriving DecidableEq

namespace Evidence

def name : Evidence → String
  | exact => "exact"
  | structural => "ast"
  | pattern => "regex"
  | keyword => "keyword"

def ofName? (s : String) : Option Evidence :=
  [exact, structural, pattern, keyword].find? (·.name == s)

end Evidence

/-- Who asks for a check: the program itself or the team whose code is reviewed. -/
inductive IssueSource where
  | builtin
  | custom
deriving DecidableEq

def IssueSource.name : IssueSource → String
  | builtin => "builtin"
  | custom => "custom"

structure Issue where
  message : String
  suggestion : Option String := none
  ruleId : Option String := none
  /-- In ascending order and without repetitions. -/
  tags : List String := []
  evidence : Option Evidence := none
  source : IssueSource := .builtin
  /-- The language, if the check is one for certain languages only. -/
  language : Option String := none

end PatchReview
