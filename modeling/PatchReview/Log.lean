import PatchReview.Text.Case

/-! Log records and the levels that sift them. -/
namespace PatchReview

/-- The levels of log records, from the least to the most urgent. -/
inductive LogLevel where
  | unset
  | debug
  | info
  | warning
  | error
  | critical
deriving DecidableEq

namespace LogLevel

def name : LogLevel → String
  | unset => "NOTSET"
  | debug => "DEBUG"
  | info => "INFO"
  | warning => "WARNING"
  | error => "ERROR"
  | critical => "CRITICAL"

def rank : LogLevel → Nat
  | unset => 0
  | debug => 10
  | info => 20
  | warning => 30
  | error => 40
  | critical => 50

/-- All names of levels. Two levels have a second name. -/
def ofName : List (String × LogLevel) := [
    ("NOTSET", unset), ("DEBUG", debug), ("INFO", info), ("WARNING", warning), ("WARN", warning),
    ("ERROR", error), ("CRITICAL", critical), ("FATAL", critical)]

/-- The level that a setting asks for, in any letter case. Warnings and above are logged where
the setting is unknown. -/
def ofSetting (s : String) : LogLevel := (ofName.lookup (Text.uppered s)).getD warning

/-- The variable of the environment whose level counts before any other. -/
def environmentVariable : String := "DIFF_REVIEW_LOG_LEVEL"

/-- The level that counts: that of the environment if it gives any. -/
def resolve (environment : Option String) (setting : String) : LogLevel :=
  ofSetting (environment.getD setting)

end LogLevel

structure LogRecord where
  level : LogLevel
  text : String

namespace LogRecord

/-- Whether the record is kept by a log of this level. An unset log keeps warnings and above. -/
def passes (level : LogLevel) (r : LogRecord) : Bool :=
  (if level = .unset then LogLevel.warning else level).rank ≤ r.level.rank

def line (r : LogRecord) : String := r.level.name ++ ": " ++ r.text

end LogRecord
end PatchReview
