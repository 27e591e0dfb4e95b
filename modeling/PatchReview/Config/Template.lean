import PatchReview.Text.Basic

/-! A configuration to start from. -/
namespace PatchReview.Config

/-- The text of a configuration file with the usual settings. -/
def template : String :=
  Text.join "\n" [
    "format = \"human\"",
    "min_confidence = 60",
    "fail_on = \"bug\"",
    "# rules_file = \".reviewrc.md\"",
    "include = [\"src/**\"]",
    "exclude = [\"docs/**\"]",
    "log_level = \"WARNING\"",
    "",
    "[detectors]",
    "# enable = [\"hardcoded_secrets\", \"dangerous_patterns\", \"guidelines\"]",
    "disable = []",
    "",
    "[review]",
    "max_files = 50",
    "workers = 4",
    "timeout_seconds = 30",
    "",
    "[[patterns]]",
    "rule_id = \"no-debugger\"",
    "regex = \"\\\\bdebugger\\\\b\"",
    "message = \"debugger statement left in code\"",
    "suggestion = \"Remove debugger statements before merging\"",
    "tags = [\"style\", \"production-only\"]",
    "languages = [\"javascript\", \"typescript\"]",
    "",
    "[[patterns]]",
    "rule_id = \"todo-marker\"",
    "keyword = \"FIXME\"",
    "message = \"FIXME marker added\"",
    "tags = [\"maintainability\"]",
    ""]

end PatchReview.Config
