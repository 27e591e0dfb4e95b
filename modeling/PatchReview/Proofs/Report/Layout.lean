import PatchReview.Proofs.Text.Join
import PatchReview.Report.Data

/-! What reports look like, letter by letter, in colours and without them. A listing and a document
have a place for each finding, with its path and line, its rule, its message, its confidence and its
advice; a report for other programs has a record with all that is known of it. -/
namespace PatchReview.Report

/-! Places of findings -/

/-- A text in the colours of a terminal, or as it is. -/
def paint (coloured : Bool) (colours s : String) : String :=
  if coloured then colours ++ s ++ "\x1b[0m" else s

/-- A kind, ten characters wide. -/
def kindMark (coloured : Bool) : Category → String
  | .bug => paint coloured "\x1b[31m\x1b[1m" "BUG       "
  | .refactor => paint coloured "\x1b[33m\x1b[1m" "REFACTOR  "
  | .suggestion => paint coloured "\x1b[34m\x1b[1m" "SUGGESTION"

/-- The name of the rule, or a dash. -/
def ruleMark (x : Finding) : String :=
  match x.ruleId with
  | none | some "" => "-"
  | some ruleId => ruleId

/-- The suggestion behind its introduction, if there is one. -/
def advice (lead : String) (x : Finding) : String :=
  match x.suggestion with
  | none | some "" => ""
  | some suggestion => lead ++ suggestion

/-- What a listing says of a finding behind its kind. -/
def told (x : Finding) : String :=
  " " ++ x.path ++ ":" ++ toString x.line ++ " [" ++ ruleMark x ++ "] " ++ x.message ++ " (" ++
    toString x.confidence ++ "% " ++ (ConfidenceLevel.ofScore x.confidence).label ++ ")" ++
    advice "\n           suggestion: " x

/-- The place of a finding in a listing, from the end of the line above on. -/
def listed (coloured : Bool) (x : Finding) : String :=
  "\n" ++ kindMark coloured x.category ++ told x

/-- The comment on a finding. -/
def comment (x : Finding) : String :=
  x.emoji ++ " **" ++ x.category.name ++ "** " ++ (ConfidenceLevel.ofScore x.confidence).emoji ++
    " (Confidence: " ++ toString x.confidence ++ "%)\n\n" ++ x.message ++ "\n" ++
    advice "\n💡 **Suggestion**: " x

/-- The place of a finding in a document, from the end of the line above on. -/
def sectioned (x : Finding) : String :=
  "\n\n### \x60" ++ x.path ++ "\x60 line " ++ toString x.line ++ "\n\n" ++ comment x

theorem kindMark_eq (c : Category) :
    TextStyle.apply [c.style, .bold] c.padded = kindMark true c := by
  cases c <;> decide +kernel

theorem ruleMark_eq (x : Finding) : (x.ruleId.filter (· != "")).getD "-" = ruleMark x := by
  unfold ruleMark
  cases x.ruleId with
  | none => rfl
  | some ruleId =>
    by_cases hempty : ruleId = ""
    · subst hempty
      rfl
    · have hkeep : (ruleId != "") = true := bne_iff_ne.2 hempty
      rw [Option.filter_some, if_pos hkeep]
      split
      · next h => cases h
      · next h => exact absurd (Option.some.inj h) hempty
      · next h => exact Option.some.inj h

theorem listed_eq (x : Finding) :
    String.join ((findingLines x).map ("\n" ++ ·)) = listed true x := by
  unfold findingLines listed told advice
  rw [List.map_cons, String.join_cons, kindMark_eq, ruleMark_eq]
  rcases x.suggestion with _ | s
  · simp only [List.map_nil, String.join_nil, String.append_empty, String.append_assoc]
  · by_cases hs : s = ""
    · subst hs
      simp only [List.map_nil, String.join_nil, String.append_empty, String.append_assoc]
    · have hlead : "\n           suggestion: " = "\n" ++ "           suggestion: " := rfl
      simp only [List.map_singleton, String.join_cons, String.join_nil, String.append_empty,
        hlead, String.append_assoc]

theorem body_eq (x : Finding) : x.body = comment x := rfl

theorem sectioned_eq (x : Finding) : "\n\n" ++ findingSection x = sectioned x := by
  rw [findingSection, sectioned, body_eq]
  simp only [← String.append_assoc]
  rfl

/-! The rest of a listing -/

def numbers (coloured : Bool) (s : FindingStats) : String :=
  paint coloured "\x1b[1m" (toString s.total ++ " finding(s): " ++ toString s.bugs ++ " bug, " ++
    toString s.refactors ++ " refactor, " ++ toString s.suggestions ++ " suggestion")

def partialNotice (coloured isPartial : Bool) : String :=
  if isPartial then "\n" ++ paint coloured "\x1b[33m" "Review timed out; results are partial."
  else ""

def hiddenNotice (hidden : Nat) (m : Int) : String :=
  if hidden = 0 then ""
  else "\n" ++ toString hidden ++ " finding(s) below confidence " ++ toString m ++ " hidden"

theorem numbers_eq (s : FindingStats) :
    TextStyle.apply [.bold] (headline s) = numbers true s := rfl

theorem partialNotice_eq (isPartial : Bool) :
    String.join ((if isPartial then
      [TextStyle.apply [.yellow] "Review timed out; results are partial."] else []).map
        ("\n" ++ ·)) = partialNotice true isPartial := by
  cases isPartial <;> decide +kernel

theorem hiddenNotice_eq (hidden : Nat) (m : Int) :
    String.join ((if hidden = 0 then []
      else [toString hidden ++ " finding(s) below confidence " ++ toString m ++ " hidden"]).map
        ("\n" ++ ·)) = hiddenNotice hidden m := by
  rw [hiddenNotice]
  split
  · rfl
  · rw [List.map_singleton, String.join_cons, String.join_nil, String.append_empty]
    simp only [String.append_assoc]

/-- A listing tells the numbers, whether the review was cut off and how many findings are hidden,
and then of each finding that is shown. -/
theorem listing_eq_places (r : ReviewResult) (m : Int) :
    listing r m = numbers true r.stats ++ partialNotice true r.isPartial ++
      hiddenNotice (r.findings.length - (visible m r.findings).length) m ++
      String.join ((visible m r.findings).map (listed true)) := by
  rw [listing, List.append_assoc, List.append_assoc, List.singleton_append, Text.join_cons,
    List.map_append, String.join_append, List.map_append, String.join_append, List.map_flatMap,
    Text.join_flatMap, numbers_eq, partialNotice_eq, hiddenNotice_eq]
  simp only [listed_eq, String.append_assoc]

theorem document_eq_places (r : ReviewResult) (m : Int) :
    document r m = r.summary ++ String.join ((visible m r.findings).map sectioned) ++ "\n" := by
  rw [document, Text.join_cons, List.map_map]
  simp only [Function.comp_def, sectioned_eq]

/-! Records of findings -/

/-- A character between quotation marks. -/
def quotedChar : Char → String
  | '"' => "\\\""
  | '\\' => "\\\\"
  | '\n' => "\\n"
  | '\r' => "\\r"
  | '\t' => "\\t"
  | '\x08' => "\\b"
  | '\x0c' => "\\f"
  | c =>
    if c.toNat < 0x20 then
      "\\u00" ++ String.ofList [Nat.digitChar (c.toNat / 16), Nat.digitChar (c.toNat % 16)]
    else String.singleton c

/-- A text between quotation marks. -/
def quoted (s : String) : String :=
  "\"" ++ String.join (s.toList.map quotedChar) ++ "\""

/-- A text, or nothing. -/
def optionText : Option String → String
  | none => "null"
  | some s => quoted s

def listText (items : List String) : String := "[" ++ String.intercalate ", " items ++ "]"

/-- An object with certain members in their order. -/
def objectText (members : List (String × String)) : String :=
  "\x7b" ++ String.intercalate ", " (members.map fun (key, text) => quoted key ++ ": " ++ text) ++
    "\x7d"

/-- The record of a finding. -/
def recordText (x : Finding) : String :=
  objectText [
    ("body", quoted (comment x)),
    ("category", quoted x.category.name),
    ("confidence", toString x.confidence),
    ("emoji", quoted x.emoji),
    ("line", toString x.line),
    ("message", quoted x.message),
    ("path", quoted x.path),
    ("rule_id", optionText x.ruleId),
    ("severity", quoted x.severity),
    ("sort_order", toString x.sortOrder),
    ("suggestion", optionText x.suggestion),
    ("tags", listText (x.tags.map quoted))]

/-- The numbers of findings in a report for other programs. -/
def statsText (s : FindingStats) : String :=
  objectText [
    ("bugs", toString s.bugs),
    ("critical", toString s.critical),
    ("high", toString s.high),
    ("low", toString s.low),
    ("medium", toString s.medium),
    ("refactors", toString s.refactors),
    ("suggestions", toString s.suggestions),
    ("total", toString s.total)]

theorem join_eq_intercalate (sep : String) (xs : List String) :
    Text.join sep xs = String.intercalate sep xs := by
  induction xs using Text.join.induct with
  | case1 => rfl
  | case2 s => rw [Text.join, String.intercalate_singleton]
  | case3 s t rest ih => rw [Text.join, ih, String.intercalate_cons_cons]

theorem unitEscape_eq (n : Nat) (h : n < 0x20) : Json.unitEscape n =
    '\\' :: 'u' :: '0' :: '0' :: [Nat.digitChar (n / 16), Nat.digitChar (n % 16)] := by
  decide +revert

theorem stringChar_eq (c : Char) : Json.stringChar .unicode c = (quotedChar c).toList := by
  unfold quotedChar
  split
  case h_8 hmark hslash hline hreturn htab hback hfeed =>
    have hplain : ¬ (c = '"' || c = '\\') = true := by
      rw [Bool.or_eq_true, decide_eq_true_iff, decide_eq_true_iff]
      exact not_or.2 ⟨hmark, hslash⟩
    rw [Json.stringChar, if_neg hplain, if_neg hline, if_neg hreturn, if_neg htab, if_neg hback,
      if_neg hfeed]
    split
    · next hcontrol =>
      rw [unitEscape_eq _ hcontrol]
      simp only [String.toList_append, String.toList_ofList]
      rfl
    · rw [decide_eq_true rfl, Bool.or_true, if_pos rfl, String.toList_singleton]
  all_goals rfl

theorem stringText_eq (s : String) : Json.stringText .unicode s = quoted s := by
  have hchars : ∀ cs : List Char, cs.flatMap (Json.stringChar .unicode) =
      (String.join (cs.map quotedChar)).toList := by
    intro cs
    induction cs with
    | nil => rfl
    | cons c cs ih =>
      rw [List.flatMap_cons, ih, stringChar_eq, List.map_cons, String.join_cons,
        String.toList_append]
  rw [Json.stringText, hchars, quoted, ← String.toList_inj]
  simp only [String.toList_ofList, String.toList_append]
  rfl

theorem text_table {fields : List (String × Value)} {members : List (String × String)}
    (h : (Json.memberTexts .unicode fields).mergeSort (fun a b => a.1 ≤ b.1) =
      members.map fun (key, text) => (key, quoted key ++ ": " ++ text)) :
    Json.text .unicode (.table fields) = objectText members := by
  rw [Json.text, h, join_eq_intercalate, objectText, List.map_map]
  rfl

theorem text_list (items : List Value) :
    Json.text .unicode (.list items) = listText (items.map (Json.text .unicode)) := by
  have hitems : Json.itemTexts .unicode items = items.map (Json.text .unicode) := by
    induction items with
    | nil => rfl
    | cons v rest ih => rw [Json.itemTexts, ih, List.map_cons]
  rw [Json.text, hitems, join_eq_intercalate, listText]

theorem text_optionalText (s : Option String) :
    Json.text .unicode (Finding.optionalText s) = optionText s := by
  cases s with
  | none => rfl
  | some s => exact stringText_eq s

theorem text_stats (s : FindingStats) : Json.text .unicode s.toValue = statsText s := by
  have hnumber : ∀ n : Nat, (n : Int).repr = n.repr := fun _ => rfl
  refine text_table ?_
  simp only [Json.memberTexts, stringText_eq]
  simp [Json.text, hnumber, List.mergeSort, List.MergeSort.Internal.splitInTwo]

theorem text_record (x : Finding) :
    Json.text .unicode (.table (x.toFields ++ [("body", .text x.body)])) = recordText x := by
  have htags : (x.tags.map Value.text).map (Json.text .unicode) =
      x.tags.map quoted := by
    rw [List.map_map]
    exact List.map_congr_left fun tag _ => stringText_eq tag
  refine text_table ?_
  simp only [Finding.toFields, List.cons_append, List.nil_append, Json.memberTexts,
    stringText_eq, text_list, htags, text_optionalText, body_eq]
  simp [Json.text, stringText_eq, List.mergeSort, List.MergeSort.Internal.splitInTwo]

theorem text_report (kinds files change info : Value) (findings : List Finding) (isPartial : Bool)
    (stats : FindingStats) (summary : String) :
    Json.text .unicode (.table [
      ("findings", .list (findings.map fun f =>
        .table (f.toFields ++ [("body", .text f.body)]))),
      ("summary", .text summary),
      ("stats", stats.toValue),
      ("categories", kinds),
      ("pr_intent", change),
      ("files", files),
      ("partial", .bool isPartial),
      ("meta", info)]) =
    objectText [
      ("categories", Json.text .unicode kinds),
      ("files", Json.text .unicode files),
      ("findings", listText (findings.map recordText)),
      ("meta", Json.text .unicode info),
      ("partial", if isPartial then "true" else "false"),
      ("pr_intent", Json.text .unicode change),
      ("stats", statsText stats),
      ("summary", quoted summary)] := by
  have hrecords : (findings.map fun f => Value.table (f.toFields ++ [("body", .text f.body)])).map
      (Json.text .unicode) = findings.map recordText := by
    rw [List.map_map]
    exact List.map_congr_left fun x _ => text_record x
  refine text_table ?_
  simp only [Json.memberTexts, stringText_eq, text_list, hrecords, text_stats]
  simp [Json.text, stringText_eq, List.mergeSort, List.MergeSort.Internal.splitInTwo]

/-- A report for other programs has the records of the findings that are shown, the summary and the
numbers. Of the rest only what is told of the report itself depends on the threshold. -/
theorem json_eq_records (r : ReviewResult) : ∃ kinds files change, ∀ origin, ∃ info,
    json r origin = objectText [
      ("categories", kinds),
      ("files", files),
      ("findings", listText ((visible origin.minConfidence r.findings).map recordText)),
      ("meta", info),
      ("partial", if r.isPartial then "true" else "false"),
      ("pr_intent", change),
      ("stats", statsText r.stats),
      ("summary", quoted r.summary)] :=
  ⟨_, _, _, fun _ => ⟨_, text_report ..⟩⟩

end PatchReview.Report
