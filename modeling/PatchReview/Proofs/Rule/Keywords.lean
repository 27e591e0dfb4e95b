import Mathlib.Data.List.Nodup
import PatchReview.Proofs.Text.Margin
import PatchReview.Rule.Basic

/-! What the words of a rule decide: its checks, whether it is a pattern, its severity. A rule is
read without blanks around it and without the box in front, but the text with them would be
classified alike, as each of the words is found in both or in neither. -/
namespace PatchReview

namespace Check
variable {text : List Char} {checks : List Check} {c : Check}

/-- The words that ask for the check stand in a text in lower case. -/
def Asks (text : List Char) : Check → Prop
  | noConsole => "console.log".toList <:+: text ∨ "print statement".toList <:+: text
  | noCommentedCode => "commented-out code".toList <:+: text
  | noVar => "avoid".toList <:+: text ∧ "var".toList <:+: text
  | preferTemplate => "template literal".toList <:+: text

theorem isAskedBy_iff : c.isAskedBy text = true ↔ c.Asks text := by
  cases c <;> simp [isAskedBy, Asks, Text.occursAny_iff, Text.occurs_iff]

theorem mem_all (c : Check) : c ∈ all := by
  cases c <;> decide

theorem mem_askedBy {text : String} : c ∈ askedBy text ↔ c.Asks (Text.lower text.toList) := by
  rw [askedBy, List.mem_filter, isAskedBy_iff]
  exact and_iff_right (mem_all c)

theorem name_inj {c d : Check} (h : c.name = d.name) : c = d := by
  cases c <;> cases d <;> first | rfl | exact absurd h (by decide)

theorem name_ne_unrecognized (c : Check) : c.name ≠ "unrecognized" := by
  cases c <;> decide

theorem names_eq_unrecognized_iff : names checks = ["unrecognized"] ↔ checks = [] := by
  cases checks with
  | nil => exact iff_of_true rfl rfl
  | cons c checks =>
    refine iff_of_false ?_ (List.cons_ne_nil c checks)
    intro h
    exact name_ne_unrecognized c (List.cons.inj h).1

theorem mem_names_iff : c.name ∈ names checks ↔ c ∈ checks := by
  cases checks with
  | nil => exact iff_of_false (by simpa [names] using name_ne_unrecognized c) List.not_mem_nil
  | cons d checks => exact List.mem_map_of_injective fun _ _ => name_inj

theorem names_ne_nil (checks : List Check) : names checks ≠ [] := by
  cases checks with
  | nil => exact List.cons_ne_nil _ _
  | cons c checks => exact List.cons_ne_nil _ _

theorem nodup_names (h : checks.Nodup) : (names checks).Nodup := by
  cases checks with
  | nil => exact List.nodup_singleton _
  | cons c checks => exact h.map fun _ _ => name_inj

theorem names_sublist (h : checks.Sublist all) : (names checks).Sublist (all.map name ++ names []) := by
  cases checks with
  | nil => exact List.sublist_append_right _ _
  | cons c checks => exact (h.map name).trans (List.sublist_append_left _ _)

end Check

namespace Rule

/-- All words that count in a rule. -/
def keywords : List String :=
  ["console.log", "print statement", "commented-out code", "avoid", "var", "template literal",
    "check for", "ensure", "verify", "look for", "flag", "must", "should not", "security",
    "vulnerability", "should"]

/-- The same words that count are in both texts. -/
def SameKeywords (a b : List Char) : Prop :=
  ∀ word ∈ keywords, word.toList <:+: Text.lower a ↔ word.toList <:+: Text.lower b

namespace SameKeywords
variable {a b : String} (h : SameKeywords a.toList b.toList)
include h

theorem occursAny (words : List String) (hwords : words ⊆ keywords) :
    Text.occursAny words (Text.lower a.toList) = Text.occursAny words (Text.lower b.toList) := by
  rw [Bool.eq_iff_iff, Text.occursAny_iff, Text.occursAny_iff]
  exact exists_congr fun word => and_congr_right fun hword => h word (hwords hword)

theorem asks (c : Check) : c.Asks (Text.lower a.toList) ↔ c.Asks (Text.lower b.toList) := by
  cases c with
  | noConsole => exact or_congr (h _ (by decide)) (h _ (by decide))
  | noCommentedCode => exact h _ (by decide)
  | noVar => exact and_congr (h _ (by decide)) (h _ (by decide))
  | preferTemplate => exact h _ (by decide)

theorem askedBy : Check.askedBy a = Check.askedBy b := by
  refine List.filter_congr ?_
  intro c _
  rw [Bool.eq_iff_iff, Check.isAskedBy_iff, Check.isAskedBy_iff]
  exact h.asks c

theorem describesPattern : describesPattern a = describesPattern b :=
  h.occursAny patternWords (by decide)

theorem severityOf : severityOf a = severityOf b := by
  have hcritical := h.occursAny ["security", "vulnerability", "must"] (by decide)
  have hwarning := h.occursAny ["should", "ensure", "verify"] (by decide)
  simp only [Rule.severityOf, hcritical, hwarning]

end SameKeywords

/-- What is left out in front of a rule: blanks, or a box with blanks around it. -/
inductive IsLead : List Char → Prop
  | blanks {s : List Char} : (∀ c ∈ s, Text.isBlank c = true) → IsLead s
  | box {s t : List Char} {mark : Char} : (∀ c ∈ s, Text.isBlank c = true) →
      mark ∈ [' ', 'x', 'X'] → (∀ c ∈ t, Text.isBlank c = true) →
      IsLead (s ++ '[' :: mark :: ']' :: t)

theorem isMargin_mark : ∀ mark ∈ [' ', 'x', 'X'], Text.IsMargin mark :=
  Text.forall_mem_of_all (by decide)

theorem IsLead.isMargin {lead : List Char} (h : IsLead lead) : ∀ c ∈ lead, Text.IsMargin c := by
  intro c hc
  cases h with
  | blanks hs => exact .inl (hs c hc)
  | box hs hmark ht =>
    simp only [List.mem_append, List.mem_cons] at hc
    rcases hc with hc | rfl | rfl | rfl | hc
    · exact .inl (hs c hc)
    · exact .inr (by decide)
    · exact isMargin_mark c hmark
    · exact .inr (by decide)
    · exact .inl (ht c hc)

/-- A box goes with the blanks behind it. -/
theorem dropCheckbox_cases (s : List Char) : dropCheckbox s = s ∨
    ∃ mark ∈ [' ', 'x', 'X'], ∃ blanks, (∀ c ∈ blanks, Text.isBlank c = true) ∧
      s = '[' :: mark :: ']' :: (blanks ++ dropCheckbox s) := by
  unfold dropCheckbox
  split
  · next mark rest =>
    split
    · next hmark =>
      refine .inr ⟨mark, by simpa [or_assoc] using hmark, rest.takeWhile Text.isBlank,
        Text.isBlank_of_mem_takeWhile, ?_⟩
      rw [Text.trimStart, List.takeWhile_append_dropWhile]
    · exact .inl rfl
  · exact .inl rfl

/-- The text of a rule is all but a lead and blanks at the end. -/
theorem exists_lead (raw : String) : ∃ lead back, IsLead lead ∧
    (∀ c ∈ back, Text.isBlank c = true) ∧ raw.toList = lead ++ (ofText raw).text.toList ++ back := by
  obtain ⟨front, back, hfront, hback, hraw⟩ := Text.exists_trim raw.toList
  have htext : (ofText raw).text.toList = dropCheckbox (Text.trim raw.toList) :=
    String.toList_ofList
  rw [htext]
  rcases dropCheckbox_cases (Text.trim raw.toList) with hself | ⟨mark, hmark, blanks, hblanks, hbox⟩
  · rw [hself]
    exact ⟨front, back, .blanks hfront, hback, hraw⟩
  · refine ⟨front ++ '[' :: mark :: ']' :: blanks, back, .box hfront hmark hblanks, hback, ?_⟩
    generalize dropCheckbox (Text.trim raw.toList) = text at hbox ⊢
    rw [hraw, hbox]
    simp

theorem isWord_keywords : ∀ word ∈ keywords, Text.IsWord word.toList := by
  decide +kernel

theorem isPattern_ofText (raw : String) :
    (ofText raw).isPattern = describesPattern (ofText raw).text := by
  simp only [ofText]

theorem severity_ofText (raw : String) :
    (ofText raw).severity = severityOf (ofText raw).text := by
  simp only [ofText]

theorem sameKeywords_ofText (raw : String) :
    SameKeywords (ofText raw).text.toList raw.toList := by
  obtain ⟨lead, back, hlead, hback, hraw⟩ := exists_lead raw
  intro word hword
  rw [hraw, (isWord_keywords word hword).infix_lower_iff hlead.isMargin]
  exact fun c hc => .inl (hback c hc)

/-- A rule is classified like the text that it is read from, though it leaves a part of that out. Its
checks are those that the text asks for, in their order, and a name of its own if there are none. -/
theorem ofText_classified_as_raw (raw : String) :
    (∃ lead back, IsLead lead ∧ (∀ c ∈ back, Text.isBlank c = true) ∧
      raw.toList = lead ++ (ofText raw).text.toList ++ back) ∧
    SameKeywords (ofText raw).text.toList raw.toList ∧
    (ofText raw).checks = Check.askedBy raw ∧
    (ofText raw).isPattern = describesPattern raw ∧
    (ofText raw).severity = severityOf raw ∧
    Check.names (ofText raw).checks ≠ [] ∧
    (Check.names (ofText raw).checks).Nodup ∧
    (Check.names (ofText raw).checks).Sublist
      ["no-console", "no-commented-code", "no-var", "prefer-template", "unrecognized"] ∧
    (∀ c : Check, c.name ∈ Check.names (ofText raw).checks ↔ c.Asks (Text.lower raw.toList)) ∧
    (Check.names (ofText raw).checks = ["unrecognized"] ↔
      ∀ c : Check, ¬ c.Asks (Text.lower raw.toList)) := by
  have hsame := sameKeywords_ofText raw
  have hchecks : (ofText raw).checks = Check.askedBy raw := hsame.askedBy
  have hpattern := (isPattern_ofText raw).trans hsame.describesPattern
  have hseverity := (severity_ofText raw).trans hsame.severityOf
  have hall : (ofText raw).checks.Sublist Check.all := List.filter_sublist
  have hnodup : (ofText raw).checks.Nodup := hall.nodup (by decide)
  have hnames : ∀ c : Check,
      c.name ∈ Check.names (ofText raw).checks ↔ c.Asks (Text.lower raw.toList) := by
    intro c
    rw [Check.mem_names_iff, hchecks, Check.mem_askedBy]
  have hnone : Check.names (ofText raw).checks = ["unrecognized"] ↔
      ∀ c : Check, ¬ c.Asks (Text.lower raw.toList) := by
    rw [Check.names_eq_unrecognized_iff, List.eq_nil_iff_forall_not_mem, hchecks]
    simp only [Check.mem_askedBy]
  exact ⟨exists_lead raw, hsame, hchecks, hpattern, hseverity, Check.names_ne_nil _,
    Check.nodup_names hnodup, Check.names_sublist hall, hnames, hnone⟩

end Rule
end PatchReview
