import PatchReview.Proofs.Config.Errors
import PatchReview.Proofs.Number.Range

/-! What a table can lead to. A configuration that was read keeps the bounds of every field, and a
table that is refused is told the field that is wrong. Four kinds of values get past the checks of
their fields: a timeout that is no number is kept, and integers out of range and expressions with
flags that clash stop the reader without a word about the field. Nothing else goes wrong, on a machine
with room for lists and expressions of any depth: how deep its stack is, no table tells. -/
namespace PatchReview.Config
open ConfigError (IsAt)

def settingNames : List String :=
  ["format", "min_confidence", "fail_on", "rules_file", "include", "exclude", "log_level",
    "detectors", "detectors.enable", "detectors.disable", "patterns",
    "review", "review.max_files", "review.workers", "review.timeout_seconds"]

section Outcomes
variable (fields : List (String × Value))

/-- The names of the fields, with their places in the table. -/
inductive IsFieldName : String → Prop
  | setting {name : String} : name ∈ settingNames → IsFieldName name
  | pattern {items : List Value} {i : Nat} {part : String} :
      given? "patterns" fields = some (.list items) → i < items.length → part ∈ patternParts →
      IsFieldName ("patterns[" ++ toString i ++ "]" ++ part)

/-- What a table may lead to: a configuration within its bounds, or a message that starts with the
name of a field. -/
inductive IsSound : Checked Config → Prop
  | read {c : Config} : c.IsResolved → (∀ t ∈ c.timeout, t.IsPositive) → IsSound (.ok c)
  | refused {e : ConfigError} {message name : String} : e.message? = some message →
      IsFieldName fields name → name.toList <+: message.toList → IsSound (.error e)

/-- The table has a pattern with the expression. -/
def HasExpression (text : String) : Prop :=
  ∃ items inner, given? "patterns" fields = some (.list items) ∧ Value.table inner ∈ items ∧
    given? "regex" inner = some (.text text)

/-- An error that tells no field, with the value that has led to it. -/
inductive IsStray : ConfigError → Prop
  | largeTimeout {n : Int} : timeoutValue? fields = some (.int n) →
      2 ^ 1024 - 2 ^ 970 ≤ n.natAbs → IsStray .numberTooLarge
  | largeBound {text : String} : HasExpression fields text →
      Pattern.compile? text = .error .boundTooLarge → IsStray .numberTooLarge
  | longBound {text : String} {digits : Nat} : HasExpression fields text →
      Pattern.compile? text = .error (.boundTooLong digits) → IsStray (.integerTooLong digits)
  | clash {text : String} : HasExpression fields text →
      Pattern.compile? text = .error .alphabetsClash → IsStray .alphabetsClash
  | longFormat {v : Value} : Value.field? "format" fields = some v → v.hasShortIntegers = false →
      IsStray (.integerTooLong none)

/-- What a table should not lead to. -/
inductive IsAmiss : Checked Config → Prop
  | read {c : Config} : timeoutValue? fields = some (.float .notANumber) → c.IsResolved →
      c.timeout = some .notANumber → IsAmiss (.ok c)
  | refused {e : ConfigError} : IsStray fields e → IsAmiss (.error e)

end Outcomes

/-! Refused tables -/

section Errors
variable {fields : List (String × Value)} {source : Option String} {e : ConfigError}

/-- An error that tells a field, or a stray one. -/
def IsExpected (fields : List (String × Value)) (e : ConfigError) : Prop :=
  (∃ name, IsFieldName fields name ∧ IsAt name e) ∨ IsStray fields e

theorem failsWith_setting {α : Type} {x : Checked α} (name : String) (hname : name ∈ settingNames)
    (hx : FailsWith (IsAt name) x) : FailsWith (IsExpected fields) x := by
  refine hx.imp ?_
  intro e he
  exact .inl ⟨name, .setting hname, he⟩

theorem failsWith_readFormat : FailsWith (IsExpected fields) (readFormat fields) := by
  rw [readFormat]
  split
  · exact failsWith_ok
  · next v hfield =>
    split
    · exact failsWith_ok
    · next hlong => exact failsWith_error (.inr (.longFormat hfield (Bool.not_eq_true _ ▸ hlong)))

theorem isExpected_of_isAboutPattern {items : List Value} {i : Nat} {inner : List (String × Value)}
    (hgiven : given? "patterns" fields = some (.list items))
    (hitem : items[i]? = some (Value.table inner))
    (he : IsAboutPattern ("patterns[" ++ toString i ++ "]") inner e) : IsExpected fields e := by
  obtain ⟨hi, hget⟩ := List.getElem?_eq_some_iff.1 hitem
  have hmem : Value.table inner ∈ items := List.mem_of_getElem? hitem
  cases he with
  | field hpart => exact .inl ⟨_, .pattern hgiven hi hpart, _, rfl⟩
  | largeBound htext hbound => exact .inr (.largeBound ⟨items, inner, hgiven, hmem, htext⟩ hbound)
  | longBound htext hbound => exact .inr (.longBound ⟨items, inner, hgiven, hmem, htext⟩ hbound)
  | clash htext hclash => exact .inr (.clash ⟨items, inner, hgiven, hmem, htext⟩ hclash)

theorem failsWith_ofFields : FailsWith (IsExpected fields) (ofFields fields source) := by
  rw [ofFields]
  refine failsWith_bind (failsWith_setting "detectors" (by decide) failsWith_readTable)
    fun _ _ => ?_
  refine failsWith_bind (failsWith_setting "review" (by decide) failsWith_readTable)
    fun review hreview => ?_
  refine failsWith_bind failsWith_readFormat fun _ _ => ?_
  refine failsWith_bind (failsWith_setting "min_confidence" (by decide) failsWith_readInteger)
    fun _ _ => ?_
  refine failsWith_check (.inl ⟨"min_confidence", .setting (by decide), _, rfl⟩) fun _ => ?_
  refine failsWith_bind (failsWith_setting "fail_on" (by decide) failsWith_readFailOn) fun _ _ => ?_
  refine failsWith_bind (failsWith_setting "rules_file" (by decide) failsWith_readOptional)
    fun _ _ => ?_
  refine failsWith_bind (failsWith_setting "include" (by decide) failsWith_readTexts) fun _ _ => ?_
  refine failsWith_bind (failsWith_setting "exclude" (by decide) failsWith_readTexts) fun _ _ => ?_
  refine failsWith_bind (failsWith_setting "detectors.enable" (by decide) failsWith_readTexts?)
    fun _ _ => ?_
  refine failsWith_bind (failsWith_setting "detectors.disable" (by decide) failsWith_readTexts)
    fun _ _ => ?_
  refine failsWith_bind (failsWith_readPatterns.imp ?_) fun _ _ => ?_
  · rintro e (he | ⟨items, i, inner, hgiven, hitem, he⟩)
    · exact .inl ⟨"patterns", .setting (by decide), he⟩
    · exact isExpected_of_isAboutPattern hgiven hitem he
  refine failsWith_bind (failsWith_setting "review.max_files" (by decide) failsWith_readPositive)
    fun _ _ => ?_
  refine failsWith_bind (failsWith_setting "review.workers" (by decide) failsWith_readPositive)
    fun _ _ => ?_
  refine failsWith_bind (failsWith_readTimeout.imp ?_) fun _ _ => ?_
  · rintro e (he | ⟨n, hgiven, hrange, rfl⟩)
    · exact .inl ⟨"review.timeout_seconds", .setting (by decide), he⟩
    · rw [given?_timeout hreview] at hgiven
      exact .inr (.largeTimeout hgiven (Binary64.ofInt?_eq_none_iff.1 hrange))
  refine failsWith_bind (failsWith_setting "log_level" (by decide) failsWith_readText) fun _ _ => ?_
  exact failsWith_ok

end Errors

/-! Configurations that were read -/

section Timeout
variable {fields : List (String × Value)} {source : Option String} {c : Config}

theorem ofInt?_ne_notANumber (n : Int) : Binary64.ofInt? n ≠ some .notANumber := by
  rw [Binary64.ofInt?]
  split
  · intro h
    cases h
  · intro h
    cases h

theorem readNumber_eq_notANumber {field : String} {v : Value}
    (h : readNumber field v = .ok .notANumber) : v = .float .notANumber := by
  cases v with
  | float x =>
    cases h
    rfl
  | int n =>
    rw [readNumber] at h
    split at h
    · next hn =>
      cases h
      exact absurd hn (ofInt?_ne_notANumber n)
    · cases h
  | null | bool | text | list | table | moment => cases h

theorem timeout_of_readTimeout {o : Option Binary64} (h : readTimeout fields = .ok o) :
    (∀ t ∈ o, t.IsPositive) ∨
      given? "timeout_seconds" fields = some (.float .notANumber) ∧ o = some .notANumber := by
  rw [readTimeout] at h
  split at h
  · next v hgiven =>
    simp only [bind_eq_ok, check_eq_ok] at h
    obtain ⟨t, ht, hpositive, ⟨⟩⟩ := h
    rcases Binary64.isNonPositive_eq_false_iff.1 (Bool.not_eq_true _ ▸ hpositive) with h | rfl
    · left
      rintro _ ⟨⟩
      exact h
    · right
      rw [readNumber_eq_notANumber ht] at hgiven
      exact ⟨hgiven, rfl⟩
  · cases h
    left
    rintro _ ⟨⟩

theorem timeout_of_ofFields (h : ofFields fields source = .ok c) :
    (∀ t ∈ c.timeout, t.IsPositive) ∨
      timeoutValue? fields = some (.float .notANumber) ∧ c.timeout = some .notANumber := by
  simp only [ofFields, bind_eq_ok, check_eq_ok] at h
  obtain ⟨detectors, -, review, hreview, format, -, minConfidence, -, -, failOn, -, rulesFile, -,
    included, -, excluded, -, enabled, -, disabled, -, patterns, -, maxFiles, -, workers, -,
    timeout, htimeout, level, -, ⟨⟩⟩ := h
  rw [← given?_timeout hreview]
  exact timeout_of_readTimeout htimeout

end Timeout

/-! Messages -/

section Messages
variable {fields : List (String × Value)} {field name : String} {e : ConfigError}

theorem isPrefix_invalidMessage (r : Requirement) :
    field.toList <+: (ConfigError.invalidMessage field r).toList := by
  unfold ConfigError.invalidMessage
  rw [String.toList_append, String.toList_append, List.append_assoc]
  exact List.prefix_append _ _

theorem IsFieldName.head (h : IsFieldName fields name) :
    ∃ c rest, name.toList = c :: rest ∧ c.isLower = true := by
  cases h with
  | setting hname =>
    have hall : ∀ name ∈ settingNames, name.toList.head?.any Char.isLower = true := by decide
    have hhead := hall name hname
    cases hlist : name.toList with
    | nil =>
      rw [hlist] at hhead
      cases hhead
    | cons c rest =>
      rw [hlist] at hhead
      exact ⟨c, rest, rfl, hhead⟩
  | pattern =>
    rw [String.append_assoc, String.append_assoc, String.toList_append]
    exact ⟨'p', _, rfl, by decide⟩

end Messages

section Main
variable {fields : List (String × Value)} {source : Option String} {e : ConfigError}

theorem isSound_or_isAmiss (fields : List (String × Value)) (source : Option String) :
    IsSound fields (ofFields fields source) ∨ IsAmiss fields (ofFields fields source) := by
  cases houtcome : ofFields fields source with
  | ok c =>
    have hresolved := isResolved_of_ofFields houtcome
    rcases timeout_of_ofFields houtcome with hpositive | ⟨hgiven, htimeout⟩
    · exact .inl (.read hresolved hpositive)
    · exact .inr (.read hgiven hresolved htimeout)
  | error e =>
    rcases failsWith_ofFields e houtcome with ⟨name, hname, r, rfl⟩ | hstray
    · exact .inl (.refused rfl hname (isPrefix_invalidMessage r))
    · exact .inr (.refused hstray)

/-- None of the values of the table gets past its check. -/
structure IsTame (fields : List (String × Value)) : Prop where
  timeout_ne : timeoutValue? fields ≠ some (.float .notANumber)
  timeout_lt : ∀ n, timeoutValue? fields = some (.int n) → n.natAbs < 2 ^ 1024 - 2 ^ 970
  expression : ∀ text e, HasExpression fields text → Pattern.compile? text = .error e →
    e ≠ .boundTooLarge ∧ (∀ digits, e ≠ .boundTooLong digits) ∧ e ≠ .alphabetsClash
  format : ∀ v, Value.field? "format" fields = some v → v.hasShortIntegers = true

theorem IsTame.not_isStray (h : IsTame fields) : ¬ IsStray fields e := by
  intro hstray
  cases hstray with
  | largeTimeout hvalue hlarge => exact Nat.not_le.2 (h.timeout_lt _ hvalue) hlarge
  | largeBound htext hcompile => exact (h.expression _ _ htext hcompile).1 rfl
  | longBound htext hcompile => exact (h.expression _ _ htext hcompile).2.1 _ rfl
  | clash htext hcompile => exact (h.expression _ _ htext hcompile).2.2 rfl
  | longFormat hvalue hlong =>
    rw [h.format _ hvalue] at hlong
    cases hlong

theorem IsTame.not_isAmiss {outcome : Checked Config} (h : IsTame fields) :
    ¬ IsAmiss fields outcome := by
  intro hamiss
  cases hamiss with
  | read hgiven => exact h.timeout_ne hgiven
  | refused hstray => exact h.not_isStray hstray

/-- A table of such values is read within its bounds or refused with a message about a field. -/
theorem IsTame.isSound_ofFields (h : IsTame fields) : IsSound fields (ofFields fields source) :=
  (isSound_or_isAmiss fields source).resolve_right h.not_isAmiss

/-! Values that get past their checks -/

end Main
end PatchReview.Config
