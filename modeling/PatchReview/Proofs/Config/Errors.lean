import PatchReview.Proofs.Config.FixedPoint

/-! What is wrong with a table that is refused. Each field has its own check, and an error names the
field whose check failed. Numbers that are too large are the exception: they stop the reader where
they stand, and the error names no field. -/
namespace PatchReview

/-- The error says what a field has to be. -/
def ConfigError.IsAt (field : String) (e : ConfigError) : Prop := ∃ r, e = .invalid field r

namespace Config
open ConfigError (IsAt)

section Fields
variable {fields : List (String × Value)} {key field : String} {v : Value} {default : Int}

theorem failsWith_readTable : FailsWith (IsAt key) (readTable fields key) := by
  rw [readTable]
  split
  · exact failsWith_ok
  · exact failsWith_ok
  · exact failsWith_error ⟨_, rfl⟩

theorem failsWith_readText : FailsWith (IsAt field) (readText field v) := by
  cases v with
  | text s =>
    rw [readText]
    split
    · exact failsWith_error ⟨_, rfl⟩
    · exact failsWith_ok
  | null | bool | int | float | list | table | moment => exact failsWith_error ⟨_, rfl⟩

theorem failsWith_readOptional : FailsWith (IsAt field) (readOptional fields key field) := by
  rw [readOptional]
  split
  · exact failsWith_ok
  · exact failsWith_map failsWith_readText

theorem failsWith_readTexts? : FailsWith (IsAt field) (readTexts? fields key field) := by
  rw [readTexts?]
  split
  · exact failsWith_ok
  · split
    · exact failsWith_ok
    · exact failsWith_error ⟨_, rfl⟩
  · exact failsWith_error ⟨_, rfl⟩

theorem failsWith_readTexts : FailsWith (IsAt field) (readTexts fields key field) :=
  failsWith_map failsWith_readTexts?

theorem failsWith_readInteger : FailsWith (IsAt field) (readInteger fields key field default) := by
  rw [readInteger]
  split
  · exact failsWith_ok
  · exact failsWith_ok
  · exact failsWith_error ⟨_, rfl⟩

theorem failsWith_readPositive :
    FailsWith (IsAt field) (readPositive fields key field default) := by
  refine failsWith_bind failsWith_readInteger ?_
  intro n _
  refine failsWith_check ⟨_, rfl⟩ ?_
  exact fun _ => failsWith_ok

theorem failsWith_readFailOn : FailsWith (IsAt "fail_on") (readFailOn fields) := by
  refine failsWith_bind failsWith_readOptional ?_
  intro name _
  cases name with
  | none => exact failsWith_ok
  | some name =>
    dsimp only
    split
    · exact failsWith_ok
    · exact failsWith_error ⟨_, rfl⟩

/-- What the table of limits gives as the timeout. -/
def timeoutValue? (fields : List (String × Value)) : Option Value :=
  match given? "review" fields with
  | some (.table review) => given? "timeout_seconds" review
  | _ => none

theorem given?_timeout {review : List (String × Value)}
    (h : readTable fields "review" = .ok review) :
    given? "timeout_seconds" review = timeoutValue? fields := by
  rw [readTable] at h
  rw [timeoutValue?]
  split at h
  · next hgiven =>
    cases h
    rw [hgiven]
    rfl
  · next hgiven =>
    cases h
    rw [hgiven]
  · cases h

theorem failsWith_readTimeout :
    FailsWith (fun e => IsAt "review.timeout_seconds" e ∨ ∃ n,
      given? "timeout_seconds" fields = some (.int n) ∧ Binary64.ofInt? n = none ∧
        e = .numberTooLarge) (readTimeout fields) := by
  rw [readTimeout]
  split
  · next v hgiven =>
    refine failsWith_bind ?_ ?_
    · cases v with
      | int n =>
        rw [readNumber]
        split
        · exact failsWith_ok
        · next hrange => exact failsWith_error (.inr ⟨n, hgiven, hrange, rfl⟩)
      | float x => exact failsWith_ok
      | null | bool | text | list | table | moment => exact failsWith_error (.inl ⟨_, rfl⟩)
    · intro t _
      refine failsWith_check (.inl ⟨_, rfl⟩) ?_
      exact fun _ => failsWith_ok
  · exact failsWith_ok

end Fields

/-! Patterns -/

section Patterns
variable {name : String} {index : Nat} {inner fields : List (String × Value)}

/-- What errors put behind the name of a pattern. -/
def patternParts : List String :=
  ["", ".regex", ".keyword", ".rule_id", ".message", ".suggestion", ".tags", ".languages"]

/-- An error in a table that is read as a pattern: a field of it is wrong, or its expression has a
bound that cannot be computed with or flags that clash. -/
inductive IsAboutPattern (name : String) (inner : List (String × Value)) : ConfigError → Prop
  | field {part : String} {r : Requirement} :
      part ∈ patternParts → IsAboutPattern name inner (.invalid (name ++ part) r)
  | largeBound {text : String} :
      given? "regex" inner = some (.text text) → Pattern.compile? text = .error .boundTooLarge →
      IsAboutPattern name inner .numberTooLarge
  | longBound {text : String} {digits : Nat} :
      given? "regex" inner = some (.text text) →
      Pattern.compile? text = .error (.boundTooLong digits) →
      IsAboutPattern name inner (.integerTooLong digits)
  | clash {text : String} :
      given? "regex" inner = some (.text text) → Pattern.compile? text = .error .alphabetsClash →
      IsAboutPattern name inner .alphabetsClash

theorem isAboutPattern_of_isAt {part : String} (hpart : part ∈ patternParts) {e : ConfigError}
    (h : IsAt (name ++ part) e) : IsAboutPattern name inner e := by
  obtain ⟨r, rfl⟩ := h
  exact .field hpart

theorem failsWith_checkExpression {text : String} (h : given? "regex" inner = some (.text text)) :
    FailsWith (IsAboutPattern name inner) (checkExpression (name ++ ".regex") text) := by
  rw [checkExpression]
  split
  · exact failsWith_ok
  · next hbound => exact failsWith_error (.largeBound h hbound)
  · next hbound => exact failsWith_error (.longBound h hbound)
  · next hclash => exact failsWith_error (.clash h hclash)
  · exact failsWith_error (.field (by decide))

theorem failsWith_readPattern :
    FailsWith (IsAboutPattern name inner) (readPattern name index inner) := by
  have hfield : ∀ {α : Type} {x : Checked α} (part : String), part ∈ patternParts →
      FailsWith (IsAt (name ++ part)) x → FailsWith (IsAboutPattern name inner) x :=
    fun _ hpart hx => hx.imp fun _ => isAboutPattern_of_isAt hpart
  have hone : IsAboutPattern name inner (.invalid name .expressionOrKeyword) := by
    have h : IsAboutPattern name inner (.invalid (name ++ "") .expressionOrKeyword) :=
      .field (by decide)
    rwa [String.append_empty] at h
  rw [readPattern]
  refine failsWith_check hone fun _ => ?_
  refine failsWith_bind (hfield ".regex" (by decide) failsWith_readOptional) fun regex hregex => ?_
  have hgiven := (readOptional_eq_ok.1 hregex).1
  cases regex
  case' some text => refine failsWith_bind (failsWith_checkExpression hgiven) fun _ _ => ?_
  -- An expression is checked before the other fields are read, which are the same without one.
  all_goals
    refine failsWith_bind (hfield ".keyword" (by decide) failsWith_readOptional) fun _ _ => ?_
    refine failsWith_bind (hfield ".rule_id" (by decide) failsWith_readText) fun _ _ => ?_
    refine failsWith_bind (hfield ".message" (by decide) failsWith_readText) fun _ _ => ?_
    refine failsWith_bind (hfield ".suggestion" (by decide) failsWith_readOptional) fun _ _ => ?_
    refine failsWith_bind (hfield ".tags" (by decide) failsWith_readTexts) fun _ _ => ?_
    refine failsWith_bind (hfield ".languages" (by decide) failsWith_readTexts) fun _ _ => ?_
    exact failsWith_ok

/-- The errors of the pattern at a place, which its name tells. -/
theorem failsWith_readPatternsFrom {tables : List (List (String × Value))} :
    FailsWith (fun e => ∃ i inner, tables[i]? = some inner ∧
      IsAboutPattern ("patterns[" ++ toString (index + i) ++ "]") inner e)
      (readPatternsFrom index tables) := by
  induction tables generalizing index with
  | nil => exact failsWith_ok
  | cons inner tables ih =>
    refine failsWith_bind ?_ fun _ _ => failsWith_bind ?_ fun _ _ => failsWith_ok
    · refine failsWith_readPattern.imp ?_
      exact fun e he => ⟨0, inner, rfl, he⟩
    · refine ih.imp ?_
      rintro e ⟨i, other, hother, he⟩
      rw [Nat.add_assoc, Nat.add_comm 1] at he
      exact ⟨i + 1, other, hother, he⟩

theorem getElem?_of_mapM_eq_some {α β : Type} {f : α → Option β} {xs : List α} {ys : List β}
    (h : xs.mapM f = some ys) {i : Nat} {y : β} (hy : ys[i]? = some y) :
    ∃ x, xs[i]? = some x ∧ f x = some y := by
  induction xs generalizing ys i with
  | nil =>
    cases h
    cases hy
  | cons x xs ih =>
    simp only [List.mapM_cons, Option.bind_eq_bind, Option.bind_eq_some_iff, Option.pure_def,
      Option.some.injEq] at h
    obtain ⟨z, hz, zs, hzs, rfl⟩ := h
    cases i with
    | zero =>
      cases hy
      exact ⟨x, rfl, hz⟩
    | succ i => exact ih hzs hy

theorem failsWith_readPatterns :
    FailsWith (fun e => IsAt "patterns" e ∨ ∃ items, ∃ i : Nat, ∃ inner,
      given? "patterns" fields = some (.list items) ∧ items[i]? = some (Value.table inner) ∧
        IsAboutPattern ("patterns[" ++ toString i ++ "]") inner e) (readPatterns fields) := by
  rw [readPatterns]
  split
  · exact failsWith_ok
  · next items hgiven =>
    split
    · next tables htables =>
      refine failsWith_readPatternsFrom.imp ?_
      rintro e ⟨i, inner, hinner, he⟩
      rw [Nat.zero_add] at he
      obtain ⟨v, hv, htable⟩ := getElem?_of_mapM_eq_some htables hinner
      cases v with
      | table other =>
        obtain rfl := Option.some.inj htable
        exact .inr ⟨items, i, other, hgiven, hv, he⟩
      | null | bool | int | float | text | list | moment => cases htable
    · exact failsWith_error (.inl ⟨_, rfl⟩)
  · exact failsWith_error (.inl ⟨_, rfl⟩)

end Patterns

end Config
end PatchReview
