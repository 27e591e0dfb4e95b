import PatchReview.Intent.File
import PatchReview.Language
import PatchReview.Proofs.Text.Letters
import PatchReview.Proofs.Text.Sigma

/-! The spelling of paths. What type a file has and in what language it is written are told from the
plain spelling of its path, in lower case and with slashes for backslashes. The words that tell
experiments are looked for in the path as it is spelled. -/
namespace PatchReview

namespace Text

theorem replace_eq_self {old new : Char} {s : List Char} (h : old ∉ s) : replace old new s = s := by
  refine (List.map_congr_left ?_).trans (List.map_id s)
  intro c hc
  exact if_neg fun heq : c = old => h (heq ▸ hc)

theorem not_mem_replace {old new : Char} (hne : old ≠ new) (s : List Char) :
    old ∉ replace old new s := by
  intro h
  obtain ⟨c, -, hc⟩ := List.mem_map.1 h
  split at hc
  · exact hne hc.symm
  · next hold => exact hold hc

theorem replace_append (old new : Char) (s t : List Char) :
    replace old new (s ++ t) = replace old new s ++ replace old new t :=
  List.map_append

theorem plainLower_plainSigma (c : Char) : plainLower (plainSigma c) = plainLower c := by
  by_cases hc : c = 'ς'
  · rw [hc]
    decide +kernel
  · rw [plainSigma, if_neg hc]

theorem flatMap_plainLower_map_plainSigma (s : List Char) :
    (s.map plainSigma).flatMap plainLower = s.flatMap plainLower := by
  rw [List.flatMap_map]
  exact congrArg s.flatMap (funext plainLower_plainSigma)

/-- Letter by letter, too, lower case is settled once. -/
theorem flatMap_plainLower_flatMap (s : List Char) :
    (s.flatMap plainLower).flatMap plainLower = s.flatMap plainLower := by
  rw [← map_plainSigma_lower s, flatMap_plainLower_map_plainSigma, ← map_plainSigma_lower (lower s),
    lower_lower]

theorem map_plainSigma_replace (s : List Char) :
    (replace '\\' '/' s).map plainSigma = replace '\\' '/' (s.map plainSigma) := by
  rw [replace, replace, List.map_map, List.map_map]
  refine List.map_congr_left ?_
  intro c _
  by_cases hc : c = '\\'
  · rw [hc]
    rfl
  · have hplain : plainSigma c ≠ '\\' := plainSigma_ne_mark (by decide) hc
    rw [Function.comp_apply, Function.comp_apply, if_neg hc, if_neg hplain]

theorem replace_flatMap_plainLower (s : List Char) :
    replace '\\' '/' (s.flatMap plainLower) = (replace '\\' '/' s).flatMap plainLower := by
  rw [replace, List.map_flatMap, replace, List.flatMap_map]
  refine congrArg s.flatMap (funext ?_)
  intro c
  by_cases hc : c = '\\'
  · rw [hc]
    rfl
  · rw [if_neg hc]
    exact replace_eq_self ((keeps_plainLower (by decide)).not_mem hc)

end Text

namespace FileIntent
open Text

/-- The path in its plain spelling. -/
def normalized (path : String) : String := String.ofList (normalizedPath path)

theorem toList_normalized (path : String) : (normalized path).toList = normalizedPath path :=
  String.toList_ofList

theorem not_mem_normalizedPath (path : String) : '\\' ∉ normalizedPath path :=
  not_mem_replace (by decide) _

theorem isSmall_of_mem_normalizedPath {path : String} {c : Char} (h : c ∈ normalizedPath path) :
    IsSmall c := by
  obtain ⟨d, hd, rfl⟩ := List.mem_map.1 h
  split
  · exact ⟨by decide, by decide, by decide +kernel⟩
  · exact isSmall_of_mem_lowerAfter hd

/-- The plain spelling is its own plain spelling. -/
theorem normalizedPath_normalized (path : String) :
    normalizedPath (normalized path) = normalizedPath path := by
  have hlower : lower (normalizedPath path) = normalizedPath path :=
    lowerAfter_eq_self fun _ h => isSmall_of_mem_normalizedPath h
  rw [normalizedPath, toList_normalized, hlower, replace_eq_self (not_mem_normalizedPath path)]

theorem typeOf_normalized (path : String) : typeOf (normalized path) = typeOf path := by
  unfold typeOf
  rw [normalizedPath_normalized]

/-! Each part of the role of a file on its own -/

theorem type_classify (path content : String) : (classify path content).type = typeOf path := by
  rw [classify]

theorem profile_classify (path content : String) :
    (classify path content).profile = (typeOf path).profile := by
  rw [classify]

theorem purpose_classify (path content : String) :
    (classify path content).purpose = purposeOf path content := by
  rw [classify]

theorem map_plainSigma_normalizedPath (path : String) :
    (normalizedPath path).map plainSigma =
      (replace '\\' '/' path.toList).flatMap plainLower := by
  rw [normalizedPath, map_plainSigma_replace, map_plainSigma_lower, replace_flatMap_plainLower]

end FileIntent

namespace Language
open Text

/-- No ending with a language of its own is written with a small sigma. -/
theorem lookup_ofEnding_congr {k k' : List Char} (h : k.map plainSigma = k'.map plainSigma) :
    ofEnding.lookup (String.ofList k) = ofEnding.lookup (String.ofList k') := by
  have hendings : ∀ e ∈ ofEnding, ∀ c ∈ e.1.toList, c ≠ 'σ' ∧ c ≠ 'ς' := by
    intro e he
    refine forall_mem_of_all ?_
    revert e
    decide
  generalize ofEnding = endings at hendings
  induction endings with
  | nil => rfl
  | cons e endings ih =>
    obtain ⟨he, hendings⟩ := List.forall_mem_cons.1 hendings
    have hkey : ∀ l : List Char, String.ofList l = e.1 ↔ l.map plainSigma = e.1.toList := by
      intro l
      rw [eq_iff_of_map_plainSigma he, ← String.toList_inj, String.toList_ofList]
    have hsame : (String.ofList k == e.1) = (String.ofList k' == e.1) := by
      rw [Bool.eq_iff_iff, beq_iff_eq, beq_iff_eq, hkey, hkey, h]
    rw [List.lookup_cons, List.lookup_cons, hsame, ih hendings]

/-- The language is told from the ending of the plain spelling. -/
theorem ofPath_normalized (path : String) : ofPath (FileIntent.normalized path) = ofPath path := by
  have hdot : Keeps plainLower '.' := keeps_plainLower (by decide)
  have hdot' : Keeps (fun c => [plainSigma c]) '.' := keeps_plainSigma (by decide)
  let spelled := (Path.ofString (String.ofList (replace '\\' '/' path.toList))).ending
  let plain := (Path.ofString (String.ofList (FileIntent.normalizedPath path))).ending
  have hending : plain.map plainSigma = spelled.flatMap plainLower := by
    rw [List.map_eq_flatMap, ← Path.ending_flatMap (keeps_plainSigma (by decide)) hdot',
      ← List.map_eq_flatMap, FileIntent.map_plainSigma_normalizedPath,
      Path.ending_flatMap (keeps_plainLower (by decide)) hdot]
  have hlower : (lower plain).map plainSigma = (lower spelled).map plainSigma := by
    rw [map_plainSigma_lower, ← flatMap_plainLower_map_plainSigma, hending,
      flatMap_plainLower_flatMap, map_plainSigma_lower]
  have hmark : (fun c => c == '.') ∘ plainSigma = fun c => c == '.' := by
    funext c
    rw [Function.comp_apply, Bool.eq_iff_iff, beq_iff_eq, beq_iff_eq]
    constructor
    · intro h
      by_contra hc
      exact plainSigma_ne_mark (by decide) hc h
    · rintro rfl
      rfl
  have hrest : ((lower plain).dropWhile (· == '.')).map plainSigma =
      ((lower spelled).dropWhile (· == '.')).map plainSigma := by
    have hdrop : ∀ l : List Char, (l.dropWhile (· == '.')).map plainSigma =
        (l.map plainSigma).dropWhile (· == '.') := by
      intro l
      rw [List.dropWhile_map, hmark]
    rw [hdrop, hdrop, hlower]
  rw [ofPath, FileIntent.toList_normalized,
    replace_eq_self (FileIntent.not_mem_normalizedPath path), ofPath]
  exact congrArg (·.getD unknown) (lookup_ofEnding_congr hrest)

end Language

namespace FileIntent
open Text

/-- The path speaks of `word` in its plain spelling only. -/
structure Hides (path word : String) : Prop where
  plain : word.toList <:+: normalizedPath path
  spelled : ¬ word.toList <:+: path.toList

theorem infix_normalizedPath {path word : String} (h : ∀ c ∈ word.toList, IsSmall c ∧ c ≠ '\\')
    (hword : word.toList <:+: path.toList) : word.toList <:+: normalizedPath path := by
  obtain ⟨u, v, hlower⟩ := infix_lower (fun c hc => (h c hc).1) hword
  have hsame : replace '\\' '/' word.toList = word.toList :=
    replace_eq_self fun hc => (h _ hc).2 rfl
  rw [normalizedPath, ← hlower, replace_append, replace_append, hsame]
  exact ⟨_, _, rfl⟩

/-- A path that speaks of a word in small letters does so in its plain spelling, too. -/
theorem occurs_normalized_eq_iff (path : String) {word : String}
    (h : ∀ c ∈ word.toList, IsSmall c ∧ c ≠ '\\') :
    occurs word.toList (normalized path).toList = occurs word.toList path.toList ↔
      ¬ Hides path word := by
  rw [Bool.eq_iff_iff, occurs_iff, occurs_iff, toList_normalized]
  constructor
  · intro hiff hhides
    exact hhides.spelled (hiff.1 hhides.plain)
  · intro hnot
    refine ⟨fun hplain => ?_, infix_normalizedPath h⟩
    by_contra hspelled
    exact hnot ⟨hplain, hspelled⟩

/-- A text that does not say what it is, so that the path may tell an experiment. -/
structure LeavesPurpose (content : String) : Prop where
  ne_empty : content ≠ ""
  debug : occursAny ["// DEBUG", "// TEMPORARY", "# DEBUG", "# TEMPORARY"] content.toList = false
  experimental : occursAny ["// EXPERIMENTAL", "# EXPERIMENTAL"] content.toList = false

theorem isSmall_of_lower (word : String)
    (h : ∀ c ∈ word.toList, c ≠ 'Σ' ∧ c ≠ 'İ' ∧ lowerChar c = c ∧ c ≠ '\\') :
    ∀ c ∈ word.toList, IsSmall c ∧ c ≠ '\\' := by
  intro c hc
  obtain ⟨hsigma, hdotted, hlower, hslash⟩ := h c hc
  exact ⟨⟨hsigma, hdotted, hlower⟩, hslash⟩

theorem purposeOf_of_leavesPurpose {content : String} (h : LeavesPurpose content) (path : String) :
    purposeOf path content =
      if occurs "experiment".toList path.toList then some .experimental else none := by
  have hsome : content.toList.isEmpty = false :=
    List.isEmpty_eq_false_iff.2 (mt String.toList_eq_nil_iff.1 h.ne_empty)
  simp only [purposeOf, hsome, h.debug, h.experimental, Bool.false_or, Bool.false_eq_true, if_false]

/-- A text that says what it is says so under every path. -/
theorem purposeOf_congr {content : String} (h : ¬ LeavesPurpose content) (path path' : String) :
    purposeOf path content = purposeOf path' content := by
  unfold purposeOf
  dsimp only
  split
  · rfl
  · next hsome =>
    split
    · rfl
    · next hdebug =>
      by_cases hexperimental :
          occursAny ["// EXPERIMENTAL", "# EXPERIMENTAL"] content.toList = true
      · rw [hexperimental, Bool.true_or, Bool.true_or]
      · refine absurd ⟨?_, Bool.not_eq_true _ ▸ hdebug, Bool.not_eq_true _ ▸ hexperimental⟩ h
        rintro rfl
        exact hsome rfl

theorem purposeOf_normalized_iff (path content : String) :
    purposeOf (normalized path) content = purposeOf path content ↔
      ¬ (LeavesPurpose content ∧ Hides path "experiment") := by
  have hoccurs := occurs_normalized_eq_iff path
    (isSmall_of_lower "experiment" (forall_mem_of_all (by decide +kernel)))
  by_cases hcontent : LeavesPurpose content
  · rw [purposeOf_of_leavesPurpose hcontent, purposeOf_of_leavesPurpose hcontent, and_iff_right hcontent,
      ← hoccurs]
    cases occurs "experiment".toList (normalized path).toList <;>
      cases occurs "experiment".toList path.toList <;> decide
  · exact iff_of_true (purposeOf_congr hcontent _ _) fun h => hcontent h.1

end FileIntent
end PatchReview
