import PatchReview.Proofs.Rule.Joined

/-! Sets of rules merged in groups. A merge has a bucket for every name that some set has, where the
name comes first, and in it the rules of that name, set by set. Nothing in this depends on which
sets are put together first, and no rule is lost. -/
namespace PatchReview
open RuleDocument

section Lists
variable {α κ : Type} [DecidableEq κ] {xs ys : List α}

theorem perm_of_filter_eq (key : α → κ) (h : ∀ k, xs.filter (key · = k) = ys.filter (key · = k)) :
    xs.Perm ys := by
  induction xs generalizing ys with
  | nil =>
    have hnone : ys = [] := by
      refine List.eq_nil_iff_forall_not_mem.2 ?_
      intro y hy
      have hmem : y ∈ ys.filter (key · = key y) := List.mem_filter.2 ⟨hy, decide_eq_true rfl⟩
      rw [← h] at hmem
      exact List.not_mem_nil hmem
    rw [hnone]
  | cons x xs ih =>
    have hx := h (key x)
    rw [List.filter_cons_of_pos (by simp)] at hx
    obtain ⟨before, behind, rfl, hbefore, -, hbehind⟩ := List.filter_eq_cons_iff.1 hx.symm
    refine (List.Perm.cons x (ih ?_)).trans List.perm_middle.symm
    intro k
    by_cases hk : key x = k
    · subst hk
      rw [List.filter_append, List.filter_eq_nil_iff.2 hbefore, hbehind, List.nil_append]
    · have hk' := h k
      rwa [List.filter_cons_of_neg (by simpa using hk), List.filter_append,
        List.filter_cons_of_neg (by simpa using hk), ← List.filter_append] at hk'

end Lists

namespace Buckets

/-- The rules of one name, each with a tag that tells the name. -/
theorem filter_map_entries {κ : Type} [DecidableEq κ] {tag : String → κ}
    (htag : ∀ {m n}, tag m = tag n → m = n) (name : String) (b : Buckets) :
    (b.entries.map fun e => (tag e.1, e.2)).filter (·.1 = tag name) =
      (b.rulesUnder (· == name)).map fun r => (tag name, r) := by
  induction b with
  | nil => rfl
  | cons bucket b ih =>
    obtain ⟨n, rules⟩ := bucket
    rw [entries_cons, List.map_append, List.filter_append, ih, rulesUnder_cons, List.map_append]
    congr 1
    by_cases hn : n = name
    · subst hn
      rw [if_pos (beq_self_eq_true n), List.map_map, List.filter_eq_self.2]
      · rfl
      · simp
    · have hne : tag n ≠ tag name := fun h => hn (htag h)
      simp [hn, hne]

end Buckets

/-- The name under which the rules of a place are listed. -/
def RuleDocument.Place.label : Place → String
  | .category name => name
  | .language name => "### " ++ name
  | .global => "global"

namespace RuleSet

/-! What a merge says -/

/-- The last tone that is given. -/
def lastTone (tones : List String) : String := (tones.filter (· ≠ "")).getLastD ""

theorem lastTone_append (tones more : List String) :
    lastTone (tones ++ more) = if lastTone more = "" then lastTone tones else lastTone more := by
  rw [lastTone, lastTone, List.filter_append]
  rcases List.eq_nil_or_concat (more.filter (· ≠ "")) with hmore | ⟨init, last, hmore⟩
  · rw [hmore, List.append_nil]
    rfl
  · rw [List.concat_eq_append] at hmore
    have hlast : last ∈ more.filter (· ≠ "") := by
      rw [hmore]
      exact List.mem_append_right init (List.mem_singleton_self last)
    have hne : last ≠ "" := of_decide_eq_true (List.mem_filter.1 hlast).2
    rw [hmore, ← List.append_assoc, List.getLastD_concat, List.getLastD_concat, if_neg hne]

theorem lastTone_singleton (tone : String) : lastTone [tone] = tone := by
  by_cases h : tone = "" <;> simp [lastTone, h]

/-- The sources in one text, if there are any. -/
def joinedSources : List String → Option String
  | [] => none
  | sources => some (Text.join ", " sources)

/-- An empty name of a source is none. -/
def source? (s : RuleSet) : Option String := s.source.filter (· != "")

theorem joinedSources_append (sources more : List String) :
    joinedSources ((joinedSources sources).toList ++ (joinedSources more).toList) =
      joinedSources (sources ++ more) := by
  cases sources with
  | nil => cases more <;> rfl
  | cons s sources =>
    cases more with
    | nil => rw [List.append_nil]; rfl
    | cons t more =>
      have hjoin := Text.join_append ", " (List.cons_ne_nil s sources) (List.cons_ne_nil t more)
      rw [List.cons_append] at hjoin ⊢
      simp only [joinedSources, hjoin]
      rfl

theorem filter_joinedSources {sources : List String} (h : ∀ s ∈ sources, s ≠ "") :
    (joinedSources sources).filter (· != "") = joinedSources sources := by
  cases sources with
  | nil => rfl
  | cons s sources =>
    have hne := mt (Text.join_eq_empty ", " h).1 (List.cons_ne_nil s sources)
    simp [joinedSources, hne]

theorem source_append (a b : RuleSet) :
    (a.append b).source = joinedSources (a.source?.toList ++ b.source?.toList) := by
  have hpair : [a.source, b.source].filterMap (fun s => s.filter (· != "")) =
      a.source?.toList ++ b.source?.toList := by
    rw [source?, source?, List.filterMap_cons, List.filterMap_cons]
    cases a.source.filter (· != "") <;> cases b.source.filter (· != "") <;> rfl
  rw [← hpair]
  rfl

/-- The names of all sources. -/
def sources (sets : List RuleSet) : List String := sets.filterMap source?

theorem ne_empty_of_mem_sources {sets : List RuleSet} : ∀ s ∈ sources sets, s ≠ "" := by
  intro s hs
  obtain ⟨set, -, hset⟩ := List.mem_filterMap.1 hs
  simpa using (Option.filter_eq_some_iff.1 hset).2

theorem joinedSources_toList (source : Option String) : joinedSources source.toList = source := by
  cases source <;> rfl

theorem tone_append (a b : RuleSet) :
    (a.append b).tone = if b.tone = "" then a.tone else b.tone := by
  simp only [append, String.isEmpty_iff]

/-- The buckets in one part of all sets, read at once. -/
def combined (part : RuleSet → Buckets) (sets : List RuleSet) : Buckets :=
  buckets (sets.flatMap fun s => (part s).map (·.1)) fun name =>
    sets.flatMap fun s => (part s).rulesUnder (· == name)

section Combined
variable (part : RuleSet → Buckets) (sets others : List RuleSet) {name : String}

theorem rules_eq_nil (h : name ∉ sets.flatMap fun s => (part s).map (·.1)) :
    (sets.flatMap fun s => (part s).rulesUnder (· == name)) = [] := by
  refine List.flatMap_eq_nil_iff.2 ?_
  intro s hs
  exact Buckets.rulesUnder_eq_nil fun hname => h (List.mem_flatMap.2 ⟨s, hs, hname⟩)

theorem combined_concat (s : RuleSet) :
    (combined part sets).append (part s) = combined part (sets ++ [s]) := by
  refine (buckets_append (fun _ => rules_eq_nil part sets) (part s)).trans ?_
  simp only [combined, List.flatMap_append, List.flatMap_singleton]

theorem combined_append :
    (combined part sets).append (combined part others) = combined part (sets ++ others) := by
  refine (append_buckets_of_new (fun _ => rules_eq_nil part sets)
    fun _ => rules_eq_nil part others).trans ?_
  simp only [combined, List.flatMap_append]

theorem rulesUnder_combined (name : String) : (combined part sets).rulesUnder (· == name) =
    sets.flatMap fun s => (part s).rulesUnder (· == name) :=
  rulesUnder_buckets (rules_eq_nil part sets)

end Combined

attribute [ext] RuleSet

/-- All sets read at once. -/
def union (sets : List RuleSet) : RuleSet where
  categories := combined categories sets
  languages := combined languages sets
  global := sets.flatMap global
  tone := lastTone (sets.map tone)
  source := joinedSources (sources sets)

section Union
variable (sets others : List RuleSet)

theorem source?_union : (union sets).source? = joinedSources (sources sets) :=
  filter_joinedSources ne_empty_of_mem_sources

/-- One set more adds to what the others say. -/
theorem append_union (s : RuleSet) : (union sets).append s = union (sets ++ [s]) := by
  apply RuleSet.ext
  · exact combined_concat categories sets s
  · exact combined_concat languages sets s
  · simp [append, union]
  · simp [tone_append, union, lastTone_append, lastTone_singleton]
  · have hsources : sources (sets ++ [s]) = sources sets ++ s.source?.toList := by
      rw [sources, List.filterMap_append]
      cases hs : s.source? <;> simp [sources, hs]
    have hs := joinedSources_append (sources sets) s.source?.toList
    rw [joinedSources_toList] at hs
    rw [source_append, source?_union, hs, ← hsources]
    rfl

theorem merge_eq_union : merge sets = union sets := by
  induction sets using List.reverseRecOn with
  | nil => rfl
  | append_singleton sets s ih => rw [merge, List.foldl_concat, ← append_union, ← ih, merge]

theorem union_append : (union sets).append (union others) = union (sets ++ others) := by
  apply RuleSet.ext
  · exact combined_append categories sets others
  · exact combined_append languages sets others
  · simp [append, union]
  · simp [tone_append, union, lastTone_append]
  · rw [source_append, source?_union, source?_union, joinedSources_append]
    simp [union, sources]

theorem merge_append : merge (sets ++ others) = (merge sets).append (merge others) := by
  rw [merge_eq_union, merge_eq_union, merge_eq_union, union_append]

theorem merge_merge : merge [merge sets] = merge sets := (merge_append [] sets).symm

theorem merge_groups (groups : List (List RuleSet)) :
    merge (groups.map merge) = merge groups.flatten := by
  induction groups with
  | nil => rfl
  | cons sets groups ih =>
    rw [List.map_cons, List.flatten_cons, ← List.singleton_append, merge_append, merge_merge, ih,
      ← merge_append]

theorem rulesFor_merge (language : String) :
    ((merge sets).rulesFor language).Perm (sets.flatMap (·.rulesFor language)) := by
  induction sets using List.reverseRecOn with
  | nil => exact .refl _
  | append_singleton sets s ih =>
    have hstep : ((merge (sets ++ [s])).rulesFor language).Perm
        ((merge sets).rulesFor language ++ s.rulesFor language) := by
      rw [merge, List.foldl_concat]
      exact Buckets.rulesUnder_append _ _ _
    rw [List.flatMap_append, List.flatMap_singleton]
    exact hstep.trans (ih.append_right _)

end Union

/-! Places of rules -/

/-- The entries of a set with their places. A label may stand for several places, as the heading of
a category can be any text. -/
def placed (s : RuleSet) : List (Place × Rule) :=
  (s.categories.entries.map fun e => (.category e.1, e.2)) ++
    (s.languages.entries.map fun e => (.language e.1, e.2)) ++ s.global.map fun r => (.global, r)

section Places
variable (place : Place) (s : RuleSet) (sets : List RuleSet)

theorem entries_eq_map_placed : s.entries = s.placed.map fun e => (e.1.label, e.2) := by
  simp [entries, placed, Place.label, Function.comp_def]

def rulesIn : Place → List Rule
  | .category name => s.categories.rulesUnder (· == name)
  | .language name => s.languages.rulesUnder (· == name)
  | .global => s.global

theorem filter_placed : s.placed.filter (·.1 = place) = (s.rulesIn place).map fun r => (place, r) := by
  rw [placed, List.filter_append, List.filter_append]
  cases place with
  | category name =>
    rw [Buckets.filter_map_entries Place.category.inj]
    simp [List.filter_map, Function.comp_def, rulesIn]
  | language name =>
    rw [Buckets.filter_map_entries Place.language.inj]
    simp [List.filter_map, Function.comp_def, rulesIn]
  | global => simp [List.filter_map, Function.comp_def, rulesIn]

theorem rulesIn_merge : (merge sets).rulesIn place = sets.flatMap (·.rulesIn place) := by
  rw [merge_eq_union]
  cases place with
  | category name => exact rulesUnder_combined categories sets name
  | language name => exact rulesUnder_combined languages sets name
  | global => rfl

theorem filter_placed_merge : (merge sets).placed.filter (·.1 = place) =
    sets.flatMap fun s => s.placed.filter (·.1 = place) := by
  simp only [filter_placed, rulesIn_merge, List.map_flatMap]

theorem placed_merge : (merge sets).placed.Perm (sets.flatMap placed) := by
  refine perm_of_filter_eq Prod.fst ?_
  intro place
  rw [filter_placed_merge, List.filter_flatMap]

end Places

/-- Sets may be merged in groups, in whatever groups they come, and a merge has the entries of all
sets. In each place the rules are in the order of the sets. -/
theorem merge_in_any_groups (sets others : List RuleSet) :
    merge [merge sets, merge others] = merge (sets ++ others) ∧
    (∀ groups : List (List RuleSet), merge (groups.map merge) = merge groups.flatten) ∧
    merge sets = union sets ∧
    (merge sets).entries.Perm (sets.flatMap entries) ∧
    (∀ s : RuleSet, s.entries = s.placed.map fun e => (e.1.label, e.2)) ∧
    (∀ place, (merge sets).placed.filter (·.1 = place) =
      sets.flatMap fun s => s.placed.filter (·.1 = place)) ∧
    ∀ language, ((merge sets).rulesFor language).Perm (sets.flatMap (·.rulesFor language)) := by
  have hpair : merge [merge sets, merge others] = merge (sets ++ others) := by
    simpa using merge_groups [sets, others]
  have hentries : (merge sets).entries.Perm (sets.flatMap entries) := by
    have hplaced := (placed_merge sets).map fun e => (e.1.label, e.2)
    rw [List.map_flatMap] at hplaced
    simpa only [← entries_eq_map_placed] using hplaced
  exact ⟨hpair, merge_groups, merge_eq_union sets, hentries, entries_eq_map_placed,
    (filter_placed_merge · sets), rulesFor_merge sets⟩

end RuleSet
end PatchReview
