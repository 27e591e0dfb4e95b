import PatchReview.Score.Confidence

/-! The accuracy store as a tally. A history of verdicts says what the store has to tell of each
rule; recording a verdict extends the history by it, and clearing empties it. What a score takes
from a store is only what the store tells of each rule, so the order of the verdicts is lost. -/
namespace PatchReview

abbrev Verdict := String × Bool

namespace Tally

/-- The numbers of right and of wrong findings of a rule. -/
def ofVerdicts (verdicts : List Verdict) (ruleId : String) : Tally where
  correct := verdicts.count (ruleId, true)
  incorrect := verdicts.count (ruleId, false)

/-- The tally of a rule that got a verdict. -/
def ofVerdicts? (verdicts : List Verdict) (ruleId : String) : Option Tally :=
  if verdicts.any (·.1 == ruleId) then some (ofVerdicts verdicts ruleId) else none

theorem ofVerdicts_append (verdicts : List Verdict) (ruleId r : String) (correct : Bool) :
    ofVerdicts (verdicts ++ [(r, correct)]) ruleId =
      if r = ruleId then (ofVerdicts verdicts ruleId).add correct else ofVerdicts verdicts ruleId := by
  by_cases hr : r = ruleId
  · subst hr
    cases correct <;> simp [ofVerdicts, add]
  · cases correct <;> simp [ofVerdicts, hr]

/-- Without a verdict the numbers are zero. -/
theorem getD_ofVerdicts? (verdicts : List Verdict) (ruleId : String) :
    (ofVerdicts? verdicts ruleId).getD {} = ofVerdicts verdicts ruleId := by
  rw [ofVerdicts?]
  split
  · rfl
  · next h =>
    have hcount : ∀ b, verdicts.count (ruleId, b) = 0 := by
      intro b
      rw [List.count_eq_zero]
      intro hm
      exact h (List.any_eq_true.2 ⟨_, hm, beq_self_eq_true ruleId⟩)
    simp [ofVerdicts, hcount]

theorem ofVerdicts?_append (verdicts : List Verdict) (ruleId r : String) (correct : Bool) :
    ofVerdicts? (verdicts ++ [(r, correct)]) ruleId =
      if r = ruleId then some (((ofVerdicts? verdicts ruleId).getD {}).add correct)
      else ofVerdicts? verdicts ruleId := by
  rw [getD_ofVerdicts?, ofVerdicts?, ofVerdicts_append, ofVerdicts?]
  by_cases hr : r = ruleId <;> simp [hr]

/-- The order of verdicts does not show in their tally. -/
theorem ofVerdicts?_perm {verdicts verdicts' : List Verdict} (h : verdicts.Perm verdicts')
    (ruleId : String) : ofVerdicts? verdicts ruleId = ofVerdicts? verdicts' ruleId := by
  have hany : verdicts.any (·.1 == ruleId) = verdicts'.any (·.1 == ruleId) := by
    rw [Bool.eq_iff_iff, List.any_eq_true, List.any_eq_true]
    simp only [h.mem_iff]
  rw [ofVerdicts?, ofVerdicts?, hany, ofVerdicts, ofVerdicts, h.count_eq, h.count_eq]

/-- Numbers of verdicts are not negative. -/
structure IsCount (t : Tally) : Prop where
  correct : 0 ≤ t.correct
  incorrect : 0 ≤ t.incorrect

theorem isCount_ofVerdicts (verdicts : List Verdict) (ruleId : String) :
    (ofVerdicts verdicts ruleId).IsCount :=
  ⟨Int.natCast_nonneg _, Int.natCast_nonneg _⟩

end Tally

namespace AccuracyStore

theorem lookup_updateEntry (ruleId r : String) (f : Tally → Tally)
    (entries : List (String × Tally)) :
    (updateEntry r f entries).lookup ruleId =
      if r = ruleId then some (f ((entries.lookup ruleId).getD {})) else entries.lookup ruleId := by
  induction entries with
  | nil =>
      rw [updateEntry, List.lookup_cons, List.lookup_nil]
      by_cases hr : r = ruleId
      · simp [hr]
      · simp [hr, beq_eq_false_iff_ne.2 (Ne.symm hr)]
  | cons entry entries ih =>
      obtain ⟨k, t⟩ := entry
      rw [updateEntry, List.lookup_cons]
      by_cases hk : k = r
      · subst hk
        rw [if_pos rfl, List.lookup_cons]
        by_cases hr : k = ruleId
        · simp [hr]
        · simp [hr, beq_eq_false_iff_ne.2 (Ne.symm hr)]
      · rw [if_neg hk, List.lookup_cons, ih]
        by_cases hr : ruleId = k
        · simp [hr, Ne.symm hk]
        · rw [beq_eq_false_iff_ne.2 hr]

theorem get?_record (s : AccuracyStore) (ruleId r : String) (correct : Bool) :
    (s.record r correct).get? ruleId =
      if r = ruleId then some (((s.get? ruleId).getD {}).add correct) else s.get? ruleId :=
  lookup_updateEntry ruleId r (·.add correct) s.entries

/-- A rule keeps its only entry, and a new one comes behind the others. -/
theorem keys_updateEntry (r : String) (f : Tally → Tally) (entries : List (String × Tally)) :
    (updateEntry r f entries).map (·.1) =
      if r ∈ entries.map (·.1) then entries.map (·.1) else entries.map (·.1) ++ [r] := by
  induction entries with
  | nil => rfl
  | cons entry entries ih =>
      obtain ⟨k, t⟩ := entry
      rw [updateEntry]
      by_cases hk : k = r
      · simp [hk]
      · rw [if_neg hk, List.map_cons, List.map_cons, ih]
        by_cases hr : r ∈ entries.map (·.1)
        · rw [if_pos hr, if_pos (List.mem_cons_of_mem k hr)]
        · rw [if_neg hr, if_neg (by simpa [Ne.symm hk] using hr), List.cons_append]

/-- The store tells the numbers of verdicts on each rule, in one entry, and has none for a rule
without verdicts. -/
structure Tallies (s : AccuracyStore) (verdicts : List Verdict) : Prop where
  nodup : (s.entries.map (·.1)).Nodup
  get?_eq : ∀ ruleId, s.get? ruleId = Tally.ofVerdicts? verdicts ruleId

/-- The store holds numbers of verdicts, however it came about. -/
def HasCounts (s : AccuracyStore) : Prop := ∀ ruleId t, s.get? ruleId = some t → t.IsCount

theorem hasCounts_of_entries {s : AccuracyStore} (h : ∀ entry ∈ s.entries, entry.2.IsCount) :
    s.HasCounts := by
  intro ruleId t ht
  obtain ⟨before, after, hentries, -⟩ := List.lookup_eq_some_iff.1 ht
  exact h (ruleId, t) (hentries ▸ List.mem_append_right before List.mem_cons_self)

theorem Tallies.hasCounts {s : AccuracyStore} {verdicts : List Verdict} (h : s.Tallies verdicts) :
    s.HasCounts := by
  intro ruleId t ht
  have hvalue : (Tally.ofVerdicts? verdicts ruleId).getD {} = t := by
    rw [← h.get?_eq, ht, Option.getD_some]
  rw [Tally.getD_ofVerdicts?] at hvalue
  exact hvalue ▸ Tally.isCount_ofVerdicts verdicts ruleId

theorem tallies_clear (s : AccuracyStore) : s.clear.Tallies [] := ⟨List.nodup_nil, fun _ => rfl⟩

theorem Tallies.record {s : AccuracyStore} {verdicts : List Verdict} (h : s.Tallies verdicts)
    (r : String) (correct : Bool) : (s.record r correct).Tallies (verdicts ++ [(r, correct)]) := by
  constructor
  · rw [AccuracyStore.record, keys_updateEntry]
    split
    · exact h.nodup
    · next hr =>
      refine List.nodup_append.2 ⟨h.nodup, List.pairwise_singleton _ r, ?_⟩
      intro k hk r' hr'
      rw [List.mem_singleton.1 hr']
      exact ne_of_mem_of_not_mem hk hr
  · intro ruleId
    rw [get?_record, Tally.ofVerdicts?_append, h.get?_eq]

def ofVerdicts (verdicts : List Verdict) : AccuracyStore :=
  verdicts.foldl (fun s v => s.record v.1 v.2) {}

theorem tallies_ofVerdicts (verdicts : List Verdict) : (ofVerdicts verdicts).Tallies verdicts := by
  have hfold : ∀ (new old : List Verdict) (s : AccuracyStore), s.Tallies old →
      (new.foldl (fun s v => s.record v.1 v.2) s).Tallies (old ++ new) := by
    intro new
    induction new with
    | nil =>
        intro old s hs
        rwa [List.append_nil]
    | cons v new ih =>
        intro old s hs
        rw [List.append_cons]
        exact ih (old ++ [v]) (s.record v.1 v.2) (hs.record v.1 v.2)
  exact hfold verdicts [] {} (tallies_clear {})

/-- What two stores tell of each rule is the same. -/
def Agrees (s s' : AccuracyStore) : Prop := ∀ ruleId, s.get? ruleId = s'.get? ruleId

theorem Tallies.agrees {s s' : AccuracyStore} {verdicts verdicts' : List Verdict}
    (h : s.Tallies verdicts) (h' : s'.Tallies verdicts') (hperm : verdicts.Perm verdicts') :
    s.Agrees s' := by
  intro ruleId
  rw [h.get?_eq, h'.get?_eq, Tally.ofVerdicts?_perm hperm]

end AccuracyStore

namespace Confidence

theorem tally?_congr {s s' : AccuracyStore} (h : s.Agrees s') (ruleId : Option String) :
    tally? s ruleId = tally? s' ruleId := by
  have hget : s.get? = s'.get? := funext h
  rw [tally?, tally?, hget]

theorem score_congr {s s' : AccuracyStore} (h : s.Agrees s') (issue : Issue)
    (context : ScoreContext) : score s issue context = score s' issue context := by
  rw [score, score, historyPoints, historyPoints, tally?_congr h]

theorem floorQuotient_nonneg {num : Int} (h : 0 ≤ num) (den : Nat) : 0 ≤ floorQuotient num den := by
  rw [floorQuotient, decide_eq_false (Int.not_lt.2 h), Scaled.floor, if_neg Bool.false_ne_true]
  exact Int.natCast_nonneg _

theorem fixedPoints_nonneg (ruleId : String) : 0 ≤ fixedPoints ruleId := by
  rw [fixedPoints]
  split
  · decide
  · split <;> decide

theorem isCount_of_tally? {s : AccuracyStore} (h : s.HasCounts) {ruleId : Option String} {t : Tally}
    (ht : tally? s ruleId = some t) : t.IsCount ∧ 0 < t.total := by
  obtain ⟨r, -, hr⟩ := Option.bind_eq_some_iff.1 ht
  obtain ⟨hget, htotal⟩ := Option.filter_eq_some_iff.1 hr
  exact ⟨h r t hget, of_decide_eq_true htotal⟩

/-- Verdicts may take away the points for earlier findings, and no more than these. -/
theorem historyPoints_nonneg {s : AccuracyStore} (h : s.HasCounts) (ruleId : Option String) :
    0 ≤ historyPoints s ruleId := by
  rw [historyPoints]
  cases ht : tally? s ruleId with
  | none => exact fixedPoints_nonneg _
  | some t =>
      have hcorrect := (isCount_of_tally? h ht).1.correct
      exact floorQuotient_nonneg (by omega) _

end Confidence
end PatchReview
