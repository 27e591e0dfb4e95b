import Mathlib.Data.List.Perm.Basic
import PatchReview.Rule.Set

/-! The rules in the buckets of certain names. To add rules to a bucket, or to put buckets together,
changes the order of the rules and nothing else. -/
namespace PatchReview

namespace Buckets
variable (keep : String → Bool)

def rulesUnder (b : Buckets) : List Rule := (b.filter fun bucket => keep bucket.1).flatMap (·.2)

theorem rulesUnder_cons (name : String) (rules : List Rule) (b : Buckets) :
    rulesUnder keep ((name, rules) :: b) =
      (if keep name then rules else []) ++ rulesUnder keep b := by
  rw [rulesUnder, List.filter_cons]
  split
  · exact List.flatMap_cons
  · exact (List.nil_append _).symm

theorem rulesUnder_concat (b b' : Buckets) :
    rulesUnder keep (b ++ b') = rulesUnder keep b ++ rulesUnder keep b' := by
  rw [rulesUnder, List.filter_append, List.flatMap_append]
  rfl

theorem rulesUnder_eq_nil {name : String} {b : Buckets} (h : name ∉ b.map (·.1)) :
    b.rulesUnder (· == name) = [] := by
  have hnone : b.filter (fun bucket => bucket.1 == name) = [] := by
    rw [List.filter_eq_nil_iff]
    intro bucket hbucket hname
    exact h (List.mem_map.2 ⟨bucket, hbucket, beq_iff_eq.1 hname⟩)
  rw [rulesUnder, hnone, List.flatMap_nil]

theorem rulesUnder_extend (name : String) (more : List Rule) (b : Buckets) :
    (rulesUnder keep (b.extend name more)).Perm
      (rulesUnder keep b ++ if keep name then more else []) := by
  induction b with
  | nil =>
    rw [extend, rulesUnder_cons]
    exact List.perm_append_comm
  | cons bucket b ih =>
    obtain ⟨n, rules⟩ := bucket
    rw [extend, rulesUnder_cons, List.append_assoc]
    by_cases hname : n = name
    · rw [if_pos hname, rulesUnder_cons, hname]
      cases keep name with
      | false => exact List.perm_append_comm
      | true =>
        rw [if_pos rfl, if_pos rfl, if_pos rfl, List.append_assoc]
        exact List.perm_append_comm.append_left rules
    · rw [if_neg hname, rulesUnder_cons]
      exact ih.append_left _

theorem rulesUnder_append (a b : Buckets) :
    (rulesUnder keep (a.append b)).Perm (rulesUnder keep a ++ rulesUnder keep b) := by
  induction b generalizing a with
  | nil =>
    change (rulesUnder keep a).Perm (rulesUnder keep a ++ [])
    rw [List.append_nil]
  | cons bucket b ih =>
    obtain ⟨name, rules⟩ := bucket
    rw [rulesUnder_cons, ← List.append_assoc]
    exact (ih (a.extend name rules)).trans ((rulesUnder_extend keep name rules a).append_right _)

theorem entries_cons (name : String) (rules : List Rule) (b : Buckets) :
    entries ((name, rules) :: b) = (rules.map fun r => (name, r)) ++ entries b :=
  List.flatMap_cons

theorem map_snd_entries (b : Buckets) : b.entries.map (·.2) = b.rulesUnder fun _ => true := by
  induction b with
  | nil => rfl
  | cons bucket b ih =>
    obtain ⟨name, rules⟩ := bucket
    have hrules : (rules.map fun r => (name, r)).map (·.2) = rules := by
      rw [List.map_map]
      exact List.map_id rules
    rw [rulesUnder_cons, ← ih, entries_cons, List.map_append, hrules]
    rfl

/-- What is made of the rules one by one is made of the entries under their names. -/
theorem flatMap_rulesUnder {α : Type} (f : Rule → List α) (b : Buckets) :
    (b.rulesUnder keep).flatMap f =
      b.entries.flatMap fun e => if keep e.1 = true then f e.2 else [] := by
  induction b with
  | nil => rfl
  | cons bucket b ih =>
    obtain ⟨name, rules⟩ := bucket
    have hbucket : (rules.map fun r => (name, r)).flatMap
        (fun e => if keep e.1 = true then f e.2 else []) =
          (if keep name = true then rules else []).flatMap f := by
      rw [List.flatMap_map]
      by_cases hname : keep name = true
      · simp only [if_pos hname]
      · simp only [if_neg hname, List.flatMap_nil]
        exact List.flatMap_eq_nil_iff.2 fun _ _ => rfl
    rw [rulesUnder_cons, List.flatMap_append, ih, entries_cons, List.flatMap_append, hbucket]

end Buckets

end PatchReview
