import Mathlib.Data.List.Forall2
import PatchReview.Host.Basic
import PatchReview.Proofs.Except

/-! Steps on a machine. What steps one after the other give is taken apart into what each of them
gives; the errors with which they may stop are those of each of them. -/
namespace PatchReview

namespace Task
variable {ε α β : Type}

/-- The steps, started with the log `t`, come to an end with a value and the log `t'`. -/
def Ends (task : Task ε Id α) (t : Transcript) (a : α) (t' : Transcript) : Prop :=
  task.run.run t = (.ok a, t')

variable {task : Task ε Id α} {next : α → Task ε Id β} {t t' : Transcript} {a a' : α} {b : β}

/-- Steps end in one way only. -/
theorem Ends.unique {t₁ t₂ : Transcript} (h : task.Ends t a t₁) (h' : task.Ends t a' t₂) :
    a = a' ∧ t₁ = t₂ := by
  have hpair : (Except.ok a, t₁) = (Except.ok (ε := ε) a', t₂) := h.symm.trans h'
  cases hpair
  exact ⟨rfl, rfl⟩

theorem ends_pure : (pure a : Task ε Id α).Ends t a' t' ↔ a = a' ∧ t = t' := by
  constructor
  · intro h
    cases h
    exact ⟨rfl, rfl⟩
  · rintro ⟨rfl, rfl⟩
    rfl

theorem not_ends_throw (e : ε) : ¬ (throw e : Task ε Id α).Ends t a t' := by
  intro h
  cases h

theorem ends_liftM {x : Except ε α} :
    (liftM x : Task ε Id α).Ends t a t' ↔ x = .ok a ∧ t = t' := by
  cases x with
  | error e => exact iff_of_false (not_ends_throw e) (by simp)
  | ok b =>
    rw [Except.ok.injEq]
    exact ends_pure

theorem ends_ask {step : Id α} : (ask step : Task ε Id α).Ends t a t' ↔ step = a ∧ t = t' :=
  ends_pure

theorem ends_bind : (task >>= next).Ends t b t' ↔
    ∃ a t₁, task.Ends t a t₁ ∧ (next a).Ends t₁ b t' := by
  simp only [Ends, ExceptT.run_bind, StateT.run_bind]
  rcases hrun : task.run.run t with ⟨e | a, t₁⟩
  · refine iff_of_false ?_ ?_
    · intro h
      cases h
    · rintro ⟨a, t₁, h, -⟩
      cases h
  · constructor
    · intro h
      exact ⟨a, t₁, rfl, h⟩
    · rintro ⟨a', t₂, h, hnext⟩
      cases h
      exact hnext

/-- Behind steps that come to an end the next ones are carried out. -/
theorem run_bind_of_ends (h : task.Ends t a t') :
    (task >>= next).run.run t = (next a).run.run t' := by
  rw [Ends] at h
  simp only [ExceptT.run_bind, StateT.run_bind, h]
  rfl

/-- What comes behind steps matters only for the values that they give. -/
theorem bind_congr {next' : α → Task ε Id β} (h : ∀ t a t', task.Ends t a t' → next a = next' a) :
    task >>= next = task >>= next' := by
  apply ExceptT.ext
  funext t
  change (task >>= next).run.run t = (task >>= next').run.run t
  simp only [ExceptT.run_bind, StateT.run_bind]
  rcases htask : task.run.run t with ⟨e | a, t₁⟩
  · rfl
  · exact congrArg (fun step => step.run.run t₁) (h t a t₁ htask)

/-- Steps behind a check are reached if the check holds. -/
theorem ends_check {p : Prop} [Decidable p] {e : ε} {next : PUnit → Task ε Id β} :
    (if p then throw e >>= next else next ⟨⟩).Ends t b t' ↔ ¬ p ∧ (next ⟨⟩).Ends t b t' := by
  by_cases hp : p
  · rw [if_pos hp]
    refine iff_of_false ?_ fun h => h.1 hp
    intro h
    cases h
  · rw [if_neg hp]
    exact (and_iff_right hp).symm

theorem ends_mapM {f : α → Task ε Id β} {xs : List α} {ys : List β}
    (h : (xs.mapM f).Ends t ys t') :
    List.Forall₂ (fun x y => ∃ t₁ t₂, (f x).Ends t₁ y t₂) xs ys := by
  induction xs generalizing ys t t' with
  | nil =>
    rw [List.mapM_nil, ends_pure] at h
    rw [← h.1]
    exact .nil
  | cons x xs ih =>
    rw [List.mapM_cons, ends_bind] at h
    obtain ⟨y, t₁, hy, h⟩ := h
    obtain ⟨ys', t₂, hys, h⟩ := ends_bind.1 h
    rw [← (ends_pure.1 h).1]
    exact .cons ⟨t, t₁, hy⟩ (ih hys)

variable {δ : Type} {P : ε → Prop}

end Task
end PatchReview
