import Mathlib.Data.List.TakeWhile
import PatchReview.Proofs.Text.Case

/-! Lower case of a part of a text. Of all characters only the capital sigma looks at its neighbours,
so a part is written as it is alone but for its sigmas. Those at its ends, where the part itself does
not tell their form, may be written in another form in some text, and then the part in lower case
does not occur in the text in lower case. -/
namespace PatchReview.Text

/-- `P` holds of what stands before and behind each capital sigma; what stands before it is given
from its end. -/
def AtSigmas (P : List Char → List Char → Prop) (s : List Char) : Prop :=
  ∀ p q, s = p ++ 'Σ' :: q → P p.reverse q

section AtSigmas
variable {P : List Char → List Char → Prop} {c : Char} {s t : List Char}

theorem AtSigmas.head (h : AtSigmas P (c :: s)) (hc : c = 'Σ') : P [] s :=
  h [] s (by rw [hc, List.nil_append])

theorem AtSigmas.left (h : AtSigmas P (s ++ t)) :
    AtSigmas (fun before behind => P before (behind ++ t)) s := by
  rintro p q rfl
  exact h p (q ++ t) (by simp)

theorem AtSigmas.right (h : AtSigmas P (s ++ t)) :
    AtSigmas (fun before behind => P (before ++ s.reverse) behind) t := by
  rintro p q rfl
  rw [← List.reverse_append]
  exact h (s ++ p) q (by simp)

theorem AtSigmas.tail (h : AtSigmas P (c :: s)) :
    AtSigmas (fun before behind => P (before ++ [c]) behind) s :=
  AtSigmas.right (s := [c]) h

theorem atSigmas_nil : AtSigmas P [] := by
  intro p q h
  cases p <;> cases h

theorem atSigmas_cons : AtSigmas P (c :: s) ↔
    (c = 'Σ' → P [] s) ∧ AtSigmas (fun before behind => P (before ++ [c]) behind) s := by
  constructor
  · exact fun h => ⟨h.head, h.tail⟩
  · rintro ⟨hhead, htail⟩ p q hs
    cases p with
    | nil =>
      obtain ⟨hc, rfl⟩ := List.cons.inj hs
      exact hhead hc
    | cons d p =>
      obtain ⟨rfl, rfl⟩ := List.cons.inj hs
      rw [List.reverse_cons]
      exact htail p q rfl

instance AtSigmas.decidable : (s : List Char) → (P : List Char → List Char → Prop) →
    [∀ before behind, Decidable (P before behind)] → Decidable (AtSigmas P s)
  | [], _, _ => isTrue atSigmas_nil
  | c :: s, P, _ =>
    have := AtSigmas.decidable s fun before behind => P (before ++ [c]) behind
    decidable_of_iff _ atSigmas_cons.symm

theorem atSigmas_of_not_mem (h : 'Σ' ∉ s) : AtSigmas P s := by
  rintro p q rfl
  exact absurd (List.mem_append_right p List.mem_cons_self) h

end AtSigmas

section Between

/-- The lower case of a text that stands between `before`, which is given from its end, and
`behind`. -/
def lowerBetween (before behind : List Char) : List Char → List Char
  | [] => []
  | c :: rest =>
    if c = 'Σ' then lowerSigma before (rest ++ behind) :: lowerBetween (c :: before) behind rest
    else if c = 'İ' then 'i' :: '\u0307' :: lowerBetween (c :: before) behind rest
    else lowerChar c :: lowerBetween (c :: before) behind rest

variable {before behind before' behind' : List Char} {form : Char}

theorem lowerAfter_eq_lowerBetween (before s : List Char) :
    lowerAfter before s = lowerBetween before [] s := by
  induction s generalizing before with
  | nil => rfl
  | cons c s ih => rw [lowerAfter, lowerBetween, ih, List.append_nil]

theorem lower_eq_lowerBetween (s : List Char) : lower s = lowerBetween [] [] s :=
  lowerAfter_eq_lowerBetween [] s

theorem lowerBetween_append (before behind s t : List Char) :
    lowerBetween before behind (s ++ t) =
      lowerBetween before (t ++ behind) s ++ lowerBetween (s.reverse ++ before) behind t := by
  induction s generalizing before with
  | nil => rfl
  | cons c s ih =>
    have hbefore : (c :: s).reverse ++ before = s.reverse ++ c :: before := by simp
    rw [List.cons_append, lowerBetween, lowerBetween, ih, hbefore, List.append_assoc]
    split
    · rfl
    · split <;> rfl

theorem lower_append (s t : List Char) :
    lower (s ++ t) = lowerBetween [] t s ++ lowerBetween s.reverse [] t := by
  rw [lower_eq_lowerBetween, lowerBetween_append, List.append_nil, List.append_nil]

theorem infix_lower_append (u s v : List Char) :
    lowerBetween u.reverse v s <:+: lower (u ++ s ++ v) := by
  refine ⟨lowerBetween [] (s ++ v) u, lowerBetween (s.reverse ++ u.reverse) [] v, ?_⟩
  rw [List.append_assoc u s v, lower_append, lowerBetween_append, List.append_nil,
    List.append_assoc]

/-- A text is written alike between two pairs of neighbours if its sigmas are. -/
theorem lowerBetween_congr {s : List Char}
    (h : AtSigmas (fun p q =>
      lowerSigma (p ++ before) (q ++ behind) = lowerSigma (p ++ before') (q ++ behind')) s) :
    lowerBetween before behind s = lowerBetween before' behind' s := by
  induction s generalizing before before' with
  | nil => rfl
  | cons c s ih =>
    have htail : lowerBetween (c :: before) behind s = lowerBetween (c :: before') behind' s := by
      refine ih ?_
      simpa only [List.append_assoc, List.singleton_append] using h.tail
    rw [lowerBetween, lowerBetween, htail]
    split
    · next hc =>
      have hhead : lowerSigma before (s ++ behind) = lowerSigma before' (s ++ behind') := h.head hc
      rw [hhead]
    · rfl

/-- A form of the sigma is as frequent if each sigma that had it has it still. -/
theorem count_lowerBetween_le {s : List Char}
    (h : AtSigmas (fun p q => lowerSigma (p ++ before) (q ++ behind) = form →
      lowerSigma (p ++ before') (q ++ behind') = form) s) :
    (lowerBetween before behind s).count form ≤ (lowerBetween before' behind' s).count form := by
  induction s generalizing before before' with
  | nil => exact Nat.le_refl _
  | cons c s ih =>
    have htail : (lowerBetween (c :: before) behind s).count form ≤
        (lowerBetween (c :: before') behind' s).count form := by
      refine ih ?_
      simpa only [List.append_assoc, List.singleton_append] using h.tail
    rw [lowerBetween, lowerBetween]
    split
    · next hc =>
      have hhead : lowerSigma before (s ++ behind) = form →
          lowerSigma before' (s ++ behind') = form := h.head hc
      rw [List.count_cons, List.count_cons]
      simp only [beq_iff_eq]
      split
      · next hform =>
        rw [if_pos (hhead hform)]
        exact Nat.succ_le_succ htail
      · exact Nat.le_add_right_of_le htail
    · split
      · rw [List.count_cons, List.count_cons, List.count_cons, List.count_cons]
        exact Nat.add_le_add_right (Nat.add_le_add_right htail _) _
      · rw [List.count_cons, List.count_cons]
        exact Nat.add_le_add_right htail _

/-- It is more frequent if one sigma has it that had not. -/
theorem count_lowerBetween_lt {p q : List Char}
    (h : AtSigmas (fun p q => lowerSigma (p ++ before) (q ++ behind) = form →
      lowerSigma (p ++ before') (q ++ behind') = form) (p ++ 'Σ' :: q))
    (hnot : lowerSigma (p.reverse ++ before) (q ++ behind) ≠ form)
    (hform : lowerSigma (p.reverse ++ before') (q ++ behind') = form) :
    (lowerBetween before behind (p ++ 'Σ' :: q)).count form <
      (lowerBetween before' behind' (p ++ 'Σ' :: q)).count form := by
  have hleft : (lowerBetween before ('Σ' :: q ++ behind) p).count form ≤
      (lowerBetween before' ('Σ' :: q ++ behind') p).count form := by
    refine count_lowerBetween_le ?_
    simpa only [List.append_assoc] using h.left
  have hright : (lowerBetween ('Σ' :: (p.reverse ++ before)) behind q).count form ≤
      (lowerBetween ('Σ' :: (p.reverse ++ before')) behind' q).count form := by
    refine count_lowerBetween_le ?_
    simpa only [List.append_assoc, List.cons_append, List.nil_append] using h.right.tail
  rw [lowerBetween_append, lowerBetween_append, List.count_append, List.count_append, lowerBetween,
    lowerBetween, if_pos rfl, if_pos rfl, hform, List.count_cons_self, List.count_cons_of_ne hnot]
  omega

end Between

section Neighbours
variable {s t before behind u v : List Char}

theorem meetsCased_append_of_ignorable (h : ∀ c ∈ s, isCaseIgnorable c = true) :
    meetsCased (s ++ t) = meetsCased t := by
  rw [meetsCased, List.dropWhile_append_of_pos h, meetsCased]

theorem meetsCased_of_ignorable (h : ∀ c ∈ s, isCaseIgnorable c = true) : meetsCased s = false := by
  have hs := meetsCased_append_of_ignorable (t := []) h
  rwa [List.append_nil] at hs

/-- Beyond a character that is not ignored nothing matters. -/
theorem meetsCased_append (h : ¬ ∀ c ∈ s, isCaseIgnorable c = true) :
    meetsCased (s ++ t) = meetsCased s := by
  cases hdrop : s.dropWhile isCaseIgnorable with
  | nil => exact absurd (List.dropWhile_eq_nil_iff.1 hdrop) h
  | cons c rest =>
    rw [meetsCased, List.dropWhile_append, hdrop, meetsCased, hdrop]
    rfl

theorem meetsCased_append_of_meetsCased (h : meetsCased s = true) (t : List Char) :
    meetsCased (s ++ t) = true := by
  rw [meetsCased_append, h]
  intro hs
  rw [meetsCased_of_ignorable hs] at h
  cases h

theorem lowerSigma_eq_final_iff :
    lowerSigma before behind = 'ς' ↔ meetsCased before = true ∧ meetsCased behind = false := by
  rw [lowerSigma, ← Bool.not_eq_true' (meetsCased behind), ← Bool.and_eq_true]
  split
  · next h => exact iff_of_true rfl h
  · next h => exact iff_of_false (by decide) h

theorem lowerSigma_eq_inner_iff :
    lowerSigma before behind = 'σ' ↔ lowerSigma before behind ≠ 'ς' := by
  rw [lowerSigma]
  split <;> decide

/-- What stands around a sigma does not tell its form if more may be written at both ends: the sigma
is the last letter of a word that may go on, or the first one and no letter follows it. -/
inductive IsOpenSigma (before behind : List Char) : Prop
  | last : meetsCased before = true → (∀ c ∈ behind, isCaseIgnorable c = true) →
      IsOpenSigma before behind
  | first : (∀ c ∈ before, isCaseIgnorable c = true) → meetsCased behind = false →
      IsOpenSigma before behind

theorem isOpenSigma_iff : IsOpenSigma before behind ↔
    meetsCased before = true ∧ behind.all isCaseIgnorable = true ∨
      before.all isCaseIgnorable = true ∧ meetsCased behind = false := by
  rw [List.all_eq_true, List.all_eq_true]
  constructor
  · rintro (⟨hcased, hbehind⟩ | ⟨hbefore, hnone⟩)
    · exact .inl ⟨hcased, hbehind⟩
    · exact .inr ⟨hbefore, hnone⟩
  · rintro (⟨hcased, hbehind⟩ | ⟨hbefore, hnone⟩)
    · exact .last hcased hbehind
    · exact .first hbefore hnone

instance IsOpenSigma.decidable (before behind : List Char) : Decidable (IsOpenSigma before behind) :=
  decidable_of_iff _ isOpenSigma_iff.symm

theorem lowerSigma_append_of_not_isOpenSigma (h : ¬ IsOpenSigma before behind) (u v : List Char) :
    lowerSigma (before ++ u) (behind ++ v) = lowerSigma before behind := by
  by_cases hbefore : ∀ c ∈ before, isCaseIgnorable c = true
  · -- A letter follows, so that the form is the inner one whatever stands in front.
    have hcased : meetsCased behind = true := by
      rw [← Bool.not_eq_false]
      exact fun hbehind => h (.first hbefore hbehind)
    rw [lowerSigma, lowerSigma, meetsCased_append_of_meetsCased hcased, hcased, Bool.not_true,
      Bool.and_false, Bool.and_false]
  · by_cases hbehind : ∀ c ∈ behind, isCaseIgnorable c = true
    · -- No letter is in front, so that the form is the inner one whatever follows.
      have hnone : meetsCased before = false := by
        rw [← Bool.not_eq_true]
        exact fun hcased => h (.last hcased hbehind)
      rw [lowerSigma, lowerSigma, meetsCased_append hbefore, hnone, Bool.false_and, Bool.false_and]
    · rw [lowerSigma, lowerSigma, meetsCased_append hbefore, meetsCased_append hbehind]

end Neighbours

section Parts
variable {k u v : List Char}

/-- The sigmas of `k` have the same form in the text as if `k` stood alone. -/
def KeepsForms (u k v : List Char) : Prop :=
  AtSigmas (fun before behind =>
    lowerSigma (before ++ u.reverse) (behind ++ v) = lowerSigma before behind) k

instance KeepsForms.decidable (u k v : List Char) : Decidable (KeepsForms u k v) :=
  inferInstanceAs (Decidable (AtSigmas _ k))

theorem lower_infix_of_keepsForms (h : KeepsForms u k v) : lower k <:+: lower (u ++ k ++ v) := by
  have hsame : lowerBetween u.reverse v k = lower k := by
    rw [lower_eq_lowerBetween]
    refine lowerBetween_congr ?_
    simp only [List.append_nil]
    exact h
  rw [← hsame]
  exact infix_lower_append u k v

/-- No sigma of the text is open. -/
def HasClosedSigmas (k : List Char) : Prop :=
  AtSigmas (fun before behind => ¬ IsOpenSigma before behind) k

instance HasClosedSigmas.decidable (k : List Char) : Decidable (HasClosedSigmas k) :=
  inferInstanceAs (Decidable (AtSigmas _ k))

theorem HasClosedSigmas.keepsForms (h : HasClosedSigmas k) (u v : List Char) : KeepsForms u k v := by
  intro p q hk
  exact lowerSigma_append_of_not_isOpenSigma (h p q hk) u.reverse v

/-- A last letter is the last one no longer if a letter follows it. -/
theorem count_lower_append_letter {p q : List Char} (hcased : meetsCased p.reverse = true)
    (hignorable : ∀ c ∈ q, isCaseIgnorable c = true) :
    (lower (p ++ 'Σ' :: q ++ ['a'])).count 'ς' < (lower (p ++ 'Σ' :: q)).count 'ς' := by
  have hletter (before : List Char) : (lowerBetween before [] ['a']).count 'ς' = 0 := rfl
  rw [lower_append, List.count_append, hletter, Nat.add_zero, lower_eq_lowerBetween]
  refine count_lowerBetween_lt ?_ ?_ ?_
  · intro p' q' _
    simp only [lowerSigma_eq_final_iff, List.append_nil]
    rintro ⟨hbefore, hbehind⟩
    refine ⟨hbefore, ?_⟩
    rw [← Bool.not_eq_true] at hbehind ⊢
    exact fun hmeets => hbehind (meetsCased_append_of_meetsCased hmeets _)
  · rw [ne_eq, lowerSigma_eq_final_iff, meetsCased_append_of_ignorable hignorable]
    exact fun hfinal => absurd hfinal.2 (by decide +kernel)
  · rw [lowerSigma_eq_final_iff, List.append_nil, List.append_nil]
    exact ⟨hcased, meetsCased_of_ignorable hignorable⟩

/-- A first letter that no letter follows becomes the last one behind another letter. -/
theorem count_lower_letter_append {p q : List Char}
    (hignorable : ∀ c ∈ p.reverse, isCaseIgnorable c = true) (hnone : meetsCased q = false) :
    (lower (['a'] ++ (p ++ 'Σ' :: q))).count 'σ' < (lower (p ++ 'Σ' :: q)).count 'σ' := by
  have hletter (behind : List Char) : (lowerBetween [] behind ['a']).count 'σ' = 0 := rfl
  rw [lower_append, List.count_append, hletter, Nat.zero_add, lower_eq_lowerBetween]
  refine count_lowerBetween_lt ?_ ?_ ?_
  · intro p' q' _
    simp only [lowerSigma_eq_inner_iff, ne_eq, lowerSigma_eq_final_iff, List.append_nil]
    rintro hnot ⟨hbefore, hbehind⟩
    exact hnot ⟨meetsCased_append_of_meetsCased hbefore _, hbehind⟩
  · rw [ne_eq, lowerSigma_eq_inner_iff, Decidable.not_not, lowerSigma_eq_final_iff,
      meetsCased_append_of_ignorable hignorable, List.append_nil]
    exact ⟨by decide +kernel, hnone⟩
  · rw [lowerSigma_eq_inner_iff, ne_eq, lowerSigma_eq_final_iff, List.append_nil,
      meetsCased_of_ignorable hignorable]
    exact fun hfinal => Bool.false_ne_true hfinal.1

theorem not_infix_of_count_lt {s t : List Char} {c : Char} (h : t.count c < s.count c) :
    ¬ s <:+: t :=
  fun hoccurs => Nat.not_le_of_lt h (hoccurs.sublist.count_le c)

/-- In some text an open sigma has another form, and its own is too rare there for the part to
occur. -/
theorem exists_not_infix_lower {p q : List Char} (h : IsOpenSigma p.reverse q) :
    ∃ u v, ¬ lower (p ++ 'Σ' :: q) <:+: lower (u ++ (p ++ 'Σ' :: q) ++ v) := by
  cases h with
  | last hcased hignorable =>
    exact ⟨[], ['a'], not_infix_of_count_lt (count_lower_append_letter hcased hignorable)⟩
  | first hignorable hnone =>
    refine ⟨['a'], [], ?_⟩
    rw [List.append_nil]
    exact not_infix_of_count_lt (count_lower_letter_append hignorable hnone)

/-- A part in lower case occurs in every text that has the part, in lower case, if and only if none
of its sigmas is open. -/
theorem forall_lower_infix_iff : (∀ u v, lower k <:+: lower (u ++ k ++ v)) ↔ HasClosedSigmas k := by
  constructor
  · rintro hall p q rfl hopen
    obtain ⟨u, v, hnot⟩ := exists_not_infix_lower hopen
    exact hnot (hall u v)
  · exact fun hclosed u v => lower_infix_of_keepsForms (hclosed.keepsForms u v)

/-- A word in small letters is still there in lower case. -/
theorem infix_lower {word s : List Char} (h : ∀ c ∈ word, IsSmall c) (hword : word <:+: s) :
    word <:+: lower s := by
  obtain ⟨u, v, rfl⟩ := hword
  have hsigma : 'Σ' ∉ word := fun hmem => (h _ hmem).ne_sigma rfl
  have hoccurs : lower word <:+: lower (u ++ word ++ v) :=
    lower_infix_of_keepsForms (atSigmas_of_not_mem hsigma)
  rwa [lower, lowerAfter_eq_self h] at hoccurs

end Parts
end PatchReview.Text
