import PatchReview.Proofs.Report.Layout

/-! Reports without colours. Where colours are taken away the rest of a report stays as it is, if it
has no control characters of its own. -/
namespace PatchReview

namespace TextStyle
variable {s t plain plain' : String}

/-- The text is a plain one with colours in it, which are taken away whatever follows. -/
def Fades (s plain : String) : Prop :=
  '\x1b' ∉ plain.toList → ∀ rest, strip (s.toList ++ rest) = plain.toList ++ strip rest

theorem Fades.append (h : Fades s plain) (h' : Fades t plain') :
    Fades (s ++ t) (plain ++ plain') := by
  intro hplain rest
  rw [String.toList_append, List.mem_append, not_or] at hplain
  rw [String.toList_append, String.toList_append, List.append_assoc, h hplain.1, h' hplain.2,
    List.append_assoc]

theorem strip_cons {c : Char} (h : c ≠ '\x1b') (rest : List Char) :
    strip (c :: rest) = c :: strip rest := by
  have hnone : afterSequence? (c :: rest) = none := by
    rw [afterSequence?]
    rintro rest' ⟨⟩
    exact h rfl
  rw [strip]
  split
  · next hsome => rw [hnone] at hsome; cases hsome
  · rfl

theorem fades_self (s : String) : Fades s s := by
  intro hplain rest
  generalize s.toList = cs at hplain ⊢
  induction cs with
  | nil => rfl
  | cons c cs ih =>
    rw [List.mem_cons, not_or] at hplain
    rw [List.cons_append, strip_cons (Ne.symm hplain.1), ih hplain.2, List.cons_append]

theorem strip_sequence {code : List Char} (hcode : code.all isParameter = true)
    (rest : List Char) :
    strip ('\x1b' :: '[' :: (code ++ 'm' :: rest)) = strip rest := by
  have hletter : (code ++ 'm' :: rest).dropWhile isParameter = 'm' :: rest := by
    rw [List.dropWhile_append_of_pos (List.all_eq_true.1 hcode),
      List.dropWhile_cons_of_neg (by decide)]
  have hafter : afterSequence? ('\x1b' :: '[' :: (code ++ 'm' :: rest)) = some rest := by
    rw [afterSequence?, hletter]
    rfl
  rw [strip]
  split
  · next hsome =>
    rw [hafter] at hsome
    rw [Option.some.inj hsome]
  · next hnone => rw [hafter] at hnone; cases hnone

/-- A control sequence leaves nothing behind. -/
theorem fades_sequence (code : String) (hcode : code.toList.all isParameter = true) :
    Fades ("\x1b[" ++ code ++ "m") "" := by
  intro _ rest
  rw [String.toList_append, String.toList_append, List.append_assoc, List.append_assoc]
  exact strip_sequence hcode rest

theorem fades_join {α : Type} {f g : α → String} (h : ∀ x, Fades (f x) (g x)) (xs : List α) :
    Fades (String.join (xs.map f)) (String.join (xs.map g)) := by
  induction xs with
  | nil => exact fades_self ""
  | cons x xs ih =>
    rw [List.map_cons, List.map_cons, String.join_cons, String.join_cons]
    exact (h x).append ih

end TextStyle

namespace Report
open TextStyle

theorem fades_paint {colours : String} (h : Fades colours "") (s : String) :
    Fades (paint true colours s) (paint false colours s) := by
  have hoff : Fades "\x1b[0m" "" := fades_sequence "0" (by decide)
  have hboth := (h.append (fades_self s)).append hoff
  rwa [String.empty_append, String.append_empty] at hboth

theorem fades_kindMark (c : Category) : Fades (kindMark true c) (kindMark false c) := by
  have hbold : Fades "\x1b[1m" "" := fades_sequence "1" (by decide)
  cases c with
  | bug => exact fades_paint ((fades_sequence "31" (by decide)).append hbold) _
  | refactor => exact fades_paint ((fades_sequence "33" (by decide)).append hbold) _
  | suggestion => exact fades_paint ((fades_sequence "34" (by decide)).append hbold) _

theorem fades_listed (x : Finding) : Fades (listed true x) (listed false x) :=
  ((fades_self "\n").append (fades_kindMark x.category)).append (fades_self (told x))

theorem fades_numbers (s : FindingStats) : Fades (numbers true s) (numbers false s) :=
  fades_paint (fades_sequence "1" (by decide)) _

theorem fades_partialNotice (isPartial : Bool) :
    Fades (partialNotice true isPartial) (partialNotice false isPartial) := by
  cases isPartial with
  | false => exact fades_self ""
  | true =>
    exact (fades_self "\n").append (fades_paint (fades_sequence "33" (by decide)) _)

end Report
end PatchReview
