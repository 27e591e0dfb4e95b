import PatchReview.Text.Lines

/-! Texts made of lines. A text in which a line feed stands behind every line is cut into exactly
these lines, as long as none of them holds an end of line itself. A line feed between two texts
keeps their lines apart. -/
namespace PatchReview.Text

/-- Characters are looked at one after the other, and not all that there are. -/
theorem forall_mem_of_all {s : List Char} {P : Char → Prop} [DecidablePred P]
    (h : (s.all fun c => decide (P c)) = true) : ∀ c ∈ s, P c :=
  fun c hc => of_decide_eq_true (List.all_eq_true.1 h c hc)

/-- A text without an end of line in it. -/
def IsLine (s : String) : Prop := ∀ c ∈ s.toList, isLineEnd c = false

instance (s : String) : Decidable (IsLine s) := List.decidableBAll (isLineEnd · = false) s.toList

/-- The text of some lines, each with a line feed behind it. -/
def unlines (ls : List String) : String := String.join (ls.map (· ++ "\n"))

theorem isLine_empty : IsLine "" := by decide

@[simp] theorem isLine_append {s t : String} : IsLine (s ++ t) ↔ IsLine s ∧ IsLine t := by
  simp only [IsLine, String.toList_append, List.mem_append, or_imp, forall_and]

theorem isLine_toString (n : Nat) : IsLine (toString n) := by
  intro c hc
  rw [Nat.toString_eq_repr, Nat.toList_repr] at hc
  obtain ⟨hl, hu⟩ := Char.isDigit_iff_toNat.1
    (Nat.isDigit_of_mem_toDigits (by decide) (by decide) hc)
  have hout : ∀ d : Char, isLineEnd d = true → d.toNat < '0'.toNat ∨ '9'.toNat < d.toNat := by
    simp only [isLineEnd, List.contains_iff_mem, List.forall_mem_cons]
    simp
  rw [Bool.eq_false_iff]
  intro hend
  rcases hout c hend with h | h <;> omega

theorem lines_lineFeed (s : List Char) : lines ('\n' :: s) = [] :: lines s := by
  rw [lines.eq_3]
  · rw [if_pos (by decide)]
  · intro rest h
    exact absurd h (by decide)

theorem lines_cons {c : Char} (hc : isLineEnd c = false) (s : List Char) :
    lines (c :: s) = prependToLine c (lines s) := by
  rw [lines.eq_3]
  · rw [if_neg (by simp [hc])]
  · rintro rest rfl
    exact absurd hc (by decide)

theorem lines_append_lineFeed {l : List Char} (hl : ∀ c ∈ l, isLineEnd c = false) (s : List Char) :
    lines (l ++ '\n' :: s) = l :: lines s := by
  induction l with
  | nil => exact lines_lineFeed s
  | cons c l ih =>
      rw [List.cons_append, lines_cons (hl c List.mem_cons_self),
        ih fun d hd => hl d (List.mem_cons_of_mem c hd)]
      rfl

theorem lines_append_returnFeed {l : List Char} (hl : ∀ c ∈ l, isLineEnd c = false)
    (s : List Char) : lines (l ++ '\r' :: '\n' :: s) = l :: lines s := by
  induction l with
  | nil => rfl
  | cons c l ih =>
    obtain ⟨hc, hl⟩ := List.forall_mem_cons.1 hl
    rw [List.cons_append, lines_cons hc, ih hl]
    rfl

/-- No line holds an end of line. -/
theorem isLineEnd_of_mem_lines {s l : List Char} (hl : l ∈ lines s) :
    ∀ c ∈ l, isLineEnd c = false := by
  fun_induction lines s generalizing l with
  | case1 => cases hl
  | case2 rest ih =>
    rcases List.mem_cons.1 hl with rfl | hl
    · exact fun _ => nofun
    · exact ih hl
  | case3 c rest _ _ ih =>
    rcases List.mem_cons.1 hl with rfl | hl
    · exact fun _ => nofun
    · exact ih hl
  | case4 c rest _ hend ih =>
    have hc : isLineEnd c = false := by simpa using hend
    cases hrest : lines rest with
    | nil =>
      rw [hrest] at hl
      obtain rfl := List.mem_singleton.1 hl
      exact List.forall_mem_singleton.2 hc
    | cons k ks =>
      rw [hrest] at hl ih
      rcases List.mem_cons.1 hl with rfl | hl
      · exact List.forall_mem_cons.2 ⟨hc, ih List.mem_cons_self⟩
      · exact ih (List.mem_cons_of_mem k hl)

theorem prependToLine_append {ls : List (List Char)} (h : ls ≠ []) (c : Char)
    (more : List (List Char)) : prependToLine c (ls ++ more) = prependToLine c ls ++ more := by
  cases ls with
  | nil => exact absurd rfl h
  | cons l ls => rfl

/-- A line feed behind a text ends its last line, which is empty if the text has ended its last line
itself. What follows is not read together with it. -/
theorem exists_lines_append_lineFeed (s : List Char) :
    ∃ ls, ls ≠ [] ∧ (ls = lines s ∨ ls = lines s ++ [[]]) ∧
      ∀ t, lines (s ++ '\n' :: t) = ls ++ lines t := by
  fun_induction lines s with
  | case1 => exact ⟨[[]], List.cons_ne_nil _ _, .inr rfl, lines_lineFeed⟩
  | case2 rest ih =>
    obtain ⟨ls, -, hls, h⟩ := ih
    refine ⟨[] :: ls, List.cons_ne_nil _ _, ?_, fun t => congrArg ([] :: ·) (h t)⟩
    rcases hls with rfl | rfl
    · exact .inl rfl
    · exact .inr rfl
  | case3 c rest hpair hend ih =>
    -- A carriage return at the end of the text makes one end of line with the line feed.
    by_cases hlast : c = '\r' ∧ rest = []
    · obtain ⟨rfl, rfl⟩ := hlast
      exact ⟨[[]], List.cons_ne_nil _ _, .inl rfl, fun t => rfl⟩
    · obtain ⟨ls, -, hls, h⟩ := ih
      refine ⟨[] :: ls, List.cons_ne_nil _ _, ?_, ?_⟩
      · rcases hls with rfl | rfl
        · exact .inl rfl
        · exact .inr rfl
      · intro t
        rw [List.cons_append, lines.eq_3, if_pos hend, h, List.cons_append]
        intro behind hc hbehind
        cases rest with
        | nil => exact hlast ⟨hc, rfl⟩
        | cons d rest =>
          rw [List.cons_append, List.cons.injEq] at hbehind
          exact hpair rest hc (by rw [hbehind.1])
  | case4 c rest _ hend ih =>
    obtain ⟨ls, hne, hls, h⟩ := ih
    have hc : isLineEnd c = false := by simpa using hend
    refine ⟨prependToLine c ls, ?_, ?_, ?_⟩
    · cases ls <;> exact List.cons_ne_nil _ _
    · rcases hls with rfl | rfl
      · exact .inl rfl
      · cases lines rest with
        | nil => exact .inl rfl
        | cons l more => exact .inr rfl
    · intro t
      rw [List.cons_append, lines_cons hc, h, prependToLine_append hne]

/-- A text that is empty or ends with a line feed keeps its lines to itself. -/
theorem lines_append {s : List Char} (h : s = [] ∨ ['\n'] <:+ s) (t : List Char) :
    lines (s ++ t) = lines s ++ lines t := by
  rcases h with rfl | ⟨s, rfl⟩
  · rfl
  · obtain ⟨ls, -, -, hlines⟩ := exists_lines_append_lineFeed s
    have hended : lines (s ++ ['\n']) = ls := (hlines []).trans (List.append_nil ls)
    rw [hended, List.append_assoc, List.singleton_append, hlines]

/-- What a text starts with is in its first line, if it is in one line. -/
theorem exists_lines_eq_cons {p : List Char} (hne : p ≠ []) (hp : ∀ c ∈ p, isLineEnd c = false)
    (t : List Char) : ∃ l ls, lines (p ++ t) = l :: ls ∧ p <+: l := by
  induction p with
  | nil => exact absurd rfl hne
  | cons c p ih =>
    obtain ⟨hc, hp⟩ := List.forall_mem_cons.1 hp
    rw [List.cons_append, lines_cons hc]
    cases p with
    | nil =>
      rw [List.nil_append]
      cases lines t with
      | nil => exact ⟨[c], [], rfl, List.prefix_refl _⟩
      | cons l ls => exact ⟨c :: l, ls, rfl, List.prefix_append [c] l⟩
    | cons d p =>
      obtain ⟨l, ls, hlines, hl⟩ := ih (List.cons_ne_nil d p) hp
      rw [hlines]
      exact ⟨c :: l, ls, rfl, (List.prefix_cons_inj c).2 hl⟩

theorem unlines_nil : unlines [] = "" := rfl

theorem unlines_cons (l : String) (ls : List String) :
    unlines (l :: ls) = l ++ "\n" ++ unlines ls := by
  rw [unlines, List.map_cons, String.join_cons]
  rfl

theorem toList_unlines_cons (l : String) (ls : List String) :
    (unlines (l :: ls)).toList = l.toList ++ '\n' :: (unlines ls).toList := by
  simp [unlines, String.toList_join]

/-- Only the lines themselves need to be free of ends of lines; what they say does not matter. -/
theorem lines_unlines_append {ls : List String} (h : ∀ l ∈ ls, IsLine l) (s : String) :
    lines (unlines ls ++ s).toList = ls.map String.toList ++ lines s.toList := by
  rw [String.toList_append]
  induction ls with
  | nil => rfl
  | cons l ls ih =>
    obtain ⟨hl, hls⟩ := List.forall_mem_cons.1 h
    rw [toList_unlines_cons, List.append_assoc, List.cons_append, lines_append_lineFeed hl, ih hls]
    rfl

theorem lines_unlines {ls : List String} (h : ∀ l ∈ ls, IsLine l) :
    lines (unlines ls).toList = ls.map String.toList := by
  have happend := lines_unlines_append h ""
  rwa [String.append_empty, String.toList_empty, lines.eq_1, List.append_nil] at happend

theorem lines_of_isLine {l : List Char} (hl : ∀ c ∈ l, isLineEnd c = false) (hne : l ≠ []) :
    lines l = [l] := by
  induction l with
  | nil => exact absurd rfl hne
  | cons c l ih =>
    obtain ⟨hc, hl⟩ := List.forall_mem_cons.1 hl
    rw [lines_cons hc]
    cases l with
    | nil => rfl
    | cons d l =>
      rw [ih hl (List.cons_ne_nil d l)]
      rfl

/-- The text has these lines, and behind each of them a line feed stands, or a carriage return and
a line feed. -/
inductive Ended : List String → String → Prop
  | nil : Ended [] ""
  | feed (l : String) {ls : List String} {t : String} (h : Ended ls t) :
    Ended (l :: ls) (l ++ "\n" ++ t)
  | returnFeed (l : String) {ls : List String} {t : String} (h : Ended ls t) :
    Ended (l :: ls) (l ++ "\r\n" ++ t)

theorem ended_unlines (ls : List String) : Ended ls (unlines ls) := by
  induction ls with
  | nil => exact .nil
  | cons l ls ih =>
    rw [unlines_cons]
    exact .feed l ih

/-- The two ends of lines make no difference. -/
theorem lines_of_ended {ls : List String} {t : String} (ht : Ended ls t) (h : ∀ l ∈ ls, IsLine l) :
    lines t.toList = ls.map String.toList := by
  induction ht with
  | nil => rfl
  | feed l ht ih =>
    obtain ⟨hl, hls⟩ := List.forall_mem_cons.1 h
    rw [String.toList_append, String.toList_append, List.append_assoc, List.map_cons, ← ih hls]
    exact lines_append_lineFeed hl _
  | returnFeed l ht ih =>
    obtain ⟨hl, hls⟩ := List.forall_mem_cons.1 h
    rw [String.toList_append, String.toList_append, List.append_assoc, List.map_cons, ← ih hls]
    exact lines_append_returnFeed hl _

/-! Pieces between separators -/

section Pieces
variable {sep : Char}

theorem splitAt_ne_nil (s : List Char) : splitAt sep s ≠ [] := by
  cases s with
  | nil => exact List.cons_ne_nil _ _
  | cons c s =>
    rw [splitAt]
    split
    · exact List.cons_ne_nil _ _
    · split <;> exact List.cons_ne_nil _ _

theorem splitAt_cons_of_ne {c : Char} (hc : c ≠ sep) (s : List Char) :
    ∃ piece pieces, splitAt sep s = piece :: pieces ∧
      splitAt sep (c :: s) = (c :: piece) :: pieces := by
  have hne : splitAt sep s ≠ [] := splitAt_ne_nil s
  obtain ⟨piece, pieces, hs⟩ := List.exists_cons_of_ne_nil hne
  refine ⟨piece, pieces, hs, ?_⟩
  rw [splitAt, if_neg hc, hs]

/-- A text without a separator goes in front of the first piece. -/
theorem splitAt_append_of_not_mem {s : List Char} (hs : sep ∉ s) (t : List Char) :
    ∃ piece pieces, splitAt sep t = piece :: pieces ∧
      splitAt sep (s ++ t) = (s ++ piece) :: pieces := by
  induction s with
  | nil =>
    have hne : splitAt sep t ≠ [] := splitAt_ne_nil t
    obtain ⟨piece, pieces, ht⟩ := List.exists_cons_of_ne_nil hne
    exact ⟨piece, pieces, ht, ht⟩
  | cons c s ih =>
    rw [List.mem_cons, not_or] at hs
    obtain ⟨piece, pieces, ht, hst⟩ := ih hs.2
    obtain ⟨piece', pieces', hst', hcst⟩ := splitAt_cons_of_ne (Ne.symm hs.1) (s ++ t)
    rw [hst, List.cons.injEq] at hst'
    rw [List.cons_append, hcst, ← hst'.1, ← hst'.2]
    exact ⟨piece, pieces, ht, rfl⟩

/-- A separator ends the last piece of what stands before it. -/
theorem splitAt_append_sep (s t : List Char) :
    splitAt sep (s ++ sep :: t) = splitAt sep s ++ splitAt sep t := by
  induction s with
  | nil => simp [splitAt]
  | cons c s ih =>
    by_cases hc : c = sep
    · simp [splitAt, hc, ih]
    · obtain ⟨piece, pieces, hs, hcs⟩ := splitAt_cons_of_ne hc s
      rw [List.cons_append, splitAt, if_neg hc, ih, hs, hcs]
      rfl

/-- The first piece is what the text starts with. -/
theorem isPrefix_of_splitAt_eq_cons {s piece : List Char} {pieces : List (List Char)}
    (h : splitAt sep s = piece :: pieces) : piece <+: s := by
  induction s generalizing piece pieces with
  | nil =>
    obtain ⟨rfl, -⟩ := List.cons.inj h
    exact List.prefix_refl _
  | cons c s ih =>
    by_cases hc : c = sep
    · rw [splitAt, if_pos hc] at h
      obtain ⟨rfl, -⟩ := List.cons.inj h
      exact List.nil_prefix
    · obtain ⟨piece', pieces', hs, hcs⟩ := splitAt_cons_of_ne hc s
      obtain ⟨rfl, -⟩ := List.cons.inj (hcs.symm.trans h)
      exact (List.prefix_cons_inj c).2 (ih hs)

theorem splitAt_of_not_mem {s : List Char} (h : sep ∉ s) : splitAt sep s = [s] := by
  induction s with
  | nil => rfl
  | cons c s ih =>
    rw [List.mem_cons, not_or] at h
    rw [splitAt, if_neg (Ne.symm h.1), ih h.2]

theorem splitAt_unlines_append {ls : List String} (h : ∀ l ∈ ls, '\n' ∉ l.toList) (s : String) :
    splitAt '\n' (unlines ls ++ s).toList = ls.map String.toList ++ splitAt '\n' s.toList := by
  rw [String.toList_append]
  induction ls with
  | nil => rfl
  | cons l ls ih =>
    obtain ⟨hl, hls⟩ := List.forall_mem_cons.1 h
    rw [toList_unlines_cons, List.append_assoc, List.cons_append, splitAt_append_sep,
      splitAt_of_not_mem hl, ih hls]
    rfl

end Pieces

/-! Texts whose last line may lack its line feed -/

section Documents
variable {ls : List String}

theorem unlines_append (ls ms : List String) : unlines (ls ++ ms) = unlines ls ++ unlines ms := by
  rw [unlines, List.map_append, String.join_append]
  rfl

/-- The text of some lines with a line feed between neighbours, and perhaps one at its end. -/
def document (ls : List String) (isEnded : Bool) : String :=
  join "\n" ls ++ if isEnded then "\n" else ""

theorem join_concat (ls : List String) (l : String) :
    join "\n" (ls ++ [l]) = unlines ls ++ l := by
  induction ls with
  | nil =>
    rw [List.nil_append, join]
    exact (String.empty_append).symm
  | cons k ls ih =>
    have hjoin : join "\n" (k :: (ls ++ [l])) = k ++ "\n" ++ join "\n" (ls ++ [l]) := by
      cases ls <;> rfl
    rw [List.cons_append, hjoin, ih, unlines_cons, ← String.append_assoc]

theorem document_concat (ls : List String) (l : String) (isEnded : Bool) :
    document (ls ++ [l]) isEnded = unlines ls ++ (l ++ if isEnded then "\n" else "") := by
  rw [document, join_concat, String.append_assoc]

/-- A line feed at the end makes no difference to lines that are not empty. -/
theorem lines_document (hls : ls ≠ []) (h : ∀ l ∈ ls, IsLine l) (hempty : "" ∉ ls)
    (isEnded : Bool) : lines (document ls isEnded).toList = ls.map String.toList := by
  obtain ⟨front, last, rfl⟩ : ∃ front last, ls = front ++ [last] :=
    ⟨_, _, (List.dropLast_concat_getLast hls).symm⟩
  obtain ⟨hfront, hlast⟩ := List.forall_mem_append.1 h
  have hline := hlast last List.mem_cons_self
  rw [document_concat, lines_unlines_append hfront, List.map_append]
  refine congrArg (front.map String.toList ++ ·) ?_
  cases isEnded with
  | true =>
    rw [if_pos rfl, String.toList_append]
    exact lines_append_lineFeed hline []
  | false =>
    rw [if_neg Bool.false_ne_true, String.append_empty]
    refine lines_of_isLine hline ?_
    intro hnil
    obtain rfl := String.toList_eq_nil_iff.1 hnil
    exact hempty (List.mem_append_right front List.mem_cons_self)

/-- Between line feeds, a line feed at the end leaves one more piece, which is empty. -/
theorem splitAt_document (hls : ls ≠ []) (h : ∀ l ∈ ls, '\n' ∉ l.toList) (isEnded : Bool) :
    splitAt '\n' (document ls isEnded).toList =
      ls.map String.toList ++ if isEnded then [[]] else [] := by
  obtain ⟨front, last, rfl⟩ : ∃ front last, ls = front ++ [last] :=
    ⟨_, _, (List.dropLast_concat_getLast hls).symm⟩
  obtain ⟨hfront, hlast⟩ := List.forall_mem_append.1 h
  have hline := hlast last List.mem_cons_self
  rw [document_concat, splitAt_unlines_append hfront, List.map_append, List.append_assoc]
  refine congrArg (front.map String.toList ++ ·) ?_
  cases isEnded with
  | true =>
    rw [if_pos rfl, String.toList_append]
    refine (splitAt_append_sep last.toList []).trans ?_
    rw [splitAt_of_not_mem hline]
    rfl
  | false =>
    rw [if_neg Bool.false_ne_true, String.append_empty, splitAt_of_not_mem hline]
    rfl

end Documents
end PatchReview.Text
