import PatchReview.Proofs.Patch.Written
import PatchReview.Proofs.Text.Parts

/-! What the head of a hunk and the lines of the paths tell the reader: exactly the numbers and the
paths that were written. -/
namespace PatchReview

namespace Text

theorem digitValue?_of_isDigit {c : Char} (hc : c.isDigit = true) :
    digitValue? c = some (c.toNat - '0'.toNat) := by
  obtain ⟨hl, hu⟩ := Char.isDigit_iff_toNat.1 hc
  have hzero : (fun z => decide (z ≤ c.toNat) && decide (c.toNat < z + 10)) 0x30 = true :=
    Bool.and_eq_true_iff.2 ⟨decide_eq_true hl, decide_eq_true (Nat.lt_succ_of_le hu)⟩
  exact congrArg (Option.map (c.toNat - ·)) (List.find?_cons_of_pos hzero)

theorem isDigit_of_isDigit {c : Char} (hc : c.isDigit = true) : isDigit c = true := by
  rw [isDigit, digitValue?_of_isDigit hc]
  rfl

theorem dropWhile_isBlank {s : List Char} (h : ∀ c ∈ s.head?, isBlank c = false) :
    s.dropWhile isBlank = s := by
  cases s with
  | nil => rfl
  | cons c s => rw [List.dropWhile_cons_of_neg (by simp [h c rfl])]

theorem trim_eq_self {s : List Char} (hl : ∀ c ∈ s.head?, isBlank c = false)
    (hr : ∀ c ∈ s.getLast?, isBlank c = false) : trim s = s := by
  rw [trim, trimStart, dropWhile_isBlank hl, trimEnd, dropWhile_isBlank, List.reverse_reverse]
  simpa only [List.head?_reverse] using hr

/-- What is left of a text that does not start with a blank is a start of it. -/
theorem trim_isPrefix {s : List Char} (h : ∀ c ∈ s.head?, isBlank c = false) : trim s <+: s := by
  have hend : (s.reverse.dropWhile isBlank).reverse <+: s.reverse.reverse :=
    List.reverse_prefix.2 (List.dropWhile_suffix _)
  rw [List.reverse_reverse] at hend
  rwa [trim, trimStart, dropWhile_isBlank h, trimEnd]

end Text

namespace HunkRange

theorem foldl_digits {ds : List Char} (h : ∀ c ∈ ds, c.isDigit = true) (n : Nat) :
    ds.foldl (fun n c => 10 * n + (Text.digitValue? c).getD 0) n = Nat.ofDigitChars 10 ds n := by
  induction ds generalizing n with
  | nil => rw [Nat.ofDigitChars_nil, List.foldl_nil]
  | cons c ds ih =>
      rw [List.foldl_cons, Nat.ofDigitChars_cons, ih fun d hd => h d (List.mem_cons_of_mem c hd),
        Text.digitValue?_of_isDigit (h c List.mem_cons_self), Option.getD_some]

theorem numberOf_toDigits (n : Nat) : numberOf (Nat.toDigits 10 n) = n := by
  rw [numberOf, foldl_digits, Nat.ofDigitChars_ten_toDigits]
  exact fun c hc => Nat.isDigit_of_mem_toDigits (by decide) (by decide) hc

/-- A number is read to its end, which is where no digit follows. -/
theorem number?_append {ds s : List Char} (hne : ds ≠ []) (hds : ∀ c ∈ ds, Text.isDigit c = true)
    (hs : ∀ c ∈ s.head?, Text.isDigit c = false) : number? (ds ++ s) = some (numberOf ds, s) := by
  have ht : s.takeWhile Text.isDigit = [] ∧ s.dropWhile Text.isDigit = s := by
    cases s with
    | nil => exact ⟨rfl, rfl⟩
    | cons c s =>
        have hc : ¬ Text.isDigit c = true := by simp [hs c rfl]
        exact ⟨List.takeWhile_cons_of_neg hc, List.dropWhile_cons_of_neg hc⟩
  rw [number?, List.takeWhile_append_of_pos hds, List.dropWhile_append_of_pos hds, ht.1, ht.2,
    List.append_nil]
  cases ds with
  | nil => exact absurd rfl hne
  | cons c ds => rfl

theorem number?_toDigits (n : Nat) {s : List Char} (hs : ∀ c ∈ s.head?, Text.isDigit c = false) :
    number? (Nat.toDigits 10 n ++ s) = some (n, s) := by
  have hd : ∀ c ∈ Nat.toDigits 10 n, Text.isDigit c = true := fun c hc =>
    Text.isDigit_of_isDigit (Nat.isDigit_of_mem_toDigits (by decide) (by decide) hc)
  rw [number?_append Nat.toDigits_ne_nil hd hs, numberOf_toDigits]

theorem toList_spanText (omits : Bool) (start count : Nat) :
    (WrittenHunk.spanText omits start count).toList = Nat.toDigits 10 start ++
      if omits ∧ count = 1 then [] else ',' :: Nat.toDigits 10 count := by
  rw [WrittenHunk.spanText, String.toList_append, Nat.toString_eq_repr, Nat.toList_repr]
  by_cases ho : omits ∧ count = 1
  · rw [if_pos ho, if_pos ho, String.toList_empty]
  · rw [if_neg ho, if_neg ho, String.toList_append, Nat.toString_eq_repr, Nat.toList_repr]
    rfl

/-- A count that is left out is one, so what follows must not look like a count. -/
theorem span?_spanText (omits : Bool) (start count : Nat) {s : List Char}
    (hs : ∀ c ∈ s.head?, Text.isDigit c = false ∧ c ≠ ',') :
    span? ((WrittenHunk.spanText omits start count).toList ++ s) = some (start, count, s) := by
  have hd : ∀ c ∈ s.head?, Text.isDigit c = false := fun c hc => (hs c hc).1
  rw [toList_spanText]
  by_cases ho : omits ∧ count = 1
  · rw [if_pos ho, List.append_nil, span?, number?_toDigits start hd, ho.2]
    cases s with
    | nil => rfl
    | cons c s =>
        have hc : c ≠ ',' := (hs c rfl).2
        simp [hc]
  · have hcomma : ∀ c ∈ (',' :: (Nat.toDigits 10 count ++ s)).head?, Text.isDigit c = false := by
      intro c hc
      obtain rfl : ',' = c := by simpa using hc
      decide
    rw [if_neg ho, List.append_assoc, List.cons_append, span?, number?_toDigits start hcomma]
    simp [number?_toDigits count hd]

theorem ofHeader?_header (h : WrittenHunk) : ofHeader? h.header.toList = some h.range := by
  have hblank : ∀ part : String, part.toList.head? = some ' ' → ∀ s : List Char,
      ∀ c ∈ (part.toList ++ s).head?, Text.isDigit c = false ∧ c ≠ ',' := by
    intro part hpart s c hc
    rw [List.head?_append, hpart] at hc
    obtain rfl : ' ' = c := by simpa using hc
    decide
  simp only [WrittenHunk.header, String.toList_append, List.append_assoc, ofHeader?,
    Text.after?_append, span?_spanText _ _ _ (hblank " +" rfl _),
    span?_spanText _ _ _ (hblank " @@" rfl _), Option.bind_eq_bind, Option.bind_some]
  rfl

end HunkRange

namespace FilePatch

theorem filter_path {s : String} (hs : s ≠ "") (hfile : s ≠ noFile) :
    (some s).filter (fun s => s != "" && s != noFile) = some s := by
  refine Option.filter_eq_some_iff.2 ⟨rfl, ?_⟩
  rw [Bool.and_eq_true, bne_iff_ne, bne_iff_ne]
  exact ⟨hs, hfile⟩

theorem path_of_newPath {p : FilePatch} {s : String} (hnew : p.newPath = some s) (hs : s ≠ "")
    (hfile : s ≠ noFile) : p.path = s := by
  simp only [path, hnew, List.filterMap_cons, filter_path hs hfile, List.headD_cons]

/-- A file that is missing has the path that it had. -/
theorem path_of_oldPath {p : FilePatch} {s : String} (hnew : p.newPath = some noFile)
    (hold : p.oldPath = some s) (hs : s ≠ "") (hfile : s ≠ noFile) : p.path = s := by
  have hmissing : (some noFile).filter (fun s => s != "" && s != noFile) = none := by decide
  simp only [path, hnew, hold, List.filterMap_cons, hmissing, filter_path hs hfile,
    List.headD_cons]

end FilePatch

namespace WrittenPath

theorem takeWhile_stamp {s : List Char} (hs : '\t' ∉ s) (stamp : Option LineText) :
    (s ++ ((stamp.map ("\t" ++ ·.1)).getD "").toList).takeWhile (· != '\t') = s := by
  have hne : ∀ c ∈ s, (c != '\t') = true := fun c hc => bne_iff_ne.2 (ne_of_mem_of_not_mem hc hs)
  rw [List.takeWhile_append_of_pos hne]
  cases stamp <;> simp

/-- The letter of a side is taken off again, and nothing but it. -/
theorem stripSide_trim {side : Char} (hside : side = 'a' ∨ side = 'b') (p : PathText) :
    FilePatch.stripSide (Text.trim (side :: '/' :: p.path.toList)) = p.path.toList := by
  have hlast : ∀ c ∈ (side :: '/' :: p.path.toList).getLast?, Text.isBlank c = false := by
    intro c hc
    cases h : p.path.toList with
    | nil =>
        rw [h] at hc
        obtain rfl : '/' = c := by simpa using hc
        decide
    | cons d s =>
        refine p.no_blank_end c ?_
        rw [h] at hc ⊢
        simpa only [List.getLast?_cons_cons] using hc
  rcases hside with rfl | rfl
  · rw [Text.trim_eq_self (by simp; decide) hlast]
    rfl
  · rw [Text.trim_eq_self (by simp; decide) hlast]
    rfl

theorem headerPath_text {side : Char} (hside : side = 'a' ∨ side = 'b') (p : WrittenPath) :
    FilePatch.headerPath (p.text (String.ofList [side, '/'])).toList = p.path := by
  rw [text, String.toList_append]
  by_cases hp : p.path = FilePatch.noFile
  · rw [if_pos hp, FilePatch.headerPath, takeWhile_stamp p.no_tab, hp]
    decide
  · have htab : '\t' ∉ side :: '/' :: p.path.toList := by
      rcases hside with rfl | rfl <;> simp [p.no_tab]
    rw [if_neg hp, String.toList_append, String.toList_ofList, FilePatch.headerPath,
      List.cons_append, List.singleton_append, takeWhile_stamp htab, stripSide_trim hside,
      String.ofList_toList]

end WrittenPath
end PatchReview
