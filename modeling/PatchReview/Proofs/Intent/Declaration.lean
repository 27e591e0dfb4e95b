import PatchReview.Proofs.Intent.Title
import PatchReview.Proofs.Text.Parts

/-! What titles declare. A declaration `type(scope): description` begins with the word of a type in
any letter case. A title tells a type, a scope and a description of its own exactly where it is a
declaration; any other title is a description. -/
namespace PatchReview.ChangeIntent
open Text

/-- The description that a text behind a colon holds: from its first character that is not blank to
the end of the line; in a text of blanks, the last that is no line feed. -/
inductive Describes : (behind description : List Char) → Prop
  | line {blanks line rest : List Char} {c : Char} :
      (∀ b ∈ blanks, isBlank b = true) → isBlank c = false → '\n' ∉ line →
      (∀ d ∈ rest.head?, d = '\n') → Describes (blanks ++ c :: (line ++ rest)) (c :: line)
  | blank {blanks ends : List Char} {c : Char} :
      (∀ b ∈ blanks, isBlank b = true) → isBlank c = true → c ≠ '\n' →
      (∀ b ∈ ends, b = '\n') → Describes (blanks ++ c :: ends) [c]

/-- The parts of a title that declares a type of change. -/
structure Declaration where
  word : List Char
  type : ChangeType
  scope : Option (List Char)
  behind : List Char
  names_type : ∃ t ∈ typeWords, t.2 = type ∧ word.map Char.toLower = t.1.toList
  proper_scope : ∀ s ∈ scope, s ≠ [] ∧ ')' ∉ s
  describes : ∃ c ∈ behind, c ≠ '\n'

def Declaration.text (d : Declaration) : List Char :=
  d.word ++ (scopeText d.scope ++ ':' :: d.behind)

/-! The description -/

theorem isBlank_newline : isBlank '\n' = true := by decide

theorem trimStart_eq_nil_iff {s : List Char} : trimStart s = [] ↔ ∀ c ∈ s, isBlank c = true := by
  rw [trimStart, List.dropWhile_eq_nil_iff]

theorem ne_newline_of_isBlank_eq_false {c : Char} (h : isBlank c = false) : c ≠ '\n' := by
  rintro rfl
  exact absurd (h.symm.trans isBlank_newline) Bool.false_ne_true

theorem describe?_of_describes {behind description : List Char}
    (h : Describes behind description) : describe? behind = some description := by
  cases h with
  | @line blanks line rest c hblanks hc hline hrest =>
    have htrim : trimStart (blanks ++ c :: (line ++ rest)) = c :: (line ++ rest) :=
      dropWhile_eq_cons.2 ⟨blanks, hblanks, hc, rfl⟩
    have htake : (c :: (line ++ rest)).takeWhile (· != '\n') = c :: line := by
      refine takeWhile_eq_iff.2 ⟨rest, rfl, ?_, ?_⟩
      · refine List.forall_mem_cons.2 ⟨bne_iff_ne.2 (ne_newline_of_isBlank_eq_false hc), ?_⟩
        exact fun d hd => bne_iff_ne.2 fun heq => hline (heq ▸ hd)
      · intro d hd
        rw [hrest d hd]
        decide
    rw [describe?, htrim]
    exact congrArg some htake
  | @blank blanks ends c hblanks hc hne hends =>
    have htrim : trimStart (blanks ++ c :: ends) = [] := by
      rw [trimStart_eq_nil_iff, List.forall_mem_append, List.forall_mem_cons]
      refine ⟨hblanks, hc, fun b hb => ?_⟩
      rw [hends b hb, isBlank_newline]
    have hfind : (blanks ++ c :: ends).reverse.find? (· != '\n') = some c := by
      rw [List.find?_eq_some_iff_append]
      refine ⟨bne_iff_ne.2 hne, ends.reverse, blanks.reverse, by simp, fun b hb => ?_⟩
      rw [hends b (List.mem_reverse.1 hb)]
      rfl
    rw [describe?, htrim]
    exact congrArg (Option.map ([·])) hfind

theorem describes_of_describe? {behind description : List Char}
    (h : describe? behind = some description) : Describes behind description := by
  rw [describe?] at h
  split at h
  · next htrim =>
    have hblank := trimStart_eq_nil_iff.1 htrim
    obtain ⟨c, hfind, rfl⟩ := Option.map_eq_some_iff.1 h
    obtain ⟨hne, ends, blanks, hsplit, hends⟩ := List.find?_eq_some_iff_append.1 hfind
    have hbehind : behind = blanks.reverse ++ c :: ends.reverse := by
      rw [← List.reverse_reverse behind, hsplit]
      simp
    rw [hbehind, List.forall_mem_append, List.forall_mem_cons] at hblank
    rw [hbehind]
    refine .blank hblank.1 hblank.2.1 (bne_iff_ne.1 hne) fun b hb => ?_
    simpa using hends b (List.mem_reverse.1 hb)
  · next hne =>
    obtain ⟨c, rest, hrest⟩ := List.exists_cons_of_ne_nil hne
    obtain ⟨blanks, hblanks, hc, rfl⟩ := dropWhile_eq_cons.1 hrest
    rw [hrest, Option.some.injEq] at h
    obtain ⟨ends, hsplit, hline, hstop⟩ := takeWhile_eq_iff.1 h
    cases description with
    | nil =>
      rw [List.nil_append] at hsplit
      have hnewline : (c != '\n') = false := hstop c (hsplit ▸ rfl)
      exact absurd (bne_eq_false_iff_eq.1 hnewline) (ne_newline_of_isBlank_eq_false hc)
    | cons d line =>
      obtain ⟨rfl, rfl⟩ := List.cons.inj hsplit
      refine .line hblanks hc (fun hmem => ?_) fun e he => bne_eq_false_iff_eq.1 (hstop e he)
      exact bne_iff_ne.1 (hline '\n' (List.mem_cons_of_mem c hmem)) rfl

theorem describe?_eq_some_iff {behind description : List Char} :
    describe? behind = some description ↔ Describes behind description :=
  ⟨describes_of_describe?, describe?_of_describes⟩

/-! The word of the type -/

theorem map_toLower_of_spells {word : List Char} {t : String × ChangeType} (ht : t ∈ typeWords)
    (hword : Spells word t.1) (hplain : ∀ c ∈ word, c ∉ foreignLetters) :
    word.map Char.toLower = t.1.toList := by
  have hletters := typeWords_letters t ht
  rw [Spells] at hword
  generalize t.1.toList = letters at hword hletters ⊢
  induction hword with
  | nil => rfl
  | cons hform _ ih =>
    rw [List.forall_mem_cons] at hplain hletters
    rw [List.map_cons, toLower_of_isForm hletters.1.2 hform hplain.1, ih hplain.2 hletters.2]

theorem not_mem_foreignLetters_of_toLower {word : List Char} {t : String × ChangeType}
    (ht : t ∈ typeWords) (hword : word.map Char.toLower = t.1.toList) :
    ∀ c ∈ word, c ∉ foreignLetters := by
  intro c hc hforeign
  have hascii : c.toNat < 128 := by
    refine lt_128_of_toLower (typeWords_ascii t ht _ ?_)
    rw [← hword]
    exact List.mem_map_of_mem hc
  have hlarge : ∀ d ∈ foreignLetters, 128 ≤ d.toNat := forall_mem_of_all (by decide)
  exact absurd (hlarge c hforeign) (by omega)

/-! What a declaration tells -/

namespace Declaration
variable (d : Declaration)

def heading : Heading where
  word := d.word
  scope := d.scope
  behind := d.behind
  spells_word := by
    obtain ⟨t, ht, -, hword⟩ := d.names_type
    exact ⟨t, ht, spells_of_map_toLower hword⟩
  proper_scope := d.proper_scope
  describes := d.describes

theorem type_ne_general : d.type ≠ .general := by
  obtain ⟨t, ht, htype, -⟩ := d.names_type
  have hall : ∀ t ∈ typeWords, t.2 ≠ .general := by decide
  exact htype ▸ hall t ht

/-- The parts of a declaration are read from its text. -/
theorem ofTitle_text {title : String} (h : d.text = title.toList) :
    ∃ description, Describes d.behind description ∧
      ofTitle title = .ok (imply
        { type := d.type
          scope := d.scope.map String.ofList
          description := String.ofList description }) := by
  obtain ⟨description, hdescribe⟩ :=
    Option.isSome_iff_exists.1 (isSome_describe?_iff.2 d.describes)
  have hread : readTitle? title.toList = some ⟨d.word, d.scope, description⟩ :=
    readTitle?_eq_some_iff.2 ⟨d.heading, h, rfl, rfl, hdescribe⟩
  obtain ⟨t, ht, htype, hword⟩ := d.names_type
  have hlookup := lookup_of_spells ht (spells_of_map_toLower hword)
    (not_mem_foreignLetters_of_toLower ht hword)
  refine ⟨description, describe?_eq_some_iff.1 hdescribe, ?_⟩
  rw [ofTitle, hread]
  dsimp only
  rw [hlookup, htype]

end Declaration

theorem exists_declaration_of_heading (h : Heading) (hplain : ∀ c ∈ h.word, c ∉ foreignLetters) :
    ∃ d : Declaration, d.text = h.text := by
  obtain ⟨t, ht, hword⟩ := h.spells_word
  exact ⟨⟨h.word, t.2, h.scope, h.behind, ⟨t, ht, rfl, map_toLower_of_spells ht hword hplain⟩,
    h.proper_scope, h.describes⟩, rfl⟩

theorem ofTitle_of_no_declaration {title : String} (hplain : ∀ c ∈ title.toList, c ∉ foreignLetters)
    (hnone : ¬ ∃ d : Declaration, d.text = title.toList) :
    ofTitle title = .ok { description := title } := by
  have hread : readTitle? title.toList = none := by
    refine Option.eq_none_iff_forall_ne_some.2 fun parts hparts => hnone ?_
    obtain ⟨h, htext, -⟩ := readTitle?_eq_some_iff.1 hparts
    rw [← htext] at hplain ⊢
    exact exists_declaration_of_heading h fun c hc => hplain c (List.mem_append_left _ hc)
  rw [ofTitle, hread]

/-! What a type implies and what labels add leave the parts of the title as they are. -/

theorem type_imply (intent : ChangeIntent) : (imply intent).type = intent.type := by
  rw [imply]
  split <;> rfl

theorem scope_imply (intent : ChangeIntent) : (imply intent).scope = intent.scope := by
  rw [imply]
  split <;> rfl

theorem description_imply (intent : ChangeIntent) :
    (imply intent).description = intent.description := by
  rw [imply]
  split <;> rfl

section Labels
variable (intent : ChangeIntent) (labels : List (List Char))

theorem type_withLabels : (intent.withLabels labels).type = intent.type := rfl

theorem scope_withLabels : (intent.withLabels labels).scope = intent.scope := rfl

theorem description_withLabels : (intent.withLabels labels).description = intent.description := rfl

end Labels

theorem classify_text {title : String} (d : Declaration) (h : d.text = title.toList)
    (labels : Value) : ∃ intent, classify title labels = .ok intent ∧ intent.type = d.type ∧
      intent.scope = d.scope.map String.ofList ∧ Describes d.behind intent.description.toList := by
  obtain ⟨description, hdescribes, htitle⟩ := d.ofTitle_text h
  refine ⟨_, by rw [classify, htitle]; rfl, ?_, ?_, ?_⟩
  · rw [type_withLabels, type_imply]
  · rw [scope_withLabels, scope_imply]
  · rw [description_withLabels, description_imply, String.toList_ofList]
    exact hdescribes

/-- A title without foreign letters tells a type other than the general one exactly where it is a
declaration. Then it tells the type, the scope and the description of the declaration, and otherwise
no scope and itself as the description. -/
theorem classify_declaration (title : String) (labels : Value)
    (hplain : ∀ c ∈ title.toList, c ∉ foreignLetters) :
    ∃ intent, classify title labels = .ok intent ∧
      (intent.type ≠ .general ↔ ∃ d : Declaration, d.text = title.toList) ∧
      (∀ d : Declaration, d.text = title.toList → intent.type = d.type ∧
        intent.scope = d.scope.map String.ofList ∧
        Describes d.behind intent.description.toList) ∧
      ((¬ ∃ d : Declaration, d.text = title.toList) →
        intent.scope = none ∧ intent.description = title) := by
  by_cases hdeclares : ∃ d : Declaration, d.text = title.toList
  · obtain ⟨d, hd⟩ := hdeclares
    obtain ⟨intent, hintent, htype, -⟩ := classify_text d hd labels
    refine ⟨intent, hintent, iff_of_true (htype ▸ d.type_ne_general) ⟨d, hd⟩, ?_, ?_⟩
    · intro d' hd'
      obtain ⟨intent', hintent', hparts⟩ := classify_text d' hd' labels
      obtain rfl := Except.ok.inj (hintent.symm.trans hintent')
      exact hparts
    · intro hnone
      exact absurd ⟨d, hd⟩ hnone
  · have htitle := ofTitle_of_no_declaration hplain hdeclares
    refine ⟨_, by rw [classify, htitle]; rfl, ?_, ?_, ?_⟩
    · exact iff_of_false (fun h => h rfl) hdeclares
    · intro d hd
      exact absurd ⟨d, hd⟩ hdeclares
    · exact fun _ => ⟨rfl, rfl⟩

/-- The scope runs over a line feed, the description begins on another line and ends with it; in a
title of blanks the last tab is described; a scope that is empty is none. -/
theorem classify_declaration_of_titles :
    let titles := ["FIX(a\n():\u2028\n null user\nmore", "docs: \t\n", "fix(): null user"]
    let told (title : String) : Except UnknownTypeWord (ChangeType × Option String × String) :=
      (classify title .null).map fun intent => (intent.type, intent.scope, intent.description)
    (∀ title ∈ titles, ∀ c ∈ title.toList, c ∉ foreignLetters) ∧
      titles.map told = [.ok (.fix, some "a\n(", "null user"), .ok (.docs, none, "\t"),
        .ok (.general, none, "fix(): null user")] ∧
      ∀ title ∈ titles, ∃ intent, classify title .null = .ok intent ∧
        (intent.type ≠ .general ↔ ∃ d : Declaration, d.text = title.toList) := by
  intro titles told
  have hall : ∀ title ∈ titles, title.toList.all (· ∉ foreignLetters) = true := by decide +kernel
  have hplain : ∀ title ∈ titles, ∀ c ∈ title.toList, c ∉ foreignLetters :=
    fun title htitle => forall_mem_of_all (hall title htitle)
  refine ⟨hplain, by decide +kernel, fun title htitle => ?_⟩
  obtain ⟨intent, hintent, hdeclares, -⟩ := classify_declaration title .null (hplain title htitle)
  exact ⟨intent, hintent, hdeclares⟩

end PatchReview.ChangeIntent
