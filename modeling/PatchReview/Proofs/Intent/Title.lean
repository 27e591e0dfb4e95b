import PatchReview.Intent.Change
import PatchReview.Proofs.Text.Caseless

/-! Titles that name a type of change. A heading is the word of a type, perhaps a scope, a colon and
what follows it; the reader of titles finds the parts of exactly the titles that are headings. The
type is then looked up by the word in lower case, which fails if the word is written with a letter
that only stands for a letter of the word. -/
namespace PatchReview.ChangeIntent
open Text

/-- A scope as it stands in a title. -/
def scopeText : Option (List Char) → List Char
  | none => []
  | some scope => '(' :: (scope ++ [')'])

/-- The parts of a title `type(scope): description`. -/
structure Heading where
  word : List Char
  scope : Option (List Char)
  behind : List Char
  spells_word : ∃ t ∈ typeWords, Spells word t.1
  proper_scope : ∀ s ∈ scope, s ≠ [] ∧ ')' ∉ s
  describes : ∃ c ∈ behind, c ≠ '\n'

def Heading.text (h : Heading) : List Char := h.word ++ (scopeText h.scope ++ ':' :: h.behind)

/-! The type word -/

/-- Type words are written in ASCII, and none of them has the letter that the Kelvin sign is for. -/
theorem typeWords_letters : ∀ t ∈ typeWords, ∀ c ∈ t.1.toList, c.toNat < 128 ∧ c ≠ 'k' := by
  intro t ht
  refine forall_mem_of_all ?_
  revert t
  decide

theorem typeWords_ascii : ∀ t ∈ typeWords, ∀ c ∈ t.1.toList, c.toNat < 128 :=
  fun t ht c hc => (typeWords_letters t ht c hc).1

theorem typeWords_plain : ∀ t ∈ typeWords, ∀ c ∈ t.1.toList, c ≠ 'σ' ∧ c ≠ 'ς' := by
  intro t ht c hc
  have hascii := typeWords_ascii t ht c hc
  refine ⟨?_, ?_⟩
  · rintro rfl
    exact absurd hascii (by decide)
  · rintro rfl
    exact absurd hascii (by decide)

theorem typeWords_eq_of_start : ∀ t ∈ typeWords, ∀ u ∈ typeWords,
    t.1.toList <+: u.1.toList → t.1 = u.1 := by
  decide

theorem lookup_typeWords : ∀ t ∈ typeWords, typeWords.lookup t.1 = some t.2 := by
  decide

/-- No two type words start one title. -/
theorem eq_of_spells_of_append_eq {t u : String × ChangeType} (ht : t ∈ typeWords)
    (hu : u ∈ typeWords) {word word' rest rest' : List Char} (hword : Spells word t.1)
    (hword' : Spells word' u.1) (heq : word ++ rest = word' ++ rest') :
    word = word' ∧ rest = rest' := by
  have hletters : t.1.toList ++ rest.map letterOf = u.1.toList ++ rest'.map letterOf := by
    rw [← map_letterOf_of_spells (typeWords_ascii t ht) hword,
      ← map_letterOf_of_spells (typeWords_ascii u hu) hword', ← List.map_append, ← List.map_append,
      heq]
  have hsame : t.1 = u.1 := by
    have hprefix : t.1.toList <+: u.1.toList ++ rest'.map letterOf := ⟨_, hletters⟩
    rcases List.prefix_or_prefix_of_prefix hprefix (List.prefix_append _ _) with h | h
    · exact typeWords_eq_of_start t ht u hu h
    · exact (typeWords_eq_of_start u hu t ht h).symm
  refine List.append_inj heq ?_
  rw [← hword.length_eq, ← hword'.length_eq, hsame]

theorem findSome?_splitWord_eq_some_iff {title word rest : List Char} :
    (typeWords.findSome? fun t => splitWord t.1.toList title) = some (word, rest) ↔
      (∃ t ∈ typeWords, Spells word t.1) ∧ title = word ++ rest := by
  constructor
  · intro h
    obtain ⟨t, ht, hsplit⟩ := List.exists_of_findSome?_eq_some h
    obtain ⟨hword, htitle⟩ := splitWord_eq_some.1 hsplit
    exact ⟨⟨t, ht, hword⟩, htitle⟩
  · rintro ⟨⟨t, ht, hword⟩, htitle⟩
    have hsplit : splitWord t.1.toList title = some (word, rest) :=
      splitWord_eq_some.2 ⟨hword, htitle⟩
    have hsome : (typeWords.findSome? fun t => splitWord t.1.toList title).isSome = true := by
      rw [List.findSome?_isSome_iff]
      exact ⟨t, ht, by rw [hsplit]; rfl⟩
    obtain ⟨⟨word', rest'⟩, hfound⟩ := Option.isSome_iff_exists.1 hsome
    obtain ⟨u, hu, hsplit'⟩ := List.exists_of_findSome?_eq_some hfound
    obtain ⟨hword', htitle'⟩ := splitWord_eq_some.1 hsplit'
    obtain ⟨rfl, rfl⟩ :=
      eq_of_spells_of_append_eq ht hu hword hword' (htitle.symm.trans htitle')
    exact hfound

/-! The scope -/

theorem scopeText_append (scope rest : List Char) :
    scopeText (some scope) ++ rest = '(' :: (scope ++ ')' :: rest) := by
  rw [scopeText, List.cons_append, List.append_assoc, List.singleton_append]

theorem splitScope_eq_iff {rest behind : List Char} {scope : Option (List Char)} :
    splitScope rest = (scope, ':' :: behind) ↔
      rest = scopeText scope ++ ':' :: behind ∧ ∀ s ∈ scope, s ≠ [] ∧ ')' ∉ s := by
  constructor
  · intro h
    unfold splitScope at h
    split at h
    · next inner =>
      split at h
      · next tail c inner' hdrop htake =>
        obtain ⟨rfl, rfl⟩ := Prod.mk.inj h
        have hinner : inner = (c :: inner') ++ ')' :: ':' :: behind := by
          rw [← htake, ← hdrop, List.takeWhile_append_dropWhile]
        refine ⟨?_, ?_⟩
        · rw [hinner, scopeText_append]
        · rintro s hs
          obtain rfl := Option.mem_some_iff.1 hs
          refine ⟨List.cons_ne_nil _ _, ?_⟩
          intro hmem
          rw [← htake] at hmem
          exact absurd (List.mem_takeWhile_imp hmem) (by decide)
      · exact absurd (List.cons.inj (Prod.mk.inj h).2).1 (by decide)
    · obtain ⟨rfl, rfl⟩ := Prod.mk.inj h
      exact ⟨rfl, fun _ hs => nomatch hs⟩
  · rintro ⟨rfl, hscope⟩
    cases scope with
    | none => rfl
    | some s =>
      obtain ⟨hne, hclosing⟩ := hscope s rfl
      obtain ⟨c, s, rfl⟩ := List.exists_cons_of_ne_nil hne
      have hall : ∀ d ∈ c :: s, (d != ')') = true := by
        intro d hd
        rw [bne_iff_ne]
        rintro rfl
        exact hclosing hd
      have hdrop : ((c :: s) ++ ')' :: ':' :: behind).dropWhile (· != ')') =
          ')' :: ':' :: behind := by
        rw [List.dropWhile_append_of_pos hall]
        rfl
      have htake : ((c :: s) ++ ')' :: ':' :: behind).takeWhile (· != ')') = c :: s := by
        rw [List.takeWhile_append_of_pos hall]
        exact List.append_nil _
      rw [scopeText_append, splitScope, hdrop, htake]
      rfl

/-! The description -/

theorem isSome_describe?_iff {behind : List Char} :
    (describe? behind).isSome = true ↔ ∃ c ∈ behind, c ≠ '\n' := by
  rw [describe?]
  split
  · rw [Option.isSome_map, List.find?_isSome]
    simp only [List.mem_reverse, bne_iff_ne]
  · next hne =>
    refine iff_of_true rfl ?_
    obtain ⟨c, rest, hs⟩ := List.exists_cons_of_ne_nil hne
    have hblank : isBlank c = false := by
      have hhead := List.head?_dropWhile_not isBlank behind
      rwa [← trimStart, hs] at hhead
    have hmem : c ∈ trimStart behind := by
      rw [hs]
      exact List.mem_cons_self
    refine ⟨c, (List.dropWhile_sublist isBlank).mem hmem, ?_⟩
    rintro rfl
    exact absurd hblank (by decide +kernel)

/-! The parts together -/

theorem readTitle?_eq_some_iff {title : List Char} {parts : Title} :
    readTitle? title = some parts ↔
      ∃ h : Heading, h.text = title ∧ h.word = parts.word ∧ h.scope = parts.scope ∧
        describe? h.behind = some parts.description := by
  rw [readTitle?, Option.bind_eq_bind, Option.bind_eq_some_iff]
  constructor
  · rintro ⟨⟨word, rest⟩, hword, h⟩
    obtain ⟨hspells, rfl⟩ := findSome?_splitWord_eq_some_iff.1 hword
    dsimp only at h
    split at h
    · next scope behind hscope =>
      obtain ⟨rfl, hproper⟩ := splitScope_eq_iff.1 hscope
      obtain ⟨description, hdescribe, rfl⟩ := Option.map_eq_some_iff.1 h
      have hbehind := isSome_describe?_iff.1 (Option.isSome_of_eq_some hdescribe)
      exact ⟨⟨word, scope, behind, hspells, hproper, hbehind⟩, rfl, rfl, rfl, hdescribe⟩
    · cases h
  · rintro ⟨h, rfl, hword, hscope, hdescribe⟩
    have hsplit : splitScope (scopeText h.scope ++ ':' :: h.behind) =
        (h.scope, ':' :: h.behind) :=
      splitScope_eq_iff.2 ⟨rfl, h.proper_scope⟩
    refine ⟨(h.word, scopeText h.scope ++ ':' :: h.behind),
      findSome?_splitWord_eq_some_iff.2 ⟨h.spells_word, rfl⟩, ?_⟩
    dsimp only
    rw [hsplit, hword, hscope]
    exact Option.map_eq_some_iff.2 ⟨_, hdescribe, rfl⟩

theorem exists_readTitle?_iff {title word : List Char} :
    (∃ parts, readTitle? title = some parts ∧ parts.word = word) ↔
      ∃ h : Heading, h.text = title ∧ h.word = word := by
  constructor
  · rintro ⟨parts, hread, rfl⟩
    obtain ⟨h, htext, hword, -⟩ := readTitle?_eq_some_iff.1 hread
    exact ⟨h, htext, hword⟩
  · rintro ⟨h, htext, rfl⟩
    obtain ⟨description, hdescribe⟩ :=
      Option.isSome_iff_exists.1 (isSome_describe?_iff.2 h.describes)
    exact ⟨⟨h.word, h.scope, description⟩,
      readTitle?_eq_some_iff.2 ⟨h, htext, rfl, rfl, hdescribe⟩, rfl⟩

/-! The type that the word stands for -/

/-- Letters that stand for letters of type words and have another lower case. -/
def foreignLetters : List Char := ['ſ', 'İ', 'ı']

theorem plainLower_ascii : (List.range 128).all (fun n =>
    plainLower (Char.ofNat n) == [(Char.ofNat n).toLower]) = true := by
  decide +kernel

/-- A letter of a type word that is no foreign one is the letter itself or its capital. -/
theorem toLower_of_isForm {letter c : Char} (hk : letter ≠ 'k') (hform : IsForm letter c)
    (hc : c ∉ foreignLetters) : c.toLower = letter := by
  rcases hform with h | hextra
  · exact h
  · refine absurd ?_ hc
    rw [extraForms, if_neg hk] at hextra
    split_ifs at hextra
    · exact List.mem_cons_of_mem _ hextra
    · exact List.mem_singleton.1 hextra ▸ List.mem_cons_self
    · cases hextra

theorem plainLower_of_isForm {letter c : Char} (hletter : letter.toNat < 128) (hk : letter ≠ 'k')
    (hform : IsForm letter c) (hc : c ∉ foreignLetters) : plainLower c = [letter] := by
  obtain rfl := toLower_of_isForm hk hform hc
  exact eq_of_beq (of_lt_128 (p := fun c => plainLower c == [c.toLower]) plainLower_ascii
    (lt_128_of_toLower hletter))

theorem exists_mem_plainLower_of_foreign :
    ∀ c ∈ foreignLetters, ∃ d ∈ plainLower c, 128 ≤ d.toNat := by
  have hall : ∀ c ∈ foreignLetters, (plainLower c).any (128 ≤ ·.toNat) = true :=
    forall_mem_of_all (by decide +kernel)
  intro c hc
  obtain ⟨d, hd, hlarge⟩ := List.any_eq_true.1 (hall c hc)
  exact ⟨d, hd, of_decide_eq_true hlarge⟩

theorem lower_of_spells {word : List Char} {t : String × ChangeType} (ht : t ∈ typeWords)
    (hword : Spells word t.1) (hplain : ∀ c ∈ word, c ∉ foreignLetters) :
    lower word = t.1.toList := by
  rw [lower_eq_iff (typeWords_plain t ht)]
  have hletters := typeWords_letters t ht
  rw [Spells] at hword
  generalize t.1.toList = letters at hword hletters ⊢
  induction hword with
  | nil => rfl
  | @cons letter c letters word hform _ ih =>
    rw [List.forall_mem_cons] at hplain hletters
    rw [List.flatMap_cons, plainLower_of_isForm hletters.1.1 hletters.1.2 hform hplain.1,
      ih hplain.2 hletters.2, List.singleton_append]

theorem lower_ne_of_foreign {word : List Char} {c : Char} (hc : c ∈ word)
    (hforeign : c ∈ foreignLetters) {t : String × ChangeType} (ht : t ∈ typeWords) :
    lower word ≠ t.1.toList := by
  rw [Ne, lower_eq_iff (typeWords_plain t ht)]
  intro heq
  obtain ⟨d, hd, hlarge⟩ := exists_mem_plainLower_of_foreign c hforeign
  have hsmall : d.toNat < 128 := typeWords_ascii t ht d (heq ▸ List.mem_flatMap.2 ⟨c, hc, hd⟩)
  omega

theorem lookup_of_spells {word : List Char} {t : String × ChangeType} (ht : t ∈ typeWords)
    (hword : Spells word t.1) (hplain : ∀ c ∈ word, c ∉ foreignLetters) :
    typeWords.lookup (String.ofList (lower word)) = some t.2 := by
  rw [lower_of_spells ht hword hplain, String.ofList_toList, lookup_typeWords t ht]

theorem lookup_eq_none_of_foreign {word : List Char} {c : Char} (hc : c ∈ word)
    (hforeign : c ∈ foreignLetters) :
    typeWords.lookup (String.ofList (lower word)) = none := by
  rw [List.lookup_eq_none_iff]
  intro t ht
  rw [bne_iff_ne]
  intro heq
  refine lower_ne_of_foreign hc hforeign ht ?_
  rw [← heq, String.toList_ofList]

/-- The title is a heading, and a letter of its word has another lower case than the letter that
it stands for. -/
def HasForeignWord (title : List Char) : Prop :=
  ∃ h : Heading, h.text = title ∧ ∃ c ∈ h.word, c ∈ foreignLetters

theorem hasForeignWord_iff {title : List Char} :
    HasForeignWord title ↔
      ∃ parts, readTitle? title = some parts ∧ ∃ c ∈ parts.word, c ∈ foreignLetters := by
  constructor
  · rintro ⟨h, htext, hforeign⟩
    obtain ⟨parts, hread, hword⟩ := exists_readTitle?_iff.2 ⟨h, htext, rfl⟩
    exact ⟨parts, hread, hword ▸ hforeign⟩
  · rintro ⟨parts, hread, hforeign⟩
    obtain ⟨h, htext, hword⟩ := exists_readTitle?_iff.1 ⟨parts, hread, rfl⟩
    exact ⟨h, htext, hword ▸ hforeign⟩

theorem ofTitle_ok_iff (title : String) :
    (∃ intent, ofTitle title = .ok intent) ↔ ¬ HasForeignWord title.toList := by
  rw [ofTitle, hasForeignWord_iff]
  cases hread : readTitle? title.toList with
  | none =>
    refine iff_of_true ⟨_, rfl⟩ ?_
    rintro ⟨parts, hparts, -⟩
    cases hparts
  | some parts =>
    obtain ⟨h, -, hword⟩ := exists_readTitle?_iff.1 ⟨parts, hread, rfl⟩
    obtain ⟨t, ht, hspells⟩ := hword ▸ h.spells_word
    simp only [Option.some.injEq, exists_eq_left']
    by_cases hforeign : ∃ c ∈ parts.word, c ∈ foreignLetters
    · obtain ⟨c, hc, hcf⟩ := hforeign
      rw [lookup_eq_none_of_foreign hc hcf]
      simp only [reduceCtorEq, exists_false, false_iff, not_not]
      exact ⟨c, hc, hcf⟩
    · have hplain : ∀ c ∈ parts.word, c ∉ foreignLetters :=
        fun c hc hcf => hforeign ⟨c, hc, hcf⟩
      rw [lookup_of_spells ht hspells hplain]
      exact iff_of_true ⟨_, rfl⟩ hforeign

/-- Labels never stand in the way of a purpose. -/
theorem classify_ok_iff (title : String) (labels : Value) :
    (∃ intent, classify title labels = .ok intent) ↔ ¬ HasForeignWord title.toList := by
  rw [← ofTitle_ok_iff, classify]
  cases ofTitle title with
  | error e => simp only [Except.map, reduceCtorEq]
  | ok intent => exact iff_of_true ⟨_, rfl⟩ ⟨_, rfl⟩

end PatchReview.ChangeIntent
