import Mathlib.Data.List.DropRight
import Mathlib.Data.List.Perm.Basic
import PatchReview.Proofs.Distinct
import PatchReview.Proofs.Rule.Buckets
import PatchReview.Rule.Document

/-! Rule documents by their history. What a line means is said here from the lines before it
alone: whether it is fenced, which heading is the last one, where a rule goes. The reader that
passes over a document once files every rule where its history says, and nothing else. -/
namespace PatchReview

namespace RuleDocument

/-- The lines of a document without the blanks around them. Blank lines are left out. -/
def lines (text : String) : List (List Char) :=
  ((Text.lines text.toList).map Text.trim).filter (· ≠ [])

def isFence : List Char → Bool
  | '\x60' :: '\x60' :: '\x60' :: _ => true
  | _ => false

/-- The name that a `##` heading opens. -/
def category? : List Char → Option String
  | '#' :: '#' :: ' ' :: rest => some (RuleReader.headingText rest)
  | _ => none

/-- The name that a `###` heading opens. -/
def language? : List Char → Option String
  | '#' :: '#' :: '#' :: ' ' :: rest => some (RuleReader.headingText rest)
  | _ => none

/-- The rule in a list item. -/
def item? : List Char → Option Rule
  | '-' :: ' ' :: rest => some (Rule.ofText (String.ofList rest))
  | _ => none

/-- The text of a line that is neither a heading nor a list item. -/
def plain? : List Char → Option String
  | '#' :: _ => none
  | '-' :: ' ' :: _ => none
  | line => some (String.ofList line)

section Gather
variable {α β : Type}

/-- What the lines of a list give, each read with the lines before it. -/
def gather (give : List α → α → Option β) (ls : List α) : List β :=
  ls.zipIdx.filterMap fun (line, i) => give (ls.take i) line

@[simp] theorem gather_nil (give : List α → α → Option β) : gather give [] = [] := rfl

@[simp] theorem gather_concat (give : List α → α → Option β) (ls : List α) (line : α) :
    gather give (ls ++ [line]) = gather give ls ++ (give ls line).toList := by
  have hbefore : ∀ x ∈ ls.zipIdx, give ((ls ++ [line]).take x.2) x.1 = give (ls.take x.2) x.1 := by
    rintro ⟨l, i⟩ hx
    have hi := (List.mem_zipIdx hx).2.1
    rw [List.take_append_of_le_length (by omega)]
  simp only [gather, List.zipIdx_append, List.filterMap_append, List.filterMap_congr hbefore]
  cases hgive : give ls line <;> simp [hgive]

end Gather

/-- The lines outside fenced code: those that are no fence and stand behind an even number
of fences. -/
def live (ls : List (List Char)) : List (List Char) :=
  gather (fun before line =>
    if isFence line = false ∧ before.countP isFence % 2 = 0 then some line else none) ls

/-- The category of the last `##` heading. -/
def categoryAfter (before : List (List Char)) : Option String :=
  (before.filterMap category?).getLast?

/-- The language of the last `###` heading, if no `##` heading has come after it. -/
def languageAfter (before : List (List Char)) : Option String :=
  ((before.rtakeWhile fun line => (category? line).isNone).filterMap language?).getLast?

/-- Where a rule is filed. -/
inductive Place where
  | category (name : String)
  | language (name : String)
  | global
deriving DecidableEq

/-- Where a rule behind these lines goes. A language comes before a category. -/
def placeAfter (before : List (List Char)) : Place :=
  match languageAfter before, categoryAfter before with
  | some name, _ => .language name
  | none, some name => .category name
  | none, none => .global

/-- The rules that belong in a place, in the order of the document. -/
def filed (place : Place) (ls : List (List Char)) : List Rule :=
  gather (fun before line => if placeAfter before = place then item? line else none) ls

/-- The lines that make up the tone. -/
def toneLines (ls : List (List Char)) : List String :=
  gather (fun before line =>
    if categoryAfter before = some RuleReader.toneHeading then plain? line else none) ls

/-- The buckets for names, each opened where its name comes first. -/
def buckets (names : List String) (rules : String → List Rule) : Buckets :=
  names.eraseDups.map fun name => (name, rules name)

section Buckets
variable {names : List String} {rules : String → List Rule} {name : String}

theorem extend_map (more : List Rule) (hnames : names.Nodup)
    (hnew : name ∉ names → rules name = []) :
    Buckets.extend name more (names.map fun n => (n, rules n)) =
      (if name ∈ names then names else names ++ [name]).map fun n =>
        (n, rules n ++ if name = n then more else []) := by
  induction names with
  | nil =>
    simp [Buckets.extend, hnew]
  | cons n names ih =>
    obtain ⟨hn, hnames⟩ := List.nodup_cons.1 hnames
    by_cases hname : n = name
    · subst hname
      have hothers : ∀ m ∈ names, (m, rules m) = (m, rules m ++ if n = m then more else []) := by
        intro m hm
        have hne : n ≠ m := fun h => hn (h ▸ hm)
        simp [hne]
      simpa [Buckets.extend] using List.map_congr_left hothers
    · have hne : name ≠ n := fun h => hname h.symm
      have ih := ih hnames fun h => hnew (by simp [h, hne])
      simp only [List.map_cons, Buckets.extend, hname, if_false, ih, List.mem_cons, hne, false_or]
      split <;> simp [hne]

/-- The bucket of a name takes the new rules; the others stay as they are. -/
theorem extend_buckets (names : List String) (rules : String → List Rule) (name : String)
    (more : List Rule) (hnew : name ∉ names → rules name = []) :
    (buckets names rules).extend name more =
      buckets (names ++ [name]) fun n => rules n ++ if name = n then more else [] := by
  have hnew' : name ∉ names.eraseDups → rules name = [] := by
    intro h
    exact hnew fun hmem => h (List.mem_eraseDups.2 hmem)
  rw [buckets, buckets, extend_map more (nodup_eraseDups names) hnew', eraseDups_concat]
  simp only [List.mem_eraseDups]

/-- A heading opens a bucket that is empty if it is new. -/
theorem open_bucket (names : List String) (rules : String → List Rule) (name : String)
    (hnew : name ∉ names → rules name = []) :
    (buckets names rules).extend name [] = buckets (names ++ [name]) rules := by
  simpa using extend_buckets names rules name [] hnew

theorem buckets_concat_of_mem (hname : name ∈ names) :
    buckets (names ++ [name]) rules = buckets names rules := by
  rw [buckets, buckets, eraseDups_concat, if_pos hname]

end Buckets

section Places
variable {ls : List (List Char)} {line : List Char} {place : Place} {name : String}

/-- Whether a heading has opened the place. -/
def Place.IsOpen (ls : List (List Char)) : Place → Prop
  | .category name => name ∈ ls.filterMap category?
  | .language name => name ∈ ls.filterMap language?
  | .global => True

theorem Place.IsOpen.concat (line : List Char) (h : place.IsOpen ls) :
    place.IsOpen (ls ++ [line]) := by
  cases place with
  | category name =>
    rw [IsOpen, List.filterMap_append]
    exact List.mem_append_left _ h
  | language name =>
    rw [IsOpen, List.filterMap_append]
    exact List.mem_append_left _ h
  | global => trivial

/-- A rule never goes where no heading has led. -/
theorem isOpen_placeAfter (ls : List (List Char)) : (placeAfter ls).IsOpen ls := by
  unfold placeAfter
  split
  · rename_i name _ hlanguage
    have hmem := List.mem_of_getLast? hlanguage
    exact ((List.rtakeWhile_suffix _ ls).sublist.filterMap language?).mem hmem
  · rename_i name _ hcategory
    exact List.mem_of_getLast? hcategory
  · trivial

theorem filed_concat (place : Place) (ls : List (List Char)) (line : List Char) :
    filed place (ls ++ [line]) =
      filed place ls ++ (if placeAfter ls = place then item? line else none).toList :=
  gather_concat ..

theorem filed_eq_nil (h : ¬ place.IsOpen ls) : filed place ls = [] := by
  induction ls using List.reverseRecOn with
  | nil => rfl
  | append_singleton ls line ih =>
    have hbefore : ¬ place.IsOpen ls := fun hopen => h (hopen.concat line)
    have hplace : placeAfter ls ≠ place := fun hplace => hbefore (hplace ▸ isOpen_placeAfter ls)
    simp [filed_concat, ih hbefore, hplace]

theorem toneLines_concat (ls : List (List Char)) (line : List Char) :
    toneLines (ls ++ [line]) = toneLines ls ++
      (if categoryAfter ls = some RuleReader.toneHeading then plain? line else none).toList :=
  gather_concat ..

theorem categoryAfter_concat (ls : List (List Char)) (line : List Char) :
    categoryAfter (ls ++ [line]) = (category? line).or (categoryAfter ls) := by
  cases hline : category? line <;> simp [categoryAfter, hline]

theorem languageAfter_concat (ls : List (List Char)) (line : List Char) :
    languageAfter (ls ++ [line]) =
      if (category? line).isNone then (language? line).or (languageAfter ls) else none := by
  simp only [languageAfter, List.rtakeWhile_concat]
  split
  · cases hline : language? line <;> simp [hline]
  · rfl

end Places

/-! The reader, described from the lines alone. -/

/-- What the reader knows after the live lines `ls`. -/
def reader (inCode : Bool) (ls : List (List Char)) : RuleReader where
  categories := buckets (ls.filterMap category?) fun name => filed (.category name) ls
  languages := buckets (ls.filterMap language?) fun name => filed (.language name) ls
  global := filed .global ls
  tone := toneLines ls
  category := categoryAfter ls
  language := languageAfter ls
  inCode := inCode

section Lines
variable {line : List Char}

theorem category?_eq_none (h : ∀ rest, line = '#' :: '#' :: ' ' :: rest → False) :
    category? line = none := by
  unfold category?
  split
  · exact (h _ rfl).elim
  · rfl

theorem language?_eq_none (h : ∀ rest, line = '#' :: '#' :: '#' :: ' ' :: rest → False) :
    language? line = none := by
  unfold language?
  split
  · exact (h _ rfl).elim
  · rfl

theorem item?_eq_none (h : ∀ rest, line = '-' :: ' ' :: rest → False) : item? line = none := by
  unfold item?
  split
  · exact (h _ rfl).elim
  · rfl

theorem plain?_eq_some (hheading : ∀ rest, line = '#' :: rest → False)
    (hitem : ∀ rest, line = '-' :: ' ' :: rest → False) :
    plain? line = some (String.ofList line) := by
  unfold plain?
  split
  · exact (hheading _ rfl).elim
  · exact (hitem _ rfl).elim
  · rfl

end Lines

section Steps
variable {inCode : Bool} {ls : List (List Char)} {line : List Char} {rule : Rule}

theorem file_reader (hcategory : category? line = none) (hlanguage : language? line = none)
    (hitem : item? line = some rule) (hplain : plain? line = none) :
    (reader inCode ls).file rule = reader inCode (ls ++ [line]) := by
  have hopen := isOpen_placeAfter ls
  have hfiled : ∀ place, filed place (ls ++ [line]) =
      filed place ls ++ if placeAfter ls = place then [rule] else [] := by
    intro place
    rw [filed_concat, hitem]
    split <;> rfl
  have htone : toneLines (ls ++ [line]) = toneLines ls := by simp [toneLines_concat, hplain]
  have hlast : categoryAfter (ls ++ [line]) = categoryAfter ls := by
    simp [categoryAfter_concat, hcategory]
  have hlast' : languageAfter (ls ++ [line]) = languageAfter ls := by
    simp [languageAfter_concat, hcategory, hlanguage]
  have hcategories : (ls ++ [line]).filterMap category? = ls.filterMap category? := by
    simp [hcategory]
  have hlanguages : (ls ++ [line]).filterMap language? = ls.filterMap language? := by
    simp [hlanguage]
  rw [reader, reader, hcategories, hlanguages, htone, hlast, hlast']
  simp only [hfiled]
  unfold RuleReader.file
  cases hl : languageAfter ls with
  | some name =>
    have hplace : placeAfter ls = .language name := by simp [placeAfter, hl]
    rw [hplace] at hopen
    have hextend := extend_buckets _ (fun n => filed (.language n) ls) name [rule]
      fun h => (h hopen).elim
    simp [hplace, hextend, buckets_concat_of_mem hopen]
  | none =>
    cases hc : categoryAfter ls with
    | some name =>
      have hplace : placeAfter ls = .category name := by simp [placeAfter, hl, hc]
      rw [hplace] at hopen
      have hextend := extend_buckets _ (fun n => filed (.category n) ls) name [rule]
        fun h => (h hopen).elim
      simp [hplace, hextend, buckets_concat_of_mem hopen]
    | none =>
      have hplace : placeAfter ls = .global := by simp [placeAfter, hl, hc]
      simp [hplace]

/-- A line that holds no rule is filed nowhere. -/
theorem filed_concat_of_not_item (hitem : item? line = none) (place : Place) :
    filed place (ls ++ [line]) = filed place ls := by
  rw [filed_concat, hitem]
  simp

theorem reader_concat_of_category {name : String} (hcategory : category? line = some name)
    (hlanguage : language? line = none) (hitem : item? line = none) (hplain : plain? line = none) :
    reader inCode (ls ++ [line]) =
      { reader inCode ls with
        categories := (reader inCode ls).categories.extend name []
        category := some name
        language := none } := by
  have hopen := open_bucket (ls.filterMap category?) (fun n => filed (.category n) ls) name
    fun h => filed_eq_nil h
  simp [reader, hopen, filed_concat_of_not_item hitem, toneLines_concat, categoryAfter_concat,
    languageAfter_concat, hcategory, hlanguage, hplain]

theorem reader_concat_of_language {name : String} (hcategory : category? line = none)
    (hlanguage : language? line = some name) (hitem : item? line = none)
    (hplain : plain? line = none) :
    reader inCode (ls ++ [line]) =
      { reader inCode ls with
        languages := (reader inCode ls).languages.extend name []
        language := some name } := by
  have hopen := open_bucket (ls.filterMap language?) (fun n => filed (.language n) ls) name
    fun h => filed_eq_nil h
  simp [reader, hopen, filed_concat_of_not_item hitem, toneLines_concat, categoryAfter_concat,
    languageAfter_concat, hcategory, hlanguage, hplain]

/-- A line that is neither a heading of a bucket nor an item counts for the tone alone. -/
theorem reader_concat (hcategory : category? line = none) (hlanguage : language? line = none)
    (hitem : item? line = none) :
    reader inCode (ls ++ [line]) =
      { reader inCode ls with tone := toneLines (ls ++ [line]) } := by
  simp [reader, filed_concat_of_not_item hitem, categoryAfter_concat, languageAfter_concat,
    hcategory, hlanguage]

/-- **One line takes what the lines before it say to what the lines with it say.** -/
theorem readLine_reader (inCode : Bool) (ls : List (List Char)) (line : List Char) :
    (reader inCode ls).readLine line = reader inCode (ls ++ [line]) := by
  unfold RuleReader.readLine
  split
  · rw [reader_concat_of_category rfl rfl rfl rfl]
  · rw [reader_concat_of_language rfl rfl rfl rfl]
  · rw [← file_reader rfl rfl rfl rfl]
  · rename_i rest hcategory hlanguage
    have hnone : category? ('#' :: rest) = none :=
      category?_eq_none fun r h => hcategory r (List.cons.inj h).2
    have hnone' : language? ('#' :: rest) = none :=
      language?_eq_none fun r h => hlanguage r (List.cons.inj h).2
    have htone : toneLines (ls ++ ['#' :: rest]) = toneLines ls := by simp [toneLines_concat, plain?]
    rw [reader_concat hnone hnone' rfl, htone]
    rfl
  · rename_i hcategory hlanguage hitem hheading
    rw [reader_concat (category?_eq_none hcategory) (language?_eq_none hlanguage)
      (item?_eq_none hitem), toneLines_concat, plain?_eq_some hheading hitem]
    by_cases htone : categoryAfter ls = some RuleReader.toneHeading
    · simp [reader, htone]
    · simp [reader, htone]

theorem live_concat (ls : List (List Char)) (line : List Char) :
    live (ls ++ [line]) = live ls ++
      (if isFence line = false ∧ ls.countP isFence % 2 = 0 then some line else none).toList :=
  gather_concat ..

/-- What the reader knows after the lines `ls`, fences and fenced code included. -/
def readerAfter (ls : List (List Char)) : RuleReader :=
  reader (decide (ls.countP isFence % 2 = 1)) (live ls)

theorem readerAfter_concat_of_fence (hfence : isFence line = true) :
    readerAfter (ls ++ [line]) =
      { readerAfter ls with inCode := !(readerAfter ls).inCode } := by
  have hlive : live (ls ++ [line]) = live ls := by simp [live_concat, hfence]
  have hcount : (ls ++ [line]).countP isFence = ls.countP isFence + 1 := by simp [hfence]
  have hodd : decide ((ls.countP isFence + 1) % 2 = 1) = !decide (ls.countP isFence % 2 = 1) := by
    rw [← decide_not, decide_eq_decide]
    omega
  rw [readerAfter, hlive, hcount, hodd]
  rfl

theorem readerAfter_concat_of_not_fence (hfence : isFence line = false) :
    readerAfter (ls ++ [line]) =
      if (readerAfter ls).inCode then readerAfter ls else (readerAfter ls).readLine line := by
  have hcount : (ls ++ [line]).countP isFence = ls.countP isFence := by simp [hfence]
  have hcode : (readerAfter ls).inCode = decide (ls.countP isFence % 2 = 1) := rfl
  rw [hcode]
  by_cases hodd : ls.countP isFence % 2 = 1
  · simp [readerAfter, live_concat, hcount, hfence, hodd]
  · have heven : ls.countP isFence % 2 = 0 := by omega
    simp [readerAfter, readLine_reader, live_concat, hcount, hfence, heven]

theorem step_readerAfter (ls : List (List Char)) (raw : List Char) :
    (readerAfter ls).step raw = readerAfter (ls ++ [Text.trim raw].filter (· ≠ [])) := by
  unfold RuleReader.step
  split
  · rename_i hline
    simp [hline]
  · rename_i rest hline
    have hne : [Text.trim raw].filter (· ≠ []) = [Text.trim raw] := by simp [hline]
    have hfence : isFence (Text.trim raw) = true := by rw [hline]; rfl
    rw [hne, readerAfter_concat_of_fence hfence]
  · rename_i hblank hopen
    have hne : [Text.trim raw].filter (· ≠ []) = [Text.trim raw] := by simpa using hblank
    have hfence : isFence (Text.trim raw) = false := by
      unfold isFence
      split
      · exact (hopen _ ‹_›).elim
      · rfl
    rw [hne, readerAfter_concat_of_not_fence hfence]

/-- What the reader knows after a whole document. -/
theorem foldl_step (text : String) :
    (Text.lines text.toList).foldl RuleReader.step {} = readerAfter (lines text) := by
  unfold lines
  induction Text.lines text.toList using List.reverseRecOn with
  | nil => rfl
  | append_singleton raws raw ih =>
    rw [List.foldl_append, List.foldl_cons, List.foldl_nil, ih, step_readerAfter]
    simp

end Steps

/-! Every rule of a document is filed, and none twice. -/

def rulesOf (b : Buckets) : List Rule := b.entries.map (·.2)

theorem rulesOf_extend (name : String) (more : List Rule) (b : Buckets) :
    (rulesOf (b.extend name more)).Perm (rulesOf b ++ more) := by
  rw [rulesOf, rulesOf, Buckets.map_snd_entries, Buckets.map_snd_entries]
  exact Buckets.rulesUnder_extend (fun _ => true) name more b

/-- A rule put into a bucket may as well stand behind the rules that follow the bucket. -/
theorem rulesOf_extend_append (name : String) (rule : Rule) (b : Buckets) (rest : List Rule) :
    (rulesOf (b.extend name [rule]) ++ rest).Perm (rulesOf b ++ (rest ++ [rule])) := by
  have hbucket := (rulesOf_extend name [rule] b).append_right rest
  rw [List.append_assoc] at hbucket
  exact hbucket.trans (List.perm_append_comm.append_left _)

/-- The rules that the reader has filed. -/
def filedRules (r : RuleReader) : List Rule :=
  rulesOf r.categories ++ (rulesOf r.languages ++ r.global)

theorem filedRules_file (r : RuleReader) (rule : Rule) :
    (filedRules (r.file rule)).Perm (filedRules r ++ [rule]) := by
  unfold RuleReader.file
  split
  · simp only [filedRules, List.append_assoc]
    exact (rulesOf_extend_append ..).append_left _
  · simp only [filedRules, List.append_assoc]
    simpa using rulesOf_extend_append _ rule r.categories (rulesOf r.languages ++ r.global)
  · simp [filedRules]

theorem filedRules_readLine (r : RuleReader) (line : List Char) :
    (filedRules (r.readLine line)).Perm (filedRules r ++ (item? line).toList) := by
  unfold RuleReader.readLine
  split
  · simpa [filedRules, item?] using (rulesOf_extend _ [] r.categories).append_right _
  · simpa [filedRules, item?] using ((rulesOf_extend _ [] r.languages).append_right _).append_left _
  · exact filedRules_file r _
  · simp [item?]
  · rename_i hitem _
    rw [item?_eq_none hitem]
    split <;> simp [filedRules]

theorem filedRules_reader (inCode : Bool) (ls : List (List Char)) :
    (filedRules (reader inCode ls)).Perm (ls.filterMap item?) := by
  induction ls using List.reverseRecOn with
  | nil => exact List.Perm.refl _
  | append_singleton ls line ih =>
    rw [← readLine_reader, List.filterMap_append]
    have hline : [line].filterMap item? = (item? line).toList := by
      cases hitem : item? line <;> simp [hitem]
    rw [hline]
    exact (filedRules_readLine _ line).trans (ih.append_right _)

end RuleDocument

namespace RuleSet
open RuleDocument

/-- Every bucket is opened by its heading, in the order of the headings, and holds the rules
whose last heading names it, in the order of the document; every rule is filed once, and the
tone is made of the lines behind its heading. -/
theorem ofDocument_files_rules (text : String) (source : Option String) :
    let ls := live (lines text)
    let set := ofDocument text source
    set.categories = buckets (ls.filterMap category?) (fun name => filed (.category name) ls) ∧
    set.languages = buckets (ls.filterMap language?) (fun name => filed (.language name) ls) ∧
    set.global = filed .global ls ∧
    (set.entries.map (·.2)).Perm (ls.filterMap item?) ∧
    set.tone = Text.join " " (toneLines ls) ∧
    set.source = source := by
  have hset : ofDocument text source = (readerAfter (lines text)).ruleSet source := by
    rw [← foldl_step]
    rfl
  have hrules : (ofDocument text source).entries.map (·.2) =
      filedRules (readerAfter (lines text)) := by
    rw [hset]
    simp [RuleReader.ruleSet, entries, filedRules, rulesOf, Function.comp_def]
  dsimp only
  rw [hrules, hset]
  refine ⟨?_, ?_, ?_, filedRules_reader _ _, ?_, rfl⟩
  all_goals simp only [RuleReader.ruleSet, readerAfter, reader]

/-- A heading may open a bucket again, and a language gives way to the next category. -/
example :
    ((ofDocument "## A\n- a\n### P\n- p\n## B\n- b\n## a\n- c" none).categories.map fun b =>
      (b.1, b.2.map Rule.text)) = [("a", ["a", "c"]), ("b", ["b"])] := by
  decide +kernel

end RuleSet
end PatchReview
