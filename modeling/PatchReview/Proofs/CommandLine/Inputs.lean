import PatchReview.Proofs.CommandLine.Course

/-! The inputs of a review on the command line: the change, the configuration and the rules. What
a review has at hand before it looks at files is told from them alone. -/
namespace PatchReview

section Looking
variable {host host' : Host Id} {path directory : Path}

theorem Host.readText_congr (h : host.look path = host'.look path) :
    host.readText path = host'.readText path := by
  unfold Host.readText
  rw [h]

theorem Git.call_congr {repository : Path} {args : List String}
    (h : host.git args = host'.git args) : call host repository args = call host' repository args := by
  unfold call
  rw [h]

theorem Config.readFile?_congr (h : host.look path = host'.look path) :
    Config.readFile? host path = Config.readFile? host' path := by
  unfold Config.readFile?
  rw [h]

theorem Config.loadFirst_congr {names : List String}
    (h : ∀ name ∈ names, host.look (directory.append (Path.ofString name)) =
      host'.look (directory.append (Path.ofString name))) :
    Config.loadFirst host directory names = Config.loadFirst host' directory names := by
  induction names with
  | nil => rfl
  | cons name names ih =>
    have hname := h name List.mem_cons_self
    have hnames := ih fun n hn => h n (List.mem_cons_of_mem _ hn)
    rw [Config.loadFirst, Config.loadFirst, Config.readFile?_congr hname, hnames]

theorem Config.loadPackage_congr (h : host.look (directory.append (Path.ofString packageFileName)) =
      host'.look (directory.append (Path.ofString packageFileName))) :
    Config.loadPackage host directory = Config.loadPackage host' directory := by
  simp only [Config.loadPackage, Config.readFile?_congr h]

theorem RuleSet.isFile_congr (h : host.look path = host'.look path) :
    RuleSet.isFile host path = RuleSet.isFile host' path := by
  unfold RuleSet.isFile
  rw [h]

theorem RuleSet.readFile_congr (h : host.look path = host'.look path) :
    RuleSet.readFile host path = RuleSet.readFile host' path := by
  unfold RuleSet.readFile
  rw [Host.readText_congr h]

theorem RuleSet.findFile_congr {names : List String}
    (h : ∀ name ∈ names, host.look (directory.append (Path.ofString name)) =
      host'.look (directory.append (Path.ofString name))) :
    RuleSet.findFile host directory names = RuleSet.findFile host' directory names := by
  induction names with
  | nil => rfl
  | cons name names ih =>
    have hname := h name List.mem_cons_self
    have hnames := ih fun n hn => h n (List.mem_cons_of_mem _ hn)
    rw [RuleSet.findFile, RuleSet.findFile, RuleSet.isFile_congr hname, hnames]

theorem RuleSet.exists_name_of_findFile {names : List String} {t t' : Transcript}
    (h : (findFile host directory names).Ends t (some path) t') :
    ∃ name ∈ names, path = directory.append (Path.ofString name) := by
  induction names generalizing t with
  | nil => cases h
  | cons name names ih =>
    obtain ⟨isFile, t₁, -, h⟩ := Task.ends_bind.1 h
    cases isFile with
    | true =>
      obtain ⟨hpath, -⟩ := Task.ends_pure.1 h
      cases hpath
      exact ⟨name, List.mem_cons_self, rfl⟩
    | false =>
      obtain ⟨n, hn, hpath⟩ := ih h
      exact ⟨n, List.mem_cons_of_mem _ hn, hpath⟩

end Looking

namespace CommandLine

/-- The file of rules that is named: the one of the option before the one of the configuration. -/
def namedRules (given : Option Path) (config : Config) : Option Path :=
  match given with
  | some path => some path
  | none => config.rulesFile.map Path.ofString

/-- The files that tell a review what to do. Where none is named, the usual ones do. -/
inductive IsInput (host : Host Id) (o : ReviewOptions) : Path → Prop
  | diff {path : Path} : o.diffFile = some path → IsInput host o path
  | namedConfig {path : Path} : o.setting.config = some path →
    IsInput host o ((Path.resolve host.workingDirectory o.setting.repository).append path)
  | usualConfig {name : String} : o.setting.config = none →
    name ∈ Config.fileNames ++ [Config.packageFileName] →
    IsInput host o
      ((Path.resolve host.workingDirectory o.setting.repository).append (Path.ofString name))
  | namedRules {config : Config} {path : Path} :
    Config.load host o.setting.repository o.setting.config = Except.ok config →
    namedRules o.rules config = some path →
    IsInput host o ((Path.resolve host.workingDirectory o.setting.repository).append path)
  | usualRules {config : Config} {name : String} :
    Config.load host o.setting.repository o.setting.config = Except.ok config →
    namedRules o.rules config = none → name ∈ RuleSet.fileNames →
    IsInput host o
      ((Path.resolve host.workingDirectory o.setting.repository).append (Path.ofString name))

/-- The machines agree on what tells a review what to do and on the change. The files under
review, in the working directory or at a revision, may differ in any way. -/
structure SameInputs (host host' : Host Id) (o : ReviewOptions) : Prop where
  workingDirectory : host.workingDirectory = host'.workingDirectory
  environment : host.environment = host'.environment
  input : host.input = host'.input
  diff (args : List String) : host.git ("diff" :: args) = host'.git ("diff" :: args)
  look {path : Path} : IsInput host o path → host.look path = host'.look path

variable {host host' : Host Id} {o : ReviewOptions} {t t' : Transcript}

theorem diffFile_of_ofOptions {path : Path}
    (h : InputSource.ofOptions o = .ok (.diffFile path)) : o.diffFile = some path := by
  unfold InputSource.ofOptions at h
  split at h
  · cases h
  · cases h
  · cases h
  · rename_i hfile _ _ _
    cases h
    exact hfile
  · cases h
  · cases h
  · cases h

namespace SameInputs
variable (h : SameInputs host host' o)
include h

theorem load_config : Config.load host o.setting.repository o.setting.config =
    Config.load host' o.setting.repository o.setting.config := by
  unfold Config.load
  rw [← h.workingDirectory]
  cases hconfig : o.setting.config with
  | some given =>
    have hgiven := h.look (.namedConfig hconfig)
    dsimp only
    rw [Config.readFile?_congr hgiven]
  | none =>
    have hfirst := Config.loadFirst_congr fun name hname =>
      h.look (.usualConfig hconfig (List.mem_append_left _ hname))
    have hpackage := Config.loadPackage_congr
      (h.look (.usualConfig hconfig (List.mem_append_right _ (List.mem_singleton_self _))))
    dsimp only
    rw [hfirst, hpackage]

theorem loadConfig : loadConfig host o.setting = loadConfig host' o.setting := by
  unfold CommandLine.loadConfig
  rw [h.load_config, h.environment]

theorem load_rules {config : Config}
    (hconfig : Config.load host o.setting.repository o.setting.config = Except.ok config) :
    RuleSet.load host o.setting.repository (namedRules o.rules config) =
      RuleSet.load host' o.setting.repository (namedRules o.rules config) := by
  unfold RuleSet.load
  rw [← h.workingDirectory]
  cases hrules : namedRules o.rules config with
  | some given =>
    have hgiven := h.look (.namedRules hconfig hrules)
    dsimp only
    rw [RuleSet.isFile_congr hgiven, RuleSet.readFile_congr hgiven]
  | none =>
    have hlook : ∀ name ∈ RuleSet.fileNames, _ := fun name hname =>
      h.look (.usualRules hconfig hrules hname)
    dsimp only
    rw [RuleSet.findFile_congr hlook]
    refine Task.bind_congr fun t found t' hfound => ?_
    cases found with
    | some path =>
      obtain ⟨name, hname, rfl⟩ := RuleSet.exists_name_of_findFile hfound
      exact RuleSet.readFile_congr (hlook name hname)
    | none => rfl

theorem loadRules {config : Config}
    (hconfig : Config.load host o.setting.repository o.setting.config = Except.ok config) :
    loadRules host o.setting o.rules config = loadRules host' o.setting o.rules config :=
  congrArg (ExceptT.adapt _) (h.load_rules hconfig)

/-- The change is the same, wherever it comes from. -/
theorem read {source : InputSource} (hsource : InputSource.ofOptions o = .ok source) :
    source.read host o.setting.repository = source.read host' o.setting.repository := by
  cases source with
  | diffFile path =>
    have hlook := h.look (.diff (diffFile_of_ofOptions hsource))
    rw [InputSource.read, InputSource.read, Host.readText_congr hlook]
  | input => rw [InputSource.read, InputSource.read, h.input]
  | gitRange base head =>
    rw [InputSource.read, InputSource.read, Git.diffBetween, Git.diffBetween,
      Git.call_congr (h.diff _)]
  | gitWorkingTree =>
    rw [InputSource.read, InputSource.read, Git.workingTreeDiff, Git.workingTreeDiff,
      Git.call_congr (h.diff _)]

/-- What a review has at hand before it looks at files is told from its inputs. -/
theorem ends_prepare {given : Material} (title body : Option String) (labels : List String)
    (hends : (prepare host o).Ends t given t') :
    (prepare host' { o with title, body, labels }).Ends t given t' := by
  obtain ⟨t₁, t₂, text, hconfig, hplan, hrules, hdetectors, htext, hpatches⟩ :=
    ends_prepare_iff.1 hends
  rw [h.loadRules (ends_loadConfig hconfig)] at hrules
  rw [h.loadConfig] at hconfig
  rw [h.read (ofOptions_eq_ok hplan).1] at htext
  exact ends_prepare_iff.2 ⟨t₁, t₂, text, hconfig, hplan, hrules, hdetectors, htext, hpatches⟩

end SameInputs
end CommandLine
end PatchReview
