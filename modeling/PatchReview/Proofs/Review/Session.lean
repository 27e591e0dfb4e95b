import PatchReview.Proofs.Review.Collect
import PatchReview.Proofs.Score.Tally

/-! Reviews and verdicts in turn. A reviewer and its store are asked for one thing after the other:
to take a verdict, to forget all verdicts, to show the tallies, to review files. Reviews leave the
store as it is, whether they come to an end or not, and see no more of it than the tallies. -/
namespace PatchReview

namespace Reviewer

variable {s s' : AccuracyStore}

theorem lineFindings_congr (r : Reviewer) (h : s.Agrees s') :
    r.lineFindings s = r.lineFindings s' := by
  have hfinding : finding s = finding s' := by
    funext context path line issue
    rw [finding, finding, Confidence.score_congr h]
  funext intent language path line
  rw [lineFindings, lineFindings, hfinding]

/-- Of a store, a review sees the tallies of rules only. -/
theorem run_congr (r : Reviewer) (h : s.Agrees s') : r.run s = r.run s' := by
  have hfile : r.reviewFile s = r.reviewFile s' := by
    funext f
    rw [reviewFile, reviewFile, lineFindings_congr r h]
  have hfiles : r.runFiles s = r.runFiles s' := by
    funext limits inTime files
    rw [runFiles, runFiles, review, review, hfile]
  funext limits inTime values
  rw [run, run, hfiles]

end Reviewer

namespace AccuracyStore

theorem Agrees.record {s s' : AccuracyStore} (h : s.Agrees s') (r : String) (correct : Bool) :
    (s.record r correct).Agrees (s'.record r correct) := by
  intro ruleId
  rw [get?_record, get?_record, h ruleId]

end AccuracyStore

/-- What is asked of a reviewer and its store. -/
inductive Request where
  | feedback (ruleId : String) (correct : Bool)
  | clear
  | snapshot
  | analyze (limits : ReviewLimits) (inTime : ReviewFile → Bool) (files : List Value)

/-- What is handed out and kept. -/
inductive Answer where
  | snapshot (s : AccuracyStore)
  | outcome (o : Except ReviewError ReviewRun)

namespace Request

def apply (s : AccuracyStore) : Request → AccuracyStore
  | .feedback ruleId correct => s.record ruleId correct
  | .clear => s.clear
  | .snapshot | .analyze _ _ _ => s

def answer? (r : Reviewer) (s : AccuracyStore) : Request → Option Answer
  | .feedback _ _ | .clear => none
  | .snapshot => some (.snapshot s)
  | .analyze limits inTime files => some (.outcome (r.run s limits inTime files))

/-- The verdicts that count after a request. -/
def tally (verdicts : List Verdict) : Request → List Verdict
  | .feedback ruleId correct => verdicts ++ [(ruleId, correct)]
  | .clear => []
  | .snapshot | .analyze _ _ _ => verdicts

def verdict? : Request → Option Verdict
  | .feedback ruleId correct => some (ruleId, correct)
  | .clear | .snapshot | .analyze _ _ _ => none

/-- A request that neither forgets verdicts nor uses them. -/
def isIdle : Request → Bool
  | .feedback _ _ | .snapshot => true
  | .clear | .analyze _ _ _ => false

end Request

def Answer.outcome? : Answer → Option (Except ReviewError ReviewRun)
  | .snapshot _ => none
  | .outcome o => some o

namespace Session
open scoped List

def store (s : AccuracyStore) (requests : List Request) : AccuracyStore :=
  requests.foldl Request.apply s

def answers (r : Reviewer) (s : AccuracyStore) : List Request → List Answer
  | [] => []
  | q :: rest => (q.answer? r s).toList ++ answers r (q.apply s) rest

/-- The verdicts since the last request to forget them. -/
def verdicts (requests : List Request) : List Verdict := requests.foldl Request.tally []

def outcomes (r : Reviewer) (s : AccuracyStore) (requests : List Request) :
    List (Except ReviewError ReviewRun) :=
  (answers r s requests).filterMap Answer.outcome?

variable {r : Reviewer} {s s' : AccuracyStore}

theorem store_append (s : AccuracyStore) (requests more : List Request) :
    store s (requests ++ more) = store (store s requests) more :=
  List.foldl_append

theorem answers_append (r : Reviewer) (s : AccuracyStore) (requests more : List Request) :
    answers r s (requests ++ more) = answers r s requests ++ answers r (store s requests) more := by
  induction requests generalizing s with
  | nil => rfl
  | cons q requests ih =>
      rw [List.cons_append, answers, answers, ih, List.append_assoc]
      rfl

theorem outcomes_append (r : Reviewer) (s : AccuracyStore) (requests more : List Request) :
    outcomes r s (requests ++ more) =
      outcomes r s requests ++ outcomes r (store s requests) more := by
  rw [outcomes, answers_append, List.filterMap_append]
  rfl

theorem tallies_apply {verdicts : List Verdict} (h : s.Tallies verdicts) (q : Request) :
    (q.apply s).Tallies (q.tally verdicts) := by
  cases q with
  | feedback ruleId correct => exact h.record ruleId correct
  | clear => exact s.tallies_clear
  | snapshot => exact h
  | analyze _ _ _ => exact h

/-- The store is the tally of the verdicts since the last request to forget them. -/
theorem tallies_store (requests : List Request) :
    (store {} requests).Tallies (verdicts requests) := by
  have hfold : ∀ (s : AccuracyStore) (old : List Verdict), s.Tallies old →
      (store s requests).Tallies (requests.foldl Request.tally old) := by
    induction requests with
    | nil => exact fun _ _ h => h
    | cons q requests ih => exact fun s old h => ih (q.apply s) (q.tally old) (tallies_apply h q)
  exact hfold {} [] (AccuracyStore.tallies_clear {})

theorem agrees_apply (h : s.Agrees s') (q : Request) : (q.apply s).Agrees (q.apply s') := by
  cases q with
  | feedback ruleId correct => exact h.record ruleId correct
  | clear => exact fun _ => rfl
  | snapshot => exact h
  | analyze _ _ _ => exact h

/-- Stores that agree are told apart by no review. -/
theorem outcomes_congr (h : s.Agrees s') (requests : List Request) :
    outcomes r s requests = outcomes r s' requests := by
  induction requests generalizing s s' with
  | nil => rfl
  | cons q requests ih =>
      have hrest := ih (agrees_apply h q)
      unfold outcomes at hrest ⊢
      rw [answers, answers, List.filterMap_append, List.filterMap_append, hrest]
      congr 1
      cases q with
      | feedback _ _ => rfl
      | clear => rfl
      | snapshot => rfl
      | analyze limits inTime files =>
          rw [Request.answer?, Request.answer?, r.run_congr h]

theorem outcomes_idle {requests : List Request} (h : ∀ q ∈ requests, q.isIdle = true) :
    outcomes r s requests = [] := by
  induction requests generalizing s with
  | nil => rfl
  | cons q requests ih =>
      obtain ⟨hq, hrest⟩ := List.forall_mem_cons.1 h
      have hnone : (q.answer? r s).toList.filterMap Answer.outcome? = [] := by
        cases q with
        | feedback _ _ | snapshot => rfl
        | clear | analyze _ _ _ => cases hq
      rw [outcomes, answers, List.filterMap_append, hnone]
      exact ih hrest

theorem foldl_tally_idle {requests : List Request} (h : ∀ q ∈ requests, q.isIdle = true)
    (old : List Verdict) :
    requests.foldl Request.tally old = old ++ requests.filterMap Request.verdict? := by
  induction requests generalizing old with
  | nil => exact (List.append_nil old).symm
  | cons q requests ih =>
      obtain ⟨hq, hrest⟩ := List.forall_mem_cons.1 h
      rw [List.foldl_cons, ih hrest]
      cases q with
      | feedback _ _ => exact List.append_assoc _ _ _
      | snapshot => rfl
      | clear | analyze _ _ _ => cases hq

/-- A run of idle requests has no outcome. -/
theorem outcomes_append_idle (r : Reviewer) (before : List Request) {idle : List Request}
    (h : ∀ q ∈ idle, q.isIdle = true) (after : List Request) :
    outcomes r {} (before ++ (idle ++ after)) =
      outcomes r {} before ++ outcomes r (store {} (before ++ idle)) after := by
  rw [outcomes_append, outcomes_append, outcomes_idle h, List.nil_append, store_append]

/-- Two verdicts change places, with idle requests between them. -/
theorem agrees_swap (before : List Request) {between : List Request}
    (h : ∀ q ∈ between, q.isIdle = true) (v w : Verdict) :
    (store {} (before ++ .feedback v.1 v.2 :: (between ++ [.feedback w.1 w.2]))).Agrees
      (store {} (before ++ .feedback w.1 w.2 :: (between ++ [.feedback v.1 v.2]))) := by
  have hverdicts : ∀ v w : Verdict,
      verdicts (before ++ .feedback v.1 v.2 :: (between ++ [.feedback w.1 w.2])) =
        verdicts before ++ v :: (between.filterMap Request.verdict? ++ [w]) := by
    intro v w
    rw [verdicts, List.foldl_append, List.foldl_cons, List.foldl_append, foldl_tally_idle h]
    simp [Request.tally, verdicts]
  refine (tallies_store _).agrees (tallies_store _) ?_
  rw [hverdicts, hverdicts]
  refine List.Perm.append_left _ ?_
  calc v :: (between.filterMap Request.verdict? ++ [w])
    _ ~ v :: w :: between.filterMap Request.verdict? := (List.perm_append_singleton w _).cons v
    _ ~ w :: v :: between.filterMap Request.verdict? := .swap w v _
    _ ~ w :: (between.filterMap Request.verdict? ++ [v]) :=
      (List.perm_append_singleton v _).symm.cons w

theorem outcomes_swap (r : Reviewer) (before : List Request) {between : List Request}
    (h : ∀ q ∈ between, q.isIdle = true) (after : List Request) (v w : Verdict) :
    outcomes r {} (before ++ .feedback v.1 v.2 :: (between ++ .feedback w.1 w.2 :: after)) =
      outcomes r {} (before ++ .feedback w.1 w.2 :: (between ++ .feedback v.1 v.2 :: after)) := by
  -- The two verdicts and what is between them are idle as a whole, so only `after` has outcomes.
  have hsplit : ∀ v w : Verdict,
      outcomes r {} (before ++ .feedback v.1 v.2 :: (between ++ .feedback w.1 w.2 :: after)) =
        outcomes r {} before ++ outcomes r
          (store {} (before ++ .feedback v.1 v.2 :: (between ++ [.feedback w.1 w.2]))) after := by
    intro v w
    have hidle : ∀ q ∈ Request.feedback v.1 v.2 :: (between ++ [.feedback w.1 w.2]),
        q.isIdle = true := by
      simp only [List.forall_mem_cons, List.forall_mem_append]
      exact ⟨rfl, h, rfl, List.forall_mem_nil _⟩
    rw [← outcomes_append_idle r before hidle, List.cons_append, List.append_cons between]
  rw [hsplit, hsplit, outcomes_congr (agrees_swap before h v w)]

/-- The store is the tally of the verdicts since they were last forgotten, and nothing that was
handed out changes. A review answers what it answers with any store of these tallies. So two
verdicts may change places unless verdicts are forgotten or used between them, and a review, be it
refused or not, leaves all later answers as they are without it. -/
theorem answers_follow_tallies (r : Reviewer) :
    (∀ requests, (store {} requests).Tallies (verdicts requests)) ∧
    (∀ requests more, answers r {} requests <+: answers r {} (requests ++ more)) ∧
    (∀ requests, answers r {} (requests ++ [.snapshot]) =
      answers r {} requests ++ [.snapshot (store {} requests)]) ∧
    (∀ requests limits inTime files, ∀ fresh : AccuracyStore, fresh.Tallies (verdicts requests) →
      answers r {} (requests ++ [.analyze limits inTime files]) =
        answers r {} requests ++ [.outcome (r.run fresh limits inTime files)]) ∧
    (∀ before between after, ∀ v w : Verdict, (∀ q ∈ between, q.isIdle = true) →
      outcomes r {} (before ++ .feedback v.1 v.2 :: (between ++ .feedback w.1 w.2 :: after)) =
        outcomes r {} (before ++ .feedback w.1 w.2 :: (between ++ .feedback v.1 v.2 :: after))) ∧
    (∀ before after limits inTime files, ∃ later,
      answers r {} (before ++ after) = answers r {} before ++ later ∧
      answers r {} (before ++ .analyze limits inTime files :: after) =
        answers r {} before ++ .outcome (r.run (store {} before) limits inTime files) :: later) := by
  refine ⟨tallies_store, ?_, ?_, ?_, ?_, ?_⟩
  · intro requests more
    rw [answers_append]
    exact List.prefix_append _ _
  · intro requests
    rw [answers_append]
    rfl
  · intro requests limits inTime files fresh hfresh
    rw [answers_append, r.run_congr (hfresh.agrees (tallies_store requests) (.refl _))]
    rfl
  · exact fun before between after v w hidle => outcomes_swap r before hidle after v w
  · intro before after limits inTime files
    refine ⟨answers r (store {} before) after, answers_append r {} before after, ?_⟩
    rw [answers_append]
    rfl

/-- Two verdicts on two rules change places around a look at the store, and a store that took them
by itself answers in place of it. They move the findings of the file that is reviewed. -/
theorem answers_follow_tallies_of_two_rules :
    let r : Reviewer := { rules := {}, detectors := [.secrets, .dangerous] }
    let right : Verdict := ("hardcoded-secrets", true)
    let wrong : Verdict := ("dangerous-eval", false)
    let lines : List Value := [.table [("line", .int 1), ("content", .text "token = 'x'")],
      .table [("line", .int 2), ("content", .text "eval(y)")]]
    let files : List Value := [.table [("path", .text "app.js"), ("changed_lines", .list lines)]]
    let f : ReviewFile :=
      { path := "app.js", changed := some [⟨1, "token = 'x'"⟩, ⟨2, "eval(y)"⟩] }
    let scores (history : AccuracyStore) : List Int :=
      (r.reviewFile history f).findings.map (·.confidence)
    outcomes r {} [.feedback right.1 right.2, .snapshot, .feedback wrong.1 wrong.2,
        .analyze {} (fun _ => true) files] =
      outcomes r {} [.feedback wrong.1 wrong.2, .snapshot, .feedback right.1 right.2,
        .analyze {} (fun _ => true) files] ∧
    answers r {} ([.feedback right.1 right.2, .feedback wrong.1 wrong.2] ++
        [.analyze {} (fun _ => true) files]) =
      [.outcome (r.run (.ofVerdicts [right, wrong]) {} (fun _ => true) files)] ∧
    files.mapM ReviewFile.ofValue? = .ok [f] ∧
      scores {} = [86, 78] ∧ scores (.ofVerdicts [right, wrong]) = [88, 68] := by
  intro r right wrong lines files f scores
  obtain ⟨-, -, -, hfresh, hswap, -⟩ := answers_follow_tallies r
  refine ⟨?_, ?_, rfl, by decide +kernel, by decide +kernel⟩
  · exact hswap [] [.snapshot] [.analyze {} (fun _ => true) files] right wrong
      (List.forall_mem_singleton.2 rfl)
  · exact hfresh [.feedback right.1 right.2, .feedback wrong.1 wrong.2] {} (fun _ => true) files
      (.ofVerdicts [right, wrong]) (AccuracyStore.tallies_ofVerdicts [right, wrong])

/-- If verdicts are forgotten between them, two verdicts on one rule may not change places: only the
later one counts. -/
theorem outcomes_ne_of_clear :
    let r : Reviewer := { rules := {}, detectors := [.secrets] }
    let analyze : Request := .analyze {} (fun _ => true) [.table [("path", .text "app.py"),
      ("changed_lines", .list [.table [("line", .int 1), ("content", .text "token = 'x'")]])]]
    let right : Request := .feedback "hardcoded-secrets" true
    let wrong : Request := .feedback "hardcoded-secrets" false
    outcomes r {} [analyze, wrong, .clear, right, analyze] ≠
      outcomes r {} [analyze, right, .clear, wrong, analyze] := by
  intro r analyze right wrong heq
  let f : ReviewFile := { path := "app.py", changed := some [⟨1, "token = 'x'"⟩] }
  let context : ScoreContext := .ofFile (.classify f.path f.content) (Language.ofPath f.path)
  let issue : Issue := Secrets.leaks[2].issue
  have hissues : ∀ line : LineContext, line.content = "token = 'x'" →
      Secrets.detect line = [issue] := by
    intro line hline
    rw [Secrets.detect, hline]
    rfl
  have hfindings : ∀ s : AccuracyStore,
      (r.sequential s [f]).findings = [Reviewer.finding s context f.path 1 issue] := by
    intro s
    refine List.perm_singleton.1 ((r.findings_sequential_perm s [f]).trans (.of_eq ?_))
    simp only [List.flatMap_singleton, Reviewer.reviewFile, ReviewFile.linesUnderReview, f, r,
      Option.getD_some, Reviewer.lineFindings, Detector.detect, hissues, List.map_singleton]
    rfl
  have hsame : r.sequential (store {} [wrong, .clear, right]) [f] =
      r.sequential (store {} [right, .clear, wrong]) [f] :=
    congrArg ReviewRun.result (Except.ok.inj (List.cons.inj (List.cons.inj heq).2).1)
  have hscores := congrArg (fun result => result.findings.map (·.confidence)) hsame
  rw [hfindings, hfindings] at hscores
  exact absurd hscores (by decide +kernel)

end Session
end PatchReview
