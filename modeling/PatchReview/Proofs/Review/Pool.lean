import Mathlib.Logic.Relation
import PatchReview.Proofs.Review.Collect

/-! Reviews on a pool of workers. Jobs start and finish in any order, and the wait for them ends
when all are done or, if there is a timeout, at any time. What is done by then is collected in the
order of the files; what happens later changes nothing. So a run on a pool has the outcome of a
sequential run on the files whose reviews were done. Where the timeout is longer than any wait can
be, the wait fails unless all jobs are done when it begins, and nothing is collected. -/
namespace PatchReview

inductive JobState where
  | waiting
  | running
  | done (review : FileReview)
  | cancelled

/-- The review of a file as it is handed to the pool. -/
structure Job where
  file : ReviewFile
  state : JobState := .waiting
  /-- The review was done when the wait ended. -/
  inTime : Bool := false

namespace Job

def review? (job : Job) : Option FileReview :=
  match job.state with
  | .done review => some review
  | .waiting | .running | .cancelled => none

def isRunning (job : Job) : Bool :=
  match job.state with
  | .running => true
  | .waiting | .done _ | .cancelled => false

end Job

/-- How the wait for the jobs stands. One that has failed hands over nothing. -/
inductive Wait where
  | lasting
  | over
  | failed

/-- The jobs of a run in the order of the files. -/
structure Pool where
  jobs : List Job
  wait : Wait := .lasting

namespace Pool

def submit (files : List ReviewFile) : Pool := { jobs := files.map fun f => { file := f } }

def running (p : Pool) : Nat := p.jobs.countP (·.isRunning)

/-- The end of the wait: it is noted which jobs are done. -/
def endWait (p : Pool) : Pool where
  jobs := p.jobs.map fun job => { job with inTime := job.review?.isSome }
  wait := .over

/-- What is collected: the reviews that were done when the wait ended. -/
def reviews (p : Pool) : List (Option FileReview) :=
  p.jobs.map fun job => if job.inTime then job.review? else none

/-- The files whose reviews were done when the wait ended, in the order of all files. -/
def finished (p : Pool) : List ReviewFile := (p.jobs.filter (·.inTime)).map (·.file)

def allDone (p : Pool) : Bool := p.jobs.all (·.review?.isSome)

/-- One step of a pool that reviews with `r` and `history` within `limits`. -/
inductive Step (r : Reviewer) (history : AccuracyStore) (limits : ReviewLimits) :
    Pool → Pool → Prop
  | start {before after file inTime wait} :
      (running ⟨before ++ ⟨file, .waiting, inTime⟩ :: after, wait⟩ : Int) < limits.workers →
      Step r history limits ⟨before ++ ⟨file, .waiting, inTime⟩ :: after, wait⟩
        ⟨before ++ ⟨file, .running, inTime⟩ :: after, wait⟩
  | finish {before after file inTime wait} :
      Step r history limits ⟨before ++ ⟨file, .running, inTime⟩ :: after, wait⟩
        ⟨before ++ ⟨file, .done (r.reviewFile history file), inTime⟩ :: after, wait⟩
  | complete {p : Pool} : p.wait = .lasting → p.allDone = true → Step r history limits p p.endWait
  | expire {p : Pool} : p.wait = .lasting → limits.timeout.isSome = true →
      limits.timeoutIsTooLong = false → Step r history limits p p.endWait
  /-- A wait that was to last too long ends before it has begun. -/
  | fail {p : Pool} : p.wait = .lasting → limits.timeoutIsTooLong = true → p.allDone = false →
      Step r history limits p { p with wait := .failed }
  /-- After the wait, what no worker has begun is called off. -/
  | cancel {before after file inTime wait} : wait ≠ .lasting →
      Step r history limits ⟨before ++ ⟨file, .waiting, inTime⟩ :: after, wait⟩
        ⟨before ++ ⟨file, .cancelled, inTime⟩ :: after, wait⟩

/-- The pools that a run can come to from the files that are handed over. -/
def Reaches (r : Reviewer) (history : AccuracyStore) (limits : ReviewLimits)
    (files : List ReviewFile) : Pool → Prop :=
  Relation.ReflTransGen (Step r history limits) (submit files)

/-- What holds of every job: its review is that of its file, and it is done if it was in time. -/
structure JobInvariant (r : Reviewer) (history : AccuracyStore) (job : Job) : Prop where
  review_eq : ∀ review ∈ job.review?, review = r.reviewFile history job.file
  isSome_of_inTime : job.inTime = true → job.review?.isSome = true

structure Invariant (r : Reviewer) (history : AccuracyStore) (limits : ReviewLimits)
    (files : List ReviewFile) (p : Pool) : Prop where
  files_eq : p.jobs.map (·.file) = files
  jobs : ∀ job ∈ p.jobs, JobInvariant r history job
  /-- Only a timeout that is not too long cuts jobs off. -/
  inTime_of_over : p.wait = .over → limits.timeout = none ∨ limits.timeoutIsTooLong = true →
    ∀ job ∈ p.jobs, job.inTime = true
  isTooLong_of_failed : p.wait = .failed → limits.timeoutIsTooLong = true

section
variable {r : Reviewer} {history : AccuracyStore} {limits : ReviewLimits}
variable {files : List ReviewFile} {p p' : Pool}

theorem invariant_submit : Invariant r history limits files (submit files) := by
  refine ⟨?_, ?_, nofun, nofun⟩
  · rw [submit, List.map_map]
    exact List.map_id files
  · intro job hjob
    obtain ⟨f, -, rfl⟩ := List.mem_map.1 hjob
    exact ⟨fun _ hreview => absurd hreview (Option.not_mem_none _),
      fun hin => absurd hin Bool.false_ne_true⟩

/-- A step that changes the state of one job that is not done keeps the invariant if the new state
is right for the file. -/
theorem Invariant.replace {before after : List Job} {file : ReviewFile} {state state' : JobState}
    {inTime : Bool} {wait : Wait}
    (h : Invariant r history limits files ⟨before ++ ⟨file, state, inTime⟩ :: after, wait⟩)
    (hstate : (Job.mk file state inTime).review? = none)
    (hstate' : ∀ review ∈ (Job.mk file state' inTime).review?, review = r.reviewFile history file) :
    Invariant r history limits files ⟨before ++ ⟨file, state', inTime⟩ :: after, wait⟩ := by
  -- A job that is not done was not in time, so nothing is said of its new state.
  have hlate : inTime = false := by
    have hjob := (h.jobs ⟨file, state, inTime⟩ (by simp)).isSome_of_inTime
    rw [hstate] at hjob
    cases inTime with
    | false => rfl
    | true => exact absurd (hjob rfl) (by simp)
  subst hlate
  refine ⟨?_, ?_, ?_, h.isTooLong_of_failed⟩
  · have hfiles := h.files_eq
    simpa only [List.map_append, List.map_cons] using hfiles
  · intro job hjob
    rcases List.mem_append.1 hjob with hjob | hjob
    · exact h.jobs job (List.mem_append_left _ hjob)
    · rcases List.mem_cons.1 hjob with rfl | hjob
      · exact ⟨hstate', fun hin => absurd hin Bool.false_ne_true⟩
      · exact h.jobs job (List.mem_append_right _ (List.mem_cons_of_mem _ hjob))
  · intro hover htimeout
    have hjob := h.inTime_of_over hover htimeout ⟨file, state, false⟩ (by simp)
    cases hjob

/-- The end of the wait keeps the invariant if all jobs are done or there is a timeout that is not
too long. -/
theorem Invariant.endWait (h : Invariant r history limits files p)
    (hend : p.allDone = true ∨ limits.timeout.isSome = true ∧ limits.timeoutIsTooLong = false) :
    Invariant r history limits files p.endWait := by
  refine ⟨?_, ?_, ?_, nofun⟩
  · rw [← h.files_eq, Pool.endWait, List.map_map]
    rfl
  · intro job hjob
    obtain ⟨job₀, hjob₀, rfl⟩ := List.mem_map.1 hjob
    exact ⟨(h.jobs job₀ hjob₀).review_eq, fun hdone => hdone⟩
  · intro _ hlimits job hjob
    obtain ⟨job₀, hjob₀, rfl⟩ := List.mem_map.1 hjob
    rcases hend with hend | ⟨htimeout, hshort⟩
    · exact List.all_eq_true.1 hend job₀ hjob₀
    · rcases hlimits with hnone | hlong
      · rw [hnone] at htimeout
        cases htimeout
      · rw [hshort] at hlong
        cases hlong

theorem Step.invariant (step : Step r history limits p p')
    (h : Invariant r history limits files p) : Invariant r history limits files p' := by
  cases step with
  | start _ => exact h.replace rfl fun _ hreview => by cases hreview
  | finish => exact h.replace rfl fun _ hreview => (Option.some.inj hreview).symm
  | complete _ hdone => exact h.endWait (.inl hdone)
  | expire _ htimeout hshort => exact h.endWait (.inr ⟨htimeout, hshort⟩)
  | fail _ hlong _ => exact ⟨h.files_eq, h.jobs, nofun, fun _ => hlong⟩
  | cancel _ => exact h.replace rfl fun _ hreview => by cases hreview

theorem Reaches.invariant (run : Reaches r history limits files p) :
    Invariant r history limits files p := by
  induction run with
  | refl => exact invariant_submit
  | tail _ step ih => exact step.invariant ih

theorem running_insert (before after : List Job) (job : Job) (wait : Wait) :
    running ⟨before ++ job :: after, wait⟩ =
      running ⟨before ++ after, wait⟩ + if job.isRunning then 1 else 0 := by
  rw [running, running, List.countP_append, List.countP_append, List.countP_cons, Nat.add_assoc]

theorem running_endWait (p : Pool) : p.endWait.running = p.running := by
  rw [running, endWait, List.countP_map]
  rfl

theorem Reaches.running_le (run : Reaches r history limits files p) (h : 0 ≤ limits.workers) :
    (p.running : Int) ≤ limits.workers := by
  induction run with
  | refl =>
      have hnone : (submit files).running = 0 := by
        rw [running, submit, List.countP_map]
        exact List.countP_eq_zero.2 fun f _ => Bool.false_ne_true
      rw [hnone]
      exact h
  | tail _ step ih =>
      cases step with
      | start hfree =>
          rw [running_insert] at hfree ⊢
          simp only [Job.isRunning] at hfree ⊢
          push_cast at hfree ⊢
          omega
      | finish =>
          rw [running_insert] at ih ⊢
          simp only [Job.isRunning] at ih ⊢
          push_cast at ih ⊢
          omega
      | complete _ _ | expire _ _ _ =>
          rw [running_endWait]
          exact ih
      | fail _ _ _ => exact ih
      | cancel _ =>
          rw [running_insert] at ih ⊢
          exact ih

/-- After the wait, what a worker still does or what is called off does not show. -/
theorem Step.reviews_eq_of_ended (step : Step r history limits p p')
    (h : Invariant r history limits files p) (hended : p.wait ≠ .lasting) :
    p'.wait = p.wait ∧ p'.reviews = p.reviews := by
  cases step with
  | start _ =>
      refine ⟨rfl, ?_⟩
      simp [reviews, Job.review?]
  | finish =>
      -- A review that ends now was not in time, so it is not collected.
      rename_i before after file inTime wait
      refine ⟨rfl, ?_⟩
      cases inTime with
      | false => simp [reviews]
      | true =>
          have hdone := (h.jobs ⟨file, .running, true⟩ (by simp)).isSome_of_inTime rfl
          cases hdone
  | complete hlasting _ | expire hlasting _ _ | fail hlasting _ _ =>
      exact absurd hlasting hended
  | cancel _ =>
      refine ⟨rfl, ?_⟩
      simp [reviews, Job.review?]

/-- The end of the wait is final, and what was collected then stays as it is. -/
theorem Reaches.reviews_eq_of_ended (run : Reaches r history limits files p)
    (hended : p.wait ≠ .lasting) (later : Relation.ReflTransGen (Step r history limits) p p') :
    p'.wait = p.wait ∧ p'.reviews = p.reviews := by
  induction later with
  | refl => exact ⟨rfl, rfl⟩
  | tail before step ih =>
      obtain ⟨hwait, hreviews⟩ := ih
      have hinv := Reaches.invariant (run.trans before)
      have h := step.reviews_eq_of_ended hinv (by rwa [hwait])
      exact ⟨h.1.trans hwait, h.2.trans hreviews⟩

theorem step_endWait (hlasting : p.wait = .lasting)
    (hend : p.allDone = true ∨ limits.timeout.isSome = true ∧ limits.timeoutIsTooLong = false) :
    Step r history limits p p.endWait := by
  rcases hend with hdone | ⟨htimeout, hshort⟩
  · exact .complete hlasting hdone
  · exact .expire hlasting htimeout hshort

/-- A wait that lasts can end when all jobs are done, and before that if the timeout permits. -/
theorem exists_over_iff (hlasting : p.wait = .lasting) :
    (∃ p', Step r history limits p p' ∧ p'.wait = .over) ↔
      p.allDone = true ∨ limits.timeout.isSome = true ∧ limits.timeoutIsTooLong = false := by
  constructor
  · rintro ⟨p', step, hover⟩
    cases step with
    | start _ | finish | cancel _ =>
        rw [hlasting] at hover
        cases hover
    | complete _ hdone => exact .inl hdone
    | expire _ htimeout hshort => exact .inr ⟨htimeout, hshort⟩
    | fail _ _ _ => cases hover
  · intro hend
    exact ⟨_, step_endWait hlasting hend, rfl⟩

theorem exists_failed_iff (hlasting : p.wait = .lasting) :
    (∃ p', Step r history limits p p' ∧ p'.wait = .failed) ↔
      limits.timeoutIsTooLong = true ∧ p.allDone = false := by
  constructor
  · rintro ⟨p', step, hfailed⟩
    cases step with
    | start _ | finish | cancel _ =>
        rw [hlasting] at hfailed
        cases hfailed
    | complete _ _ | expire _ _ _ => cases hfailed
    | fail _ hlong hopen => exact ⟨hlong, hopen⟩
  · rintro ⟨hlong, hopen⟩
    exact ⟨_, .fail hlasting hlong hopen, rfl⟩

/-- The files that count as finished are those whose reviews are done when the wait ends. -/
theorem Step.finished_eq (step : Step r history limits p p') (hlasting : p.wait = .lasting)
    (hover : p'.wait = .over) :
    p'.finished = (p.jobs.filter (·.review?.isSome)).map (·.file) := by
  have hend : p.endWait.finished = (p.jobs.filter (·.review?.isSome)).map (·.file) := by
    rw [finished, endWait, List.filter_map, List.map_map]
    rfl
  cases step with
  | start _ | finish | cancel _ =>
      rw [hlasting] at hover
      cases hover
  | complete _ _ | expire _ _ _ => exact hend
  | fail _ _ _ => cases hover

theorem Invariant.reviews_eq_map (h : Invariant r history limits files p) :
    p.reviews = p.jobs.map fun job =>
      if job.inTime then some (r.reviewFile history job.file) else none := by
  refine List.map_congr_left fun job hjob => ?_
  obtain ⟨hreview, hdone⟩ := h.jobs job hjob
  cases hin : job.inTime with
  | false => rfl
  | true =>
      obtain ⟨review, hsome⟩ := Option.isSome_iff_exists.1 (hdone hin)
      rw [if_pos rfl, if_pos rfl, hsome, hreview review hsome]

/-- What is collected are the reviews of the files that were done. -/
theorem Invariant.filterMap_reviews (h : Invariant r history limits files p) :
    p.reviews.filterMap id = p.finished.map (r.reviewFile history) := by
  rw [h.reviews_eq_map, finished, List.map_map, List.filterMap_map]
  generalize p.jobs = jobs
  induction jobs with
  | nil => rfl
  | cons job jobs ih =>
      cases hin : job.inTime with
      | false => simpa [hin] using ih
      | true => simpa [hin] using ih

theorem Invariant.any_isNone_reviews (h : Invariant r history limits files p) :
    p.reviews.any Option.isNone = p.jobs.any (!·.inTime) := by
  rw [h.reviews_eq_map, List.any_map]
  congr 1
  funext job
  cases hin : job.inTime with
  | false => simp [hin]
  | true => simp [hin]

theorem Invariant.collect_reviews (h : Invariant r history limits files p) :
    r.collect p.reviews =
      { r.sequential history p.finished with isPartial := p.jobs.any (!·.inTime) } := by
  rw [Reviewer.collect_eq, h.filterMap_reviews, h.any_isNone_reviews, Reviewer.sequential_eq_collect,
    List.map_map]
  rfl

theorem running_submit (before : List Job) (files : List ReviewFile) (wait : Wait) :
    running ⟨before ++ (submit files).jobs, wait⟩ = running ⟨before, wait⟩ := by
  have hwaiting : (submit files).jobs.countP (·.isRunning) = 0 := by
    rw [submit, List.countP_map]
    exact List.countP_eq_zero.2 fun f _ => Bool.false_ne_true
  rw [running, running, List.countP_append, hwaiting, Nat.add_zero]

/-- The job of a file after a worker had time for the chosen ones. -/
def chosenJob (r : Reviewer) (history : AccuracyStore) (chosen : ReviewFile → Bool)
    (f : ReviewFile) : Job where
  file := f
  state := if chosen f then .done (r.reviewFile history f) else .waiting

theorem isSome_review?_chosenJob (r : Reviewer) (history : AccuracyStore)
    (chosen : ReviewFile → Bool) (f : ReviewFile) :
    (chosenJob r history chosen f).review?.isSome = chosen f := by
  rw [Job.review?, chosenJob]
  cases chosen f <;> rfl

/-- Any choice of files can be done, one after the other, while the others wait. -/
theorem reaches_chosen (hworkers : 1 ≤ limits.workers) (chosen : ReviewFile → Bool)
    (before : List Job) (hidle : running ⟨before, .lasting⟩ = 0) (files : List ReviewFile) :
    Relation.ReflTransGen (Step r history limits) ⟨before ++ (submit files).jobs, .lasting⟩
      ⟨before ++ files.map (chosenJob r history chosen), .lasting⟩ := by
  induction files generalizing before with
  | nil => exact .refl
  | cons f files ih =>
      have hrest := ih (before ++ [chosenJob r history chosen f]) <| by
        rw [running_insert, List.append_nil, hidle, chosenJob, Job.isRunning]
        cases chosen f <;> rfl
      rw [← List.append_cons, ← List.append_cons] at hrest
      rw [chosenJob] at hrest
      rw [List.map_cons, chosenJob]
      cases hchosen : chosen f with
      | true =>
          rw [hchosen] at hrest
          refine .head (.start ?_) (.head .finish hrest)
          have hfree := running_submit before (f :: files) .lasting
          rw [hidle] at hfree
          refine lt_of_eq_of_lt (congrArg Nat.cast hfree) ?_
          exact hworkers
      | false =>
          rw [hchosen] at hrest
          exact hrest

theorem allDone_chosen (chosen : ReviewFile → Bool) (files : List ReviewFile) :
    allDone ⟨files.map (chosenJob r history chosen), .lasting⟩ = files.all chosen := by
  rw [allDone, List.all_map]
  congr 1
  funext f
  exact isSome_review?_chosenJob r history chosen f

/-- A run of a reviewer whose wait returns is one of a pool. -/
theorem exists_reaches_review (hworkers : 1 ≤ limits.workers) (inTime : ReviewFile → Bool)
    (hwait : Reviewer.waitFails limits inTime files = false) :
    ∃ p, Reaches r history limits files p ∧ p.wait = .over ∧
      p.reviews = r.review history (fun f => limits.timeout.isNone || inTime f) files := by
  let chosen : ReviewFile → Bool := fun f => limits.timeout.isNone || inTime f
  have hrun : Reaches r history limits files ⟨files.map (chosenJob r history chosen), .lasting⟩ :=
    reaches_chosen hworkers chosen [] rfl files
  have hend : allDone ⟨files.map (chosenJob r history chosen), .lasting⟩ = true ∨
      limits.timeout.isSome = true ∧ limits.timeoutIsTooLong = false := by
    rw [allDone_chosen]
    cases htimeout : limits.timeout with
    | none => exact .inl (List.all_eq_true.2 fun f _ => by simp only [chosen, htimeout]; rfl)
    | some t =>
        cases hlong : limits.timeoutIsTooLong with
        | false => exact .inr ⟨rfl, rfl⟩
        | true =>
            rw [Reviewer.waitFails, hlong, Bool.true_and, Bool.not_eq_false'] at hwait
            refine .inl (List.all_eq_true.2 fun f hf => ?_)
            exact Bool.or_eq_true_iff.2 (.inr (List.all_eq_true.1 hwait f hf))
  refine ⟨_, hrun.tail (step_endWait rfl hend), rfl, ?_⟩
  rw [reviews, endWait, List.map_map, List.map_map, Reviewer.review]
  refine List.map_congr_left fun f _ => ?_
  cases hf : chosen f with
  | true => simp [chosenJob, Job.review?, hf, chosen]
  | false => simp [chosenJob, Job.review?, hf, chosen]

/-- So is a run whose wait fails: it begins while a file that is late is still waiting. -/
theorem exists_reaches_failed (hworkers : 1 ≤ limits.workers) (inTime : ReviewFile → Bool)
    (hwait : Reviewer.waitFails limits inTime files = true) :
    ∃ p, Reaches r history limits files p ∧ p.wait = .failed := by
  obtain ⟨hlong, hlate⟩ := Bool.and_eq_true_iff.1 hwait
  have hrun : Reaches r history limits files ⟨files.map (chosenJob r history inTime), .lasting⟩ :=
    reaches_chosen hworkers inTime [] rfl files
  have hopen : allDone ⟨files.map (chosenJob r history inTime), .lasting⟩ = false := by
    rw [allDone_chosen, ← Bool.not_eq_true']
    exact hlate
  exact ⟨_, hrun.tail (.fail rfl hlong hopen), rfl⟩

/-- What holds of a pool that is to review files with `r` and `history` within `limits`. -/
structure Conforms (r : Reviewer) (history : AccuracyStore) (limits : ReviewLimits)
    (files : List ReviewFile) (p : Pool) : Prop where
  files_eq : p.jobs.map (·.file) = files
  running_le : (p.running : Int) ≤ limits.workers
  /-- The wait returns only when all reviews are done or its time is up. -/
  returns_iff : p.wait = .lasting → ((∃ p', Step r history limits p p' ∧ p'.wait = .over) ↔
    p.allDone = true ∨ limits.timeout.isSome = true ∧ limits.timeoutIsTooLong = false)
  /-- It fails only if it was to last too long and a review is not done. -/
  fails_iff : p.wait = .lasting → ((∃ p', Step r history limits p p' ∧ p'.wait = .failed) ↔
    limits.timeoutIsTooLong = true ∧ p.allDone = false)
  finished_eq : p.wait = .lasting → ∀ p', Step r history limits p p' → p'.wait = .over →
    p'.finished = (p.jobs.filter (·.review?.isSome)).map (·.file)
  finished_sublist : p.finished.Sublist files
  /-- What a wait that has returned leads to is what a sequential run finds in the finished files. -/
  outcome : p.wait = .over → r.collect p.reviews =
    { r.sequential history p.finished with isPartial := p.jobs.any (!·.inTime) }
  complete : p.wait = .over → limits.timeout = none ∨ limits.timeoutIsTooLong = true →
    (r.collect p.reviews).isPartial = false ∧ p.finished = files
  stable : p.wait ≠ .lasting → ∀ p', Relation.ReflTransGen (Step r history limits) p p' →
    p'.wait = p.wait ∧ p'.reviews = p.reviews

theorem Reaches.conforms (run : Reaches r history limits files p) (hworkers : 1 ≤ limits.workers) :
    Conforms r history limits files p := by
  have h := run.invariant
  refine
    { files_eq := h.files_eq
      running_le := run.running_le (Int.le_trans Int.one_nonneg hworkers)
      returns_iff := exists_over_iff
      fails_iff := exists_failed_iff
      finished_eq := fun hlasting _ step hover => step.finished_eq hlasting hover
      finished_sublist := ?_
      outcome := fun _ => h.collect_reviews
      complete := ?_
      stable := fun hended _ later => run.reviews_eq_of_ended hended later }
  · rw [← h.files_eq]
    exact List.filter_sublist.map _
  · intro hover hlimits
    have hall := h.inTime_of_over hover hlimits
    constructor
    · rw [h.collect_reviews]
      refine List.any_eq_false.2 fun job hjob => ?_
      rw [hall job hjob]
      exact Bool.false_ne_true
    · rw [finished, List.filter_eq_self.2 hall, h.files_eq]

/-- Whatever the order of starts and ends, no more reviews than workers run at once, and whenever the
wait returns, the outcome is that of a sequential run on the files whose reviews were done by then.
The wait returns unless its timeout is too long and a review is not done. All runs of a reviewer are
of this kind: those that come to an outcome and those whose wait fails. -/
theorem collect_reviews_eq_sequential (hworkers : 1 ≤ limits.workers) :
    (∀ p, Reaches r history limits files p → Conforms r history limits files p) ∧
      ∀ (inTime : ReviewFile → Bool) (values : List Value), limits.check = .ok () →
        values.mapM ReviewFile.ofValue? = .ok files →
        if limits.timeoutIsTooLong = true ∧ ∃ f ∈ files, inTime f = false then
          r.run history limits inTime values = .error .wait ∧
            ∃ p, Reaches r history limits files p ∧ p.wait = .failed
        else ∃ run p, r.run history limits inTime values = .ok run ∧
          Reaches r history limits files p ∧ p.wait = .over ∧ run.result = r.collect p.reviews := by
  refine ⟨fun p run => run.conforms hworkers, fun inTime values hlimits hvalues => ?_⟩
  split
  · next hfails =>
    have hwait := Reviewer.waitFails_eq_true_iff.2 hfails
    exact ⟨Reviewer.run_eq_wait hlimits hvalues hwait, exists_reaches_failed hworkers inTime hwait⟩
  · next hreturns =>
    have hwait := Bool.eq_false_iff.2 (mt Reviewer.waitFails_eq_true_iff.1 hreturns)
    obtain ⟨p, hreaches, hover, hreviews⟩ := exists_reaches_review hworkers inTime hwait
    refine ⟨_, p, Reviewer.run_eq_ok.2 ⟨hlimits, files, hvalues, hwait, rfl⟩, hreaches, hover, ?_⟩
    rw [hreviews]
    rfl

/-- Of two files on two workers, the second is done and the first is cut off. -/
theorem collect_reviews_cut_off :
    let r : Reviewer := { rules := {}, detectors := [.secrets] }
    let limits : ReviewLimits := { workers := 2, timeout := some (.whole 1) }
    let a : ReviewFile := { path := "a.py", content := "token = 'a'" }
    let b : ReviewFile := { path := "b.py", content := "token = 'b'" }
    let p : Pool := ⟨[⟨a, .running, false⟩, ⟨b, .done (r.reviewFile {} b), true⟩], .over⟩
    1 ≤ limits.workers ∧ Reaches r {} limits [a, b] p ∧
      r.collect p.reviews = { r.sequential {} [b] with isPartial := true } := by
  intro r limits a b p
  have hworkers : 1 ≤ limits.workers := by decide
  have hreaches : Reaches r {} limits [a, b] p :=
    Relation.ReflTransGen.refl
      |>.tail (@Step.start r {} limits [⟨a, .waiting, false⟩] [] b false .lasting (by decide))
      |>.tail (@Step.start r {} limits [] [⟨b, .running, false⟩] a false .lasting (by decide))
      |>.tail (@Step.finish r {} limits [⟨a, .running, false⟩] [] b false .lasting)
      |>.tail (.expire rfl rfl rfl)
  have hconforms := (collect_reviews_eq_sequential hworkers).1 p hreaches
  exact ⟨hworkers, hreaches, hconforms.outcome rfl⟩

/-- A wait without end fails while a review is running, and then nothing comes of the run. -/
theorem collect_reviews_not_reached :
    let r : Reviewer := { rules := {}, detectors := [.secrets] }
    let limits : ReviewLimits := { workers := 2, timeout := some (.fractional (.infinite false)) }
    let a : ReviewFile := { path := "a.py", content := "token = 'a'" }
    let value : Value := .table [("path", .text "a.py"), ("content", .text "token = 'a'")]
    limits.check = .ok () ∧ ReviewFile.ofValue? value = .ok a ∧
      (∃ p, Reaches r {} limits [a] p ∧ p.jobs = [⟨a, .running, false⟩] ∧ p.wait = .failed ∧
        ∀ p', Relation.ReflTransGen (Step r {} limits) p p' → p'.wait = .failed) ∧
      r.run {} limits (fun _ => false) [value] = .error .wait := by
  intro r limits a value
  have hrunning : Reaches r {} limits [a] ⟨[⟨a, .running, false⟩], .lasting⟩ :=
    Relation.ReflTransGen.refl.tail (@Step.start r {} limits [] [] a false .lasting (by decide))
  have hfailed : Reaches r {} limits [a] ⟨[⟨a, .running, false⟩], .failed⟩ :=
    hrunning.tail (.fail rfl rfl rfl)
  refine ⟨rfl, rfl, ⟨_, hfailed, rfl, rfl, ?_⟩, rfl⟩
  intro p' later
  exact (hfailed.reviews_eq_of_ended nofun later).1

end
end Pool
end PatchReview
