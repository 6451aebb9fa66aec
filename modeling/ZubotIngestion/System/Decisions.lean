import ZubotIngestion.Services.SoloRun
import ZubotIngestion.System.Records

/-!
# Review decisions

The guard of a decision looks at the tier of the job it has loaded, and a decision leaves the tier
alone. So a review-tier job can be decided again and again: every request succeeds and the last
write stands. A job of another tier cannot be decided at all.

## Main definitions

* `AtMostOneDecision`: at most one decision about a job succeeds.
* `decideAll`: decisions one after the other.

## Main results

* `decisions_follow_tier`: when a decision request writes, and what a sequence of them does.
-/

namespace ZubotIngestion

open Effects Store

/-- A decision about a job that was answered with status 200. -/
def Succeeded (th : Serving) (parsedId : JobId) : Prop :=
  ∃ jobId d response, th.request = .decide jobId d ∧ jobId.uuid? = some parsedId ∧
    th.outcome? = some (.ok (.decided response))

/-- At most one decision about a job succeeds. -/
def AtMostOneDecision (P : System) : Prop :=
  ∀ parsedId (i j : ℕ) th th', P.threads[i]? = some th → P.threads[j]? = some th' →
    Succeeded th parsedId → Succeeded th' parsedId → i = j

/-! ### Decisions in sequence -/

/-- Decisions about one job, one after the other. -/
def decideAll (jobId : PathJobId) :
    List Decision → Prog (List (Except PyException ReviewResponse))
  | [] => return []
  | d :: decisions => do
    let reply ← (d.run jobId).attempt
    let replies ← decideAll jobId decisions
    return reply :: replies

/-- No call fails. -/
def Faultless (envs : ℕ → Env) : Prop := ∀ n op, (envs n).fault? op = none

theorem Faultless.shift {envs : ℕ → Env} (h : Faultless envs) (k : ℕ) :
    Faultless fun n => envs (n + k) :=
  fun n op => h (n + k) op

/-- A call of a run without failures. -/
theorem runEach_perform_of_faultless {envs : ℕ → Env} (h : Faultless envs) (op : Op) (w : World) :
    runEach (perform op) w envs =
      ((effect (envs 0) op w).1, (effect (envs 0) op w).2, fun n => envs (n + 1)) := by
  have hanswer : answer (envs 0) op w = effect (envs 0) op w := by
    unfold answer
    split_ifs
    · rfl
    · rw [h 0 op]
  rw [runEach_perform, hanswer]

section Sequence

variable {jobId : PathJobId} {parsedId : JobId} {w : World} {row : JobRow} {envs : ℕ → Env}

theorem runEach_getJob (henvs : Faultless envs) (hrow : w.jobs.find? parsedId = some row) :
    runEach (perform (.getJob parsedId)) w envs =
      (.ok (some (toJob row)), w, fun n => envs (n + 1)) := by
  have hget : getJob w.jobs.table parsedId = some (toJob row) := congrArg (Option.map toJob) hrow
  rw [runEach_perform_of_faultless henvs, ← hget]
  rfl

/-- The update a decision commits to a row. -/
def decisionUpdate (d : Decision) (row : JobRow) (reviewedAt : String) (now : Timestamp) :
    JobUpdate :=
  .updateStatus d.status (d.blob? (toJob row) reviewedAt) d.message? now

/-- The write of a decision and the lookup behind it. -/
theorem runEach_decide (hrow : w.jobs.find? parsedId = some row) (henvs : Faultless envs)
    (d : Decision) (reviewedAt : String) :
    runEach (do
        perform (d.update parsedId (toJob row) reviewedAt)
        perform (.getJob parsedId)) w envs =
      (.ok (some (toJob ((decisionUpdate d row reviewedAt (envs 0).now).apply row))),
        w.update parsedId (decisionUpdate d row reviewedAt (envs 0).now),
        fun n => envs (n + 2)) := by
  have hfind : (w.update parsedId (decisionUpdate d row reviewedAt (envs 0).now)).jobs.find?
      parsedId = some ((decisionUpdate d row reviewedAt (envs 0).now).apply row) := by
    have hwrite := w.jobs.find?_write_self parsedId (decisionUpdate d row reviewedAt (envs 0).now)
    rw [hrow] at hwrite
    exact hwrite
  refine (runEach_bind_ok (runEach_perform_of_faultless henvs
    (d.update parsedId (toJob row) reviewedAt) w) _).trans ?_
  exact runEach_getJob (henvs.shift 1) hfind

/-- A decision about a job of another tier is refused. -/
theorem runEach_decision_refused (hid : jobId.uuid? = some parsedId)
    (hrow : w.jobs.find? parsedId = some row) (htier : row.confidenceTier ≠ some .review)
    (henvs : Faultless envs) (d : Decision) :
    runEach (d.run jobId) w envs =
      (.error (.http 409 (notInReviewTier (toJob row) jobId)), w, fun n => envs (n + 1)) := by
  have hcheck : ensureReviewTier (toJob row) jobId =
      .raise (.http 409 (notInReviewTier (toJob row) jobId)) :=
    if_pos (show (toJob row).confidenceTier ≠ some .review from htier)
  have hreviewed : runEach (reviewedJob jobId parsedId) w envs =
      (.error (.http 409 (notInReviewTier (toJob row) jobId)), w, fun n => envs (n + 1)) := by
    refine (runEach_bind_ok (runEach_getJob henvs hrow) _).trans ?_
    dsimp only
    rw [hcheck]
    rfl
  cases d with
  | approve body =>
    rw [Decision.run, approveReview, parseJobId, hid]
    exact runEach_bind_error (runEach_bind_error (runEach_bind_error hreviewed _) _) _
  | reject body =>
    rw [Decision.run, rejectReview, parseJobId, hid]
    exact runEach_bind_error (runEach_bind_error (runEach_bind_error hreviewed _) _) _

/-- A decision about a review-tier job takes effect. -/
theorem runEach_decision (hid : jobId.uuid? = some parsedId)
    (hrow : w.jobs.find? parsedId = some row) (htier : row.confidenceTier = some .review)
    (henvs : Faultless envs) (d : Decision) :
    ∃ reviewedAt now n response, runEach (d.run jobId) w envs = (.ok response, w.update parsedId
        (decisionUpdate d row reviewedAt now), fun m => envs (m + n)) := by
  have hcheck : ensureReviewTier (toJob row) jobId = .ret () :=
    if_neg (not_not.mpr (show (toJob row).confidenceTier = some .review from htier))
  have hreviewed : runEach (reviewedJob jobId parsedId) w envs =
      (.ok (toJob row), w, fun n => envs (n + 1)) := by
    refine (runEach_bind_ok (runEach_getJob henvs hrow) _).trans ?_
    dsimp only
    rw [hcheck]
    rfl
  have hsession : ∀ reviewedAt now n (body : Prog (Option Job)),
      runEach body w envs = (.ok (some (toJob ((decisionUpdate d row reviewedAt now).apply row))),
        w.update parsedId (decisionUpdate d row reviewedAt now), fun m => envs (m + n)) →
      ∃ reviewedAt now n response, runEach (withSession body >>= respond jobId) w envs =
        (.ok response, w.update parsedId (decisionUpdate d row reviewedAt now),
          fun m => envs (m + n)) := by
    intro reviewedAt now n body hbody
    refine ⟨reviewedAt, now, n + 1,
      ⟨toJob ((decisionUpdate d row reviewedAt now).apply row)⟩, ?_⟩
    have hcommit := runEach_perform_of_faultless (henvs.shift n) .sessionCommit
      (w.update parsedId (decisionUpdate d row reviewedAt now))
    have hshift : (fun m => envs (m + 1 + n)) = fun m => envs (m + (n + 1)) :=
      funext fun m => congrArg envs (by omega)
    have hscope : runEach (withSession body) w envs =
        (.ok (some (toJob ((decisionUpdate d row reviewedAt now).apply row))),
          w.update parsedId (decisionUpdate d row reviewedAt now),
          fun m => envs (m + (n + 1))) := by
      rw [← hshift]
      exact (runEach_bind_ok hbody _).trans (runEach_bind_ok hcommit _)
    rw [runEach_bind_ok hscope (respond jobId)]
    rfl
  cases d with
  | approve body =>
    rw [Decision.run, approveReview, parseJobId, hid]
    refine hsession (envs 1).nowIsoformat (envs 2).now 4 _ ?_
    refine (runEach_bind_ok hreviewed _).trans ?_
    have hnow := runEach_perform_of_faultless (henvs.shift 1) .nowIsoformat w
    refine (runEach_bind_ok hnow _).trans ?_
    exact runEach_decide hrow (henvs.shift 2) (.approve body) (envs 1).nowIsoformat
  | reject body =>
    rw [Decision.run, rejectReview, parseJobId, hid]
    refine hsession "" (envs 1).now 3 _ ?_
    refine (runEach_bind_ok hreviewed _).trans ?_
    exact runEach_decide hrow (henvs.shift 1) (.reject body) ""

/-- Decisions about a job of another tier are all refused, and nothing changes. -/
theorem runEach_decideAll_refused (hid : jobId.uuid? = some parsedId)
    (hrow : w.jobs.find? parsedId = some row) (htier : row.confidenceTier ≠ some .review)
    (henvs : Faultless envs) (decisions : List Decision) :
    ∃ envs', runEach (decideAll jobId decisions) w envs =
      (.ok (decisions.map fun _ => .error (.http 409 (notInReviewTier (toJob row) jobId))), w,
        envs') := by
  induction decisions generalizing envs with
  | nil => exact ⟨envs, rfl⟩
  | cons d decisions ih =>
    obtain ⟨envs', hrest⟩ := ih (henvs.shift 1)
    have hfirst := runEach_attempt (d.run jobId) w envs
    rw [runEach_decision_refused hid hrow htier henvs d] at hfirst
    refine ⟨envs', (runEach_bind_ok hfirst _).trans ?_⟩
    exact (runEach_bind_ok hrest _).trans rfl

/-- Decisions about a review-tier job all succeed. The tier stays, and the row shows the last
decision. -/
theorem runEach_decideAll (hid : jobId.uuid? = some parsedId)
    (hrow : w.jobs.find? parsedId = some row) (htier : row.confidenceTier = some .review)
    (henvs : Faultless envs) (decisions : List Decision) :
    ∃ (responses : List ReviewResponse) (w' : World) (envs' : ℕ → Env) (row' : JobRow),
      runEach (decideAll jobId decisions) w envs = (.ok (responses.map .ok), w', envs') ∧
      responses.length = decisions.length ∧
      w'.jobs.find? parsedId = some row' ∧ row'.confidenceTier = some .review ∧
      ∀ d, decisions.getLast? = some d → ∃ row₀ reviewedAt now,
        row' = (decisionUpdate d row₀ reviewedAt now).apply row₀ := by
  induction decisions generalizing w row envs with
  | nil => exact ⟨[], w, envs, row, rfl, rfl, hrow, htier, fun _ h => nomatch h⟩
  | cons d decisions ih =>
    obtain ⟨reviewedAt, now, n, response, hdecision⟩ := runEach_decision hid hrow htier henvs d
    have hwritten : (w.update parsedId (decisionUpdate d row reviewedAt now)).jobs.find? parsedId =
        some ((decisionUpdate d row reviewedAt now).apply row) := by
      have hwrite := w.jobs.find?_write_self parsedId (decisionUpdate d row reviewedAt now)
      rw [hrow] at hwrite
      exact hwrite
    obtain ⟨responses, w', envs', row', hrest, hlength, hrow', htier', hlast⟩ :=
      ih hwritten htier (henvs.shift n)
    have hfirst := runEach_attempt (d.run jobId) w envs
    rw [hdecision] at hfirst
    refine ⟨response :: responses, w', envs', row', ?_, ?_, hrow', htier', fun d' hd' => ?_⟩
    · refine (runEach_bind_ok hfirst _).trans ?_
      exact (runEach_bind_ok hrest _).trans rfl
    · rw [List.length_cons, List.length_cons, hlength]
    · rcases List.eq_nil_or_concat decisions with rfl | ⟨front, last, rfl⟩
      · obtain rfl : d = d' := Option.some.inj hd'
        have hw' : w.update parsedId (decisionUpdate d row reviewedAt now) = w' :=
          congrArg (fun run => run.2.1) hrest
        rw [← hw', hwritten] at hrow'
        exact ⟨row, reviewedAt, now, (Option.some.inj hrow').symm⟩
      · rw [List.concat_eq_append, ← List.cons_append, List.getLast?_concat] at hd'
        refine hlast d' ?_
        rw [List.concat_eq_append, List.getLast?_concat]
        exact hd'

end Sequence

/-! ### Decisions in any interleaving -/

/-- A decision request follows the tier of the job it has loaded, and nothing else:

* it writes at most once, the decision about a job of the review tier that it has loaded before;
* on a job of another tier it does not write, and answers 409;
* if it answers 200, its decision is in the history of the row;
* in a sequence of decisions, those about a review-tier job all answer 200, whatever its status,
  leave the tier alone, and the last one stands; those about another job all answer 409 and change
  nothing. -/
theorem decisions_follow_tier (settings : Settings) (sha256 : Bytes → FileHash)
    (moves : List SystemMove) :
    (∀ th ∈ (reached settings sha256 moves).threads, ∀ jobId d, th.request = .decide jobId d →
      (∀ pre c post, th.trace = pre ++ c :: post → c.1.isUpdate = true → updatesOf pre = [] ∧
        ∃ parsedId job reviewedAt, jobId.uuid? = some parsedId ∧
          ⟨.getJob parsedId, .ok (some job)⟩ ∈ pre ∧ job.confidenceTier = some .review ∧
          c.1 = d.update parsedId job reviewedAt) ∧
      (∀ outcome parsedId job rest, th.outcome? = some outcome → jobId.uuid? = some parsedId →
        th.trace = ⟨.getJob parsedId, .ok (some job)⟩ :: rest →
        job.confidenceTier ≠ some .review →
          rest = [] ∧ outcome = .error (.http 409 (notInReviewTier job jobId))) ∧
      (∀ response, th.outcome? = some (.ok (.decided response)) →
        ∃ parsedId job reviewedAt h now, jobId.uuid? = some parsedId ∧
          (reached settings sha256 moves).state.jobs.history? parsedId = some h ∧
          .updateStatus d.status (d.blob? job reviewedAt) d.message? now ∈ h.writes)) ∧
    ∀ (jobId : PathJobId) parsedId (w : World) row envs decisions,
      jobId.uuid? = some parsedId → w.jobs.find? parsedId = some row → Faultless envs →
      (row.confidenceTier = some .review →
        ∃ (responses : List ReviewResponse) (w' : World) (envs' : ℕ → Env) (row' : JobRow),
          runEach (decideAll jobId decisions) w envs = (.ok (responses.map .ok), w', envs') ∧
          responses.length = decisions.length ∧ w'.jobs.find? parsedId = some row' ∧
          row'.confidenceTier = some .review ∧
          ∀ d, decisions.getLast? = some d → ∃ row₀ reviewedAt now,
            row' = (decisionUpdate d row₀ reviewedAt now).apply row₀) ∧
      (row.confidenceTier ≠ some .review →
        ∃ envs', runEach (decideAll jobId decisions) w envs =
          (.ok (decisions.map fun _ => .error (.http 409 (notInReviewTier (toJob row) jobId))), w,
            envs')) := by
  have hsound := reached_sound settings sha256 moves
  refine ⟨fun th hth jobId d hrequest => ⟨?_, ?_, ?_⟩, ?_⟩
  · intro pre c post htrace hupdate
    have hcall := (hsound.calls th hth pre c post htrace).1
    rw [hrequest] at hcall
    exact hcall.2 hupdate
  · intro outcome parsedId job rest houtcome hid htrace htier
    have hpost := hsound.outcome hth houtcome
    rw [hrequest] at hpost
    obtain ⟨r, hdecision, rfl⟩ := hpost
    obtain ⟨hrest, rfl⟩ := hdecision.1.otherTier parsedId job rest hid htrace htier
    exact ⟨hrest, rfl⟩
  · intro response houtcome
    have hpost := hsound.outcome hth houtcome
    rw [hrequest] at hpost
    obtain ⟨r, hdecision, hr⟩ := hpost
    have hrecorded := recorded_reached settings sha256 moves th hth
    cases r with
    | error e => cases hr
    | ok response' => exact (hdecision.2 response' rfl).mem_history hrecorded
  · intro jobId parsedId w row envs decisions hid hrow henvs
    exact ⟨fun htier => runEach_decideAll hid hrow htier henvs decisions,
      fun htier => runEach_decideAll_refused hid hrow htier henvs decisions⟩

/-- Job `2` is approved and then rejected. -/
def decidedTwicePlan : List SystemMove :=
  approvedPlan ++ .start (.decide planId (.reject ⟨"second", "illegible"⟩)) ::
    calls 3 4 (.calm 0 .review)

/-- Both decisions are answered with success. -/
theorem not_atMostOneDecision_decidedTwicePlan :
    ¬ AtMostOneDecision (reached plainSettings oneDigest decidedTwicePlan) := by
  intro hone
  have hfirst : ∃ th, (reached plainSettings oneDigest decidedTwicePlan).threads[2]? = some th ∧
      Succeeded th 2 := ⟨_, rfl, _, _, _, rfl, rfl, rfl⟩
  have hsecond : ∃ th, (reached plainSettings oneDigest decidedTwicePlan).threads[3]? = some th ∧
      Succeeded th 2 := ⟨_, rfl, _, _, _, rfl, rfl, rfl⟩
  obtain ⟨th, hth, hsucceeded⟩ := hfirst
  obtain ⟨th', hth', hsucceeded'⟩ := hsecond
  exact absurd (hone 2 2 3 th th' hth hth' hsucceeded hsucceeded') (by decide)

end ZubotIngestion
