import ZubotIngestion.Api.Review
import ZubotIngestion.Services.Journaling

/-!
# One decision request

What an approve or reject request asks of the database. It loads the job once to check its tier,
writes at most once, and what it answers follows from the job it has loaded.

## Main definitions

* `DecisionGuarantee`: the calls of a decision request.
* `Refused`, `Decides`: how a request that does not write, and one that succeeds, has run.

## Main results

* `decision_safe`: every decision request keeps `DecisionGuarantee` and satisfies `DecisionPost`.
-/

namespace ZubotIngestion

open Effects

/-- What a decision request guarantees of its next call: it belongs to no submission, and it
updates a row only once, with the decision, after it has read a job of the review tier. -/
def DecisionGuarantee (jobId : PathJobId) (d : Decision) (trace : List Call) (op : Op) : Prop :=
  op.isSubmission = false ∧
    (op.isUpdate = true → updatesOf trace = [] ∧ ∃ parsedId job reviewedAt,
      jobId.uuid? = some parsedId ∧ ⟨.getJob parsedId, .ok (some job)⟩ ∈ trace ∧
        job.confidenceTier = some .review ∧ op = d.update parsedId job reviewedAt)

/-- A request on an identifier that does not parse, on a job that does not exist or on a job of
another tier ends there, with its own answer. -/
structure Refused (jobId : PathJobId) (t : List Call) (r : Except PyException ReviewResponse) :
    Prop where
  invalid : jobId.uuid? = none →
    t = [] ∧ r = .error (.http 400 s!"Invalid job_id: {jobId.repr}")
  missing : ∀ parsedId rest, jobId.uuid? = some parsedId →
    t = ⟨.getJob parsedId, .ok none⟩ :: rest →
      rest = [] ∧ r = .error (.http 404 s!"Job {jobId.text} not found")
  otherTier : ∀ parsedId job rest, jobId.uuid? = some parsedId →
    t = ⟨.getJob parsedId, .ok (some job)⟩ :: rest → job.confidenceTier ≠ some .review →
      rest = [] ∧ r = .error (.http 409 (notInReviewTier job jobId))

/-- A request whose decision is written: it has read a job of the review tier, and its only update
is the decision about this job. -/
def Decides (jobId : PathJobId) (d : Decision) (t : List Call) : Prop :=
  ∃ parsedId job reviewedAt pre post, jobId.uuid? = some parsedId ∧
    job.confidenceTier = some .review ∧ ⟨.getJob parsedId, .ok (some job)⟩ ∈ pre ∧
    t = pre ++ ⟨d.update parsedId job reviewedAt, .ok ()⟩ :: post ∧ updatesOf pre = [] ∧
    updatesOf post = []

/-- What a finished decision request promises. -/
def DecisionPost (jobId : PathJobId) (d : Decision) (t : List Call)
    (r : Except PyException ReviewResponse) : Prop :=
  Refused jobId t r ∧ ∀ response, r = .ok response → Decides jobId d t

theorem Decides.append {jobId : PathJobId} {d : Decision} {t t' : List Call}
    (h : Decides jobId d t) (ht' : updatesOf t' = []) : Decides jobId d (t ++ t') := by
  obtain ⟨parsedId, job, reviewedAt, pre, post, hid, htier, hread, rfl, hpre, hpost⟩ := h
  refine ⟨parsedId, job, reviewedAt, pre, post ++ t', hid, htier, hread, ?_, hpre, ?_⟩
  · rw [List.append_assoc, List.cons_append]
  · rw [updatesOf_append, hpost, ht', List.append_nil]

/-- A request that has read a job of the review tier. -/
def Started (jobId : PathJobId) (t : List Call) : Prop :=
  ∃ parsedId job u, jobId.uuid? = some parsedId ∧ job.confidenceTier = some .review ∧
    t = ⟨.getJob parsedId, .ok (some job)⟩ :: u

theorem Started.append {jobId : PathJobId} {t : List Call} (h : Started jobId t)
    (t' : List Call) : Started jobId (t ++ t') := by
  obtain ⟨parsedId, job, u, hid, htier, rfl⟩ := h
  exact ⟨parsedId, job, u ++ t', hid, htier, rfl⟩

/-- Such a request is not refused. -/
theorem Started.refused {jobId : PathJobId} {t : List Call} (h : Started jobId t)
    (r : Except PyException ReviewResponse) : Refused jobId t r := by
  obtain ⟨parsedId, job, u, hid, htier, rfl⟩ := h
  refine ⟨fun h => ?_, fun parsedId' rest h ht => ?_, fun parsedId' job' rest h ht hne => ?_⟩
  · exact absurd (h.symm.trans hid) (Option.some_ne_none _).symm
  · obtain rfl : parsedId = parsedId' := Option.some.inj (hid.symm.trans h)
    cases ht
  · obtain rfl : parsedId = parsedId' := Option.some.inj (hid.symm.trans h)
    cases ht
    exact absurd htier hne

theorem Started.decisionPost_error {jobId : PathJobId} {d : Decision} {t : List Call}
    (h : Started jobId t) (e : PyException) : DecisionPost jobId d t (.error e) :=
  ⟨h.refused _, fun _ h => nomatch h⟩

/-- What the session of a decision request promises. -/
def SessionPost (jobId : PathJobId) (d : Decision) (t : List Call)
    (r : Except PyException (Option Job)) : Prop :=
  (∀ e, r = .error e → DecisionPost jobId d t (.error e)) ∧
    ∀ updated, r = .ok updated → Started jobId t ∧ Decides jobId d t

section Rules

variable {jobId : PathJobId} {d : Decision} {parsedId : JobId}

/-- A call that is neither an update nor part of a submission may be made at any point. -/
theorem decisionGuarantee_of_read {op : Op} (hs : op.isSubmission = false)
    (hu : op.isUpdate = false) (trace : List Call) : DecisionGuarantee jobId d trace op :=
  ⟨hs, fun h => absurd (hu.symm.trans h) Bool.false_ne_true⟩

/-- An exception of the session of a started request. -/
theorem sessionPost_error {t : List Call} (h : Started jobId t) (e : PyException) :
    SessionPost jobId d t (.error e) := by
  refine ⟨fun e' he => ?_, fun _ h => nomatch h⟩
  obtain rfl : e = e' := Except.error.inj he
  exact h.decisionPost_error e

/-- A request that ends with its first lookup. -/
theorem sessionPost_read (hid : jobId.uuid? = some parsedId)
    {found : Except PyException (Option Job)} {e : PyException}
    (hnone : found = .ok none → e = .http 404 s!"Job {jobId.text} not found")
    (hother : ∀ job, found = .ok (some job) → job.confidenceTier ≠ some .review →
      e = .http 409 (notInReviewTier job jobId)) :
    SessionPost jobId d [⟨.getJob parsedId, found⟩] (.error e) := by
  refine ⟨fun e' he => ⟨⟨fun h => ?_, fun parsedId' rest h ht => ?_,
    fun parsedId' job rest h ht hne => ?_⟩, fun _ h => nomatch h⟩, fun _ h => nomatch h⟩
  · exact absurd (h.symm.trans hid) (Option.some_ne_none _).symm
  · obtain rfl : e = e' := Except.error.inj he
    obtain rfl : parsedId = parsedId' := Option.some.inj (hid.symm.trans h)
    cases ht
    exact ⟨rfl, congrArg Except.error (hnone rfl)⟩
  · obtain rfl : e = e' := Except.error.inj he
    obtain rfl : parsedId = parsedId' := Option.some.inj (hid.symm.trans h)
    cases ht
    exact ⟨rfl, congrArg Except.error (hother job rfl hne)⟩

/-- The lookup and the check. -/
theorem safe_reviewedJob_bind (hid : jobId.uuid? = some parsedId) {f : Job → Prog (Option Job)}
    (hf : ∀ job, job.confidenceTier = some .review →
      Program.Safe Sensible (DecisionGuarantee jobId d) (SessionPost jobId d) (f job)
        [⟨.getJob parsedId, .ok (some job)⟩]) :
    Program.Safe Sensible (DecisionGuarantee jobId d) (SessionPost jobId d)
      (reviewedJob jobId parsedId >>= f) [] := by
  refine (Program.safe_bind _ _ _).mpr (Program.Safe.perform_bind
    (decisionGuarantee_of_read rfl rfl _) (fun e _ => ?_) fun found _ => ?_)
  · exact sessionPost_read hid (fun h => nomatch h) fun _ h => nomatch h
  cases found with
  | none => exact sessionPost_read hid (fun _ => rfl) fun _ h => nomatch Except.ok.inj h
  | some job =>
    by_cases htier : job.confidenceTier = some .review
    · simp only [ensureReviewTier, if_neg (not_not.mpr htier)]
      exact hf job htier
    · simp only [ensureReviewTier, if_pos htier]
      refine sessionPost_read hid (fun h => nomatch Except.ok.inj h) fun job' h _ => ?_
      obtain rfl : job = job' := Option.some.inj (Except.ok.inj h)
      rfl

/-- The write of a decision and the lookup behind it. -/
theorem safe_decide {job : Job} (hid : jobId.uuid? = some parsedId)
    (htier : job.confidenceTier = some .review) (reviewedAt : String) {u : List Call}
    (hu : updatesOf u = []) :
    Program.Safe Sensible (DecisionGuarantee jobId d) (SessionPost jobId d)
      (do
        perform (d.update parsedId job reviewedAt)
        perform (.getJob parsedId))
      (⟨.getJob parsedId, .ok (some job)⟩ :: u) := by
  have hstarted : Started jobId (⟨.getJob parsedId, .ok (some job)⟩ :: u) :=
    ⟨parsedId, job, u, hid, htier, rfl⟩
  refine Program.Safe.perform_bind ⟨rfl, fun _ => ⟨hu, parsedId, job, reviewedAt, hid,
    List.mem_cons_self, htier, rfl⟩⟩ (fun e _ => sessionPost_error (hstarted.append _) e)
    fun _ _ => ?_
  have hdecides : Decides jobId d (⟨.getJob parsedId, .ok (some job)⟩ :: u ++
      [⟨d.update parsedId job reviewedAt, .ok ()⟩]) :=
    ⟨parsedId, job, reviewedAt, _, [], hid, htier, List.mem_cons_self, rfl, hu, rfl⟩
  refine (Program.safe_perform (S := services) (.getJob parsedId) _).mpr ?_
  refine ⟨decisionGuarantee_of_read rfl rfl _, fun r _ => ?_⟩
  cases r with
  | error e => exact sessionPost_error ((hstarted.append _).append _) e
  | ok updated =>
    exact ⟨fun _ h => (nomatch h), fun _ _ => ⟨(hstarted.append _).append _, hdecides.append rfl⟩⟩

/-- The session and the response of a decision request. -/
theorem safe_session {body : Prog (Option Job)}
    (hbody : Program.Safe Sensible (DecisionGuarantee jobId d) (SessionPost jobId d) body []) :
    Program.Safe Sensible (DecisionGuarantee jobId d) (DecisionPost jobId d)
      (withSession body >>= respond jobId) [] := by
  have hsession : Program.Safe Sensible (DecisionGuarantee jobId d) (SessionPost jobId d)
      (withSession body) [] := by
    refine hbody.bind (fun t updated h => ?_) fun t e h => h
    obtain ⟨hstarted, hdecides⟩ := h.2 updated rfl
    refine Program.Safe.perform_bind (decisionGuarantee_of_read rfl rfl _)
      (fun e _ => sessionPost_error (hstarted.append _) e) fun _ _ => ?_
    exact ⟨fun _ h => (nomatch h), fun _ _ => ⟨hstarted.append _, hdecides.append rfl⟩⟩
  refine hsession.bind (fun t updated h => ?_) fun t e h => h.1 e rfl
  obtain ⟨hstarted, hdecides⟩ := h.2 updated rfl
  cases updated with
  | none => exact hstarted.decisionPost_error _
  | some job => exact ⟨hstarted.refused _, fun _ _ => hdecides⟩

end Rules

/-- Every decision request keeps `DecisionGuarantee` and satisfies `DecisionPost`. -/
theorem decision_safe (jobId : PathJobId) (d : Decision) :
    Program.Safe Sensible (DecisionGuarantee jobId d) (DecisionPost jobId d) (d.run jobId) [] := by
  cases hid : jobId.uuid? with
  | none =>
    have hpost : DecisionPost jobId d [] (.error (.http 400 s!"Invalid job_id: {jobId.repr}")) :=
      ⟨⟨fun _ => ⟨rfl, rfl⟩, fun _ _ h => absurd (hid.symm.trans h) (Option.some_ne_none _).symm,
        fun _ _ _ h => absurd (hid.symm.trans h) (Option.some_ne_none _).symm⟩,
        fun _ h => nomatch h⟩
    cases d with
    | approve body =>
      simpa only [Decision.run, approveReview, parseJobId, hid, Program.raise_bind,
        Program.safe_raise] using hpost
    | reject body =>
      simpa only [Decision.run, rejectReview, parseJobId, hid, Program.raise_bind,
        Program.safe_raise] using hpost
  | some parsedId =>
    cases d with
    | approve body =>
      simp only [Decision.run, approveReview, parseJobId, hid, Program.ret_bind]
      refine safe_session (safe_reviewedJob_bind hid fun job htier => ?_)
      refine Program.Safe.perform_bind (decisionGuarantee_of_read rfl rfl _)
        (fun _ he => (he.not_error rfl).elim) fun reviewedAt _ => ?_
      exact safe_decide hid htier reviewedAt rfl
    | reject body =>
      simp only [Decision.run, rejectReview, parseJobId, hid, Program.ret_bind]
      exact safe_session (safe_reviewedJob_bind hid fun job htier => safe_decide hid htier "" rfl)

end ZubotIngestion
