import ZubotIngestion.Services.Degradation
import ZubotIngestion.System.Requests

/-!
# The webhook

A webhook should announce the outcome of a run once it is committed. The pipeline posts it from
the job as it was loaded before the run, and the task commits the outcome after the pipeline has
returned. So no webhook ever tells the outcome of its own run.

## Main definitions

* `Announces`, `TellsTruth`: what a truthful webhook is.

## Main results

* `not_tellsTruth`: no run that posts a webhook and completes tells the truth.
-/

namespace ZubotIngestion

open Effects

/-- A call of the callback client. -/
def Op.isNotify : Op → Bool
  | .notifyCompletion .. => true
  | _ => false

theorem Op.isNotify_of_not_isPipeline (op : Op) (h : op.isPipeline = false) :
    op.isNotify = false := by
  cases op <;> first
    | rfl
    | cases h

/-- The payload carries the outcome that a result write persists. -/
structure Announces (payload : WebhookPayload) (result : Dict) (tier : ConfidenceTier)
    (score : PyFloat) (processingTimeMs : ℤ) (otelTraceId : Option String) : Prop where
  status : payload.status = (statusForTier tier).value
  result : payload.result = some result
  confidenceTier : payload.confidenceTier = some tier.value
  overallConfidence : payload.overallConfidence = some score
  processingTimeMs : payload.processingTimeMs = some processingTimeMs
  otelTraceId : payload.otelTraceId = otelTraceId

/-- Every webhook of the run comes after the commit of its outcome, and announces it. -/
def TellsTruth (trace : List Call) : Prop :=
  ∀ pre url job apiKey r post, trace = pre ++ ⟨.notifyCompletion url job apiKey, r⟩ :: post →
    ∃ jobId result tier score ms traceId log updated,
      ⟨.updateJobResult jobId result tier score ms traceId log, .ok updated⟩ ∈ pre ∧
        Announces (jobToPayload job) result tier score ms traceId

/-! ### The order of an attempt -/

theorem mem_left_of_append {α : Type} {p : α → Prop} {front back pre post : List α} {a : α}
    (h : front ++ back = pre ++ a :: post) (ha : p a) (hback : ∀ b ∈ back, ¬ p b) :
    ∀ b ∈ pre, b ∈ front := by
  rcases List.append_eq_append_iff.mp h with ⟨mid, rfl, hmid⟩ | ⟨mid, hfront, -⟩
  · have hmem : a ∈ back := by
      rw [hmid]
      exact List.mem_append_right _ List.mem_cons_self
    exact absurd ha (hback a hmem)
  · intro b hb
    rw [hfront]
    exact List.mem_append_left _ hb

namespace TaskAnswers

variable (k : TaskAnswers) (settings : Settings)

/-- No result is written before the pipeline has returned. -/
theorem isResult_of_mem_processed {c : Call}
    (hc : c ∈ k.prelude ++ k.pipeline.calls (k.input settings)) : c.1.isResult = false := by
  have hupdates := updatesOf_processed k settings []
  rw [List.append_nil] at hupdates
  cases hresult : c.1.isResult with
  | false => rfl
  | true =>
    have hupdate : c.1.isUpdate = true := by
      obtain ⟨op, r⟩ := c
      cases op <;> first
        | rfl
        | cases hresult
    have hmem : c.1 ∈ updatesOf (k.prelude ++ k.pipeline.calls (k.input settings)) :=
      List.mem_filter.mpr ⟨List.mem_map_of_mem hc, hupdate⟩
    rw [hupdates] at hmem
    rw [List.mem_singleton.mp hmem] at hresult
    cases hresult

/-- No webhook is posted before the pipeline. -/
theorem isNotify_of_mem_prelude {c : Call} (hc : c ∈ k.prelude) : c.1.isNotify = false :=
  callsOf_eq_nil.mp (k.callsOf_prelude Op.isNotify_of_not_isPipeline) c hc

/-- No webhook is posted after the pipeline has returned. -/
theorem isNotify_of_mem_outcome {c : Call}
    (hc : c ∈ k.outcomeCalls settings ++ [⟨.sessionCommit, .ok ()⟩]) : c.1.isNotify = false :=
  callsOf_eq_nil.mp (k.callsOf_outcomeCalls settings Op.isNotify_of_not_isPipeline rfl) c hc

end TaskAnswers

/-- The pipeline posts the job it was started with. -/
theorem job_of_notify {a : PipelineAnswers} {x : PipelineInput} {url : String} {job : Job}
    {apiKey : String} {r : Except PyException Bool}
    (h : ⟨.notifyCompletion url job apiKey, r⟩ ∈ a.calls x) : job = x.job := by
  have hs : callsOf Op.isNotify (a.stageCalls x) = [] := by
    rw [PipelineAnswers.stageCalls]
    simp only [callsOf_append, a.callsOf_validationCalls x (p := Op.isNotify) (fun _ _ => rfl)]
    rfl
  have hm := a.callsOf_metadataCalls x (p := Op.isNotify) (fun _ _ _ _ => rfl) rfl
  have hi := a.callsOf_indexCalls x (p := Op.isNotify) (fun _ _ _ _ => rfl) rfl
  have hcalls : callsOf Op.isNotify (a.calls x) = callsOf Op.isNotify (a.callbackCalls x) := by
    rw [PipelineAnswers.calls]
    simp only [callsOf_append, hs, hm, hi, List.nil_append]
    exact List.append_nil _
  have hmem : ⟨.notifyCompletion url job apiKey, r⟩ ∈ callsOf Op.isNotify (a.calls x) :=
    List.mem_filter.mpr ⟨h, rfl⟩
  rw [hcalls] at hmem
  have hcallback := (List.mem_filter.mp hmem).1
  unfold PipelineAnswers.callbackCalls at hcallback
  cases hurl : notifiedUrl? x.wiring x.callbackUrl with
  | none =>
    rw [hurl] at hcallback
    cases hcallback
  | some url' =>
    rw [hurl] at hcallback
    rcases List.mem_cons.mp hcallback with hcall | hcall
    · exact (Op.notifyCompletion.inj (Sigma.mk.inj hcall).1).2.1
    · cases List.mem_singleton.mp hcall

/-- **No webhook tells the truth.** Whatever happens around it, in a run of the extraction task that
posts a webhook and completes, every post comes before any result of the run is committed, and
describes the job as it was loaded at the start of the run. -/
theorem not_tellsTruth (settings : Settings) (sha256 : Bytes → FileHash) (moves : List SystemMove)
    (th : Serving) (hth : th ∈ (reached settings sha256 moves).threads) (reply : TaskReply)
    (hreply : th.outcome? = some (.ok (.extracted reply)))
    (hpost : ∃ c ∈ th.trace, c.1.isNotify = true) :
    ¬ TellsTruth th.trace ∧
      ∀ pre url job apiKey r post,
        th.trace = pre ++ ⟨.notifyCompletion url job apiKey, r⟩ :: post →
          (∀ c ∈ pre, c.1.isResult = false) ∧
          ∃ rest, th.trace = ⟨.getJob reply.jobId, .ok (some job)⟩ :: rest := by
  have hsound := (reached_sound settings sha256 moves).outcome hth hreply
  obtain ⟨k, htrace, rfl⟩ := hsound.extracted
  have hearly : ∀ pre url job apiKey r post,
      th.trace = pre ++ ⟨.notifyCompletion url job apiKey, r⟩ :: post →
        (∀ c ∈ pre, c.1.isResult = false) ∧
          ∃ rest, th.trace = ⟨.getJob (k.reply settings).jobId, .ok (some job)⟩ :: rest := by
    intro pre url job apiKey r post hsplit
    have hcalls : (k.prelude ++ k.pipeline.calls (k.input settings)) ++
        (k.outcomeCalls settings ++ [⟨.sessionCommit, .ok ()⟩]) =
          pre ++ ⟨.notifyCompletion url job apiKey, r⟩ :: post := by
      rw [← List.append_assoc, ← hsplit, htrace]
      rfl
    have hpre := mem_left_of_append (p := fun c : Call => c.1.isNotify = true) hcalls rfl
      fun c hc => Bool.eq_false_iff.mp (k.isNotify_of_mem_outcome settings hc)
    refine ⟨fun c hc => k.isResult_of_mem_processed settings (hpre c hc), ?_⟩
    have hmem : ⟨.notifyCompletion url job apiKey, r⟩ ∈
        (k.prelude ++ k.pipeline.calls (k.input settings)) ++
          (k.outcomeCalls settings ++ [⟨.sessionCommit, .ok ()⟩]) := by
      rw [hcalls]
      exact List.mem_append_right _ List.mem_cons_self
    rcases List.mem_append.mp hmem with hmem | hmem
    · rcases List.mem_append.mp hmem with hmem | hmem
      · exact absurd (k.isNotify_of_mem_prelude hmem) Bool.true_eq_false_eq_False
      · obtain rfl : job = k.job := job_of_notify hmem
        exact ⟨_, htrace⟩
    · exact absurd (k.isNotify_of_mem_outcome settings hmem) Bool.true_eq_false_eq_False
  refine ⟨fun htruth => ?_, hearly⟩
  obtain ⟨⟨op, r⟩, hc, hnotify⟩ := hpost
  cases op <;> cases hnotify
  rename_i url job apiKey
  obtain ⟨pre, post, hsplit⟩ := List.append_of_mem hc
  obtain ⟨jobId, result, tier, score, ms, traceId, log, updated, hmem, -⟩ :=
    htruth pre url job apiKey r post hsplit
  exact absurd ((hearly pre url job apiKey r post hsplit).1 _ hmem) Bool.true_eq_false_eq_False

/-- One PDF is submitted with a callback, and a first attempt runs to its end. -/
def callbackPlan : List SystemMove :=
  .start (.submit [⟨"plan.pdf", pdfMagic⟩] ⟨.auto, some "https://caller/hook", none, none⟩
      "reviewer") :: (calls 0 2 (.calm 1 .review) ++ calls 0 6 (.calm 2 .review)) ++
    .start (.extract 2 0) :: calls 1 25 (.calm 0 .review)

/-- The attempt of `callbackPlan` has posted a webhook and returned. -/
theorem posted_callbackPlan : ∃ th reply,
    (reached plainSettings oneDigest callbackPlan).threads[1]? = some th ∧
      th.outcome? = some (.ok (.extracted reply)) ∧ ∃ c ∈ th.trace, c.1.isNotify = true := by
  refine ⟨_, _, rfl, rfl, ?_⟩
  decide

/-- Its webhook comes before its result is written. -/
theorem not_tellsTruth_callbackPlan :
    ∃ th reply, (reached plainSettings oneDigest callbackPlan).threads[1]? = some th ∧
      th.outcome? = some (.ok (.extracted reply)) ∧ ¬ TellsTruth th.trace := by
  have hsplit : ∃ th reply pre url job apiKey r post,
      (reached plainSettings oneDigest callbackPlan).threads[1]? = some th ∧
      th.outcome? = some (.ok (.extracted reply)) ∧ pre = th.trace.take 18 ∧
      th.trace = pre ++ ⟨.notifyCompletion url job apiKey, r⟩ :: post ∧
      ∀ c ∈ pre, c.1.isResult = false := by
    refine ⟨_, _, _, _, _, _, _, _, rfl, rfl, rfl, rfl, ?_⟩
    decide
  obtain ⟨th, reply, pre, url, job, apiKey, r, post, hth, hreply, -, htrace, hpre⟩ := hsplit
  refine ⟨th, reply, hth, hreply, fun htruth => ?_⟩
  obtain ⟨jobId, result, tier, score, ms, traceId, log, updated, hmem, -⟩ :=
    htruth pre url job apiKey r post htrace
  exact absurd (hpre _ hmem) Bool.true_eq_false_eq_False

/-- A run with a webhook. -/
theorem not_tellsTruth_of_posted :
    ∃ th ∈ (reached plainSettings oneDigest callbackPlan).threads, ¬ TellsTruth th.trace := by
  obtain ⟨th, reply, hth, hreply, hpost⟩ := posted_callbackPlan
  have hmem := List.mem_of_getElem? hth
  exact ⟨th, hmem,
    (not_tellsTruth plainSettings oneDigest callbackPlan th hmem reply hreply hpost).1⟩

end ZubotIngestion
