import ZubotIngestion.Effects.Retry
import ZubotIngestion.Infrastructure.Callback
import ZubotIngestion.Python.Power

/-!
# The delivery of a webhook

`CallbackHttpClient.notify_completion` posts the payload of a job until the receiver answers with
something else than a server error, at most `max_retries` times, and sleeps between two posts. The
factor between two sleeps is a power of two, which from the exponent 1024 on is too large for a
float: the client then gives up, as the guard around its loop catches the exception. The signature
and the JSON encoder are parameters; logs and the timeout are left out.

## Main definitions

* `backoffDelay`, `CallbackHttpClient.notifyCompletion`.
* `DeliveryOutcome`, `Delivery.answer`: what the receiver answers to the posts.
* `DeliversAsStated`: the promise of the client.

## Main results

* `notifyCompletion_ends`: the posts and sleeps of a delivery, and its result.
* `deliversAsStated_iff`: when the client keeps its promise.
-/

namespace ZubotIngestion

open Effects

/-! ### The client -/

/-- `_BACKOFF_BASE`. -/
def backoffBase : PyFloat := .fin (1 / 2)

/-- `_BACKOFF_FACTOR`. -/
def backoffFactor : PyFloat := .fin 2

/-- `_backoff_delay`. -/
def backoffDelay (attempt : ℤ) : Except PyException PyFloat :=
  if attempt < 1 then .ok 0
  else (floatPow backoffFactor (attempt - 1).toNat).map fun power => backoffBase * power

/-- The calls of the client. -/
inductive CallbackOp : Type where
  /-- `client.post`; the answer is the status of the response. -/
  | post (callbackUrl : String) (content : Bytes) (headers : List (String × String))
  /-- `asyncio.sleep`. -/
  | sleep (delay : PyFloat)
  deriving DecidableEq

/-- The value a call returns. -/
def CallbackOp.Res : CallbackOp → Type
  | .post .. => ℕ
  | .sleep _ => Unit

/-- The exceptions in a delivery. -/
inductive CallbackException : Type where
  /-- An `httpx.TransportError`; a timeout is one of them. -/
  | transport (exc : PyException)
  | other (exc : PyException)

/-- The signature of the client. -/
abbrev callbackCalls : Signature := ⟨CallbackOp, CallbackOp.Res⟩

/-- A program of the client. -/
abbrev Delivery (α : Type) : Type := Program callbackCalls CallbackException α

/-- `client.post(callback_url, content=…, headers=…)`. -/
def postCallback (callbackUrl : String) (content : Bytes) (headers : List (String × String)) :
    Delivery ℕ :=
  Program.perform (S := callbackCalls) (.post callbackUrl content headers)

/-- `asyncio.sleep(delay)`. -/
def sleepCallback (delay : PyFloat) : Delivery Unit :=
  Program.perform (S := callbackCalls) (.sleep delay)

/-- What the client uses of its libraries. -/
structure CallbackLibrary where
  /-- `compute_signature`. -/
  computeSignature : Bytes → String → String
  /-- `_serialise_body`. -/
  serialiseBody : WebhookPayload → Except PyException Bytes

/-- `CallbackHttpClient`. -/
structure CallbackHttpClient where
  signingSecret : Option String
  maxRetries : ℕ

namespace CallbackHttpClient

/-- `CallbackHttpClient(signing_secret=…, max_retries=…)`. -/
def init (signingSecret : Option String := none) (maxRetries : ℤ := 3) : CallbackHttpClient where
  signingSecret := signingSecret.bind orNone
  maxRetries := maxRetries.toNat

variable (lib : CallbackLibrary) (client : CallbackHttpClient)

/-- `_build_headers`. -/
def buildHeaders (body : Bytes) (apiKey : String) : List (String × String) :=
  [("Content-Type", "application/json"), ("User-Agent", "zubot-ingestion/1.0")] ++
    (if apiKey = "" then [] else [("X-API-Key", apiKey)]) ++
      match client.signingSecret with
      | some signingSecret =>
        if signingSecret = "" then []
        else [("X-Zubot-Signature", lib.computeSignature body signingSecret)]
      | none => []

/-- What the status of a response says: the receiver has acknowledged or refused the delivery, or
another attempt may follow. -/
def verdictOfStatus (status : ℕ) : Verdict Bool Unit :=
  if 200 ≤ status ∧ status < 300 then .final true
  else if 500 ≤ status ∧ status < 600 then .again ()
  else .final false

/-- One attempt of the loop. -/
def attemptDelivery (callbackUrl : String) (body : Bytes) (headers : List (String × String)) :
    Delivery (Verdict Bool Unit) := do
  match ← (postCallback callbackUrl body headers).attempt with
  | .error (.transport _) => return .again ()
  | .error (.other exc) => .raise (.other exc)
  | .ok status => return verdictOfStatus status

/-- The sleep behind the attempt with an index, which counts from zero. -/
def pauseDelivery (k : ℕ) : Delivery Unit := do
  let delay ← Program.ofExcept ((backoffDelay (k + 1)).mapError .other)
  sleepCallback delay

/-- What is returned behind the loop: the answer of a final attempt, and otherwise `False`. The
guard around the loop catches every exception. -/
def acknowledged : Except CallbackException (Verdict Bool (Option Unit)) → Bool
  | .ok (.final acknowledged) => acknowledged
  | .ok (.again _) => false
  | .error _ => false

/-- `notify_completion`. -/
def notifyCompletion (callbackUrl : String) (job : Job) (apiKey : String) : Delivery Bool := do
  let body ← Program.ofExcept ((lib.serialiseBody (jobToPayload job)).mapError .other)
  let headers := client.buildHeaders lib body apiKey
  let outcome ← (Program.retry (attemptDelivery callbackUrl body headers) pauseDelivery
    client.maxRetries 0).attempt
  return acknowledged outcome

end CallbackHttpClient

/-! ### Deliveries -/

/-- The outcome of a post. -/
inductive DeliveryOutcome : Type where
  | status (code : ℕ)
  | transport (exc : PyException)
  | other (exc : PyException)

namespace DeliveryOutcome

/-- The outcome as the answer to the call. -/
def answer : DeliveryOutcome → Except CallbackException ℕ
  | status code => .ok code
  | transport exc => .error (.transport exc)
  | other exc => .error (.other exc)

/-- Another attempt may follow: there was a transport error or a status of the server errors. -/
def Retryable : DeliveryOutcome → Prop
  | status code => 500 ≤ code ∧ code < 600
  | transport _ => True
  | other _ => False

/-- The receiver has acknowledged the delivery. -/
def Success : DeliveryOutcome → Prop
  | status code => 200 ≤ code ∧ code < 300
  | _ => False

end DeliveryOutcome

/-- A receiver and its outcomes, post by post; the state counts the posts. -/
def deliver (outcomes : ℕ → DeliveryOutcome) :
    (op : CallbackOp) → ℕ → Except CallbackException op.Res × ℕ
  | .post .., posts => ((outcomes posts).answer, posts + 1)
  | .sleep _, posts => (.ok (), posts)

/-- `n` posts of one request, with a sleep of `base * factor ** k` between the posts `k` and
`k + 1`. -/
def deliveryCalls (request : CallbackOp) : ℕ → List CallbackOp
  | 0 => []
  | n + 1 => (List.range n).flatMap (fun k => [request, .sleep (.fin (1 / 2 * 2 ^ k))]) ++ [request]

/-- Whether a call is a post. -/
def CallbackOp.isPost : CallbackOp → Bool
  | post .. => true
  | sleep _ => false

/-- How many of the calls are posts. -/
def postCount (calls : List CallbackOp) : ℕ := calls.countP CallbackOp.isPost

/-- The promise of the client: how many posts of one request it makes, when it sleeps between
them, and what it returns. It never posts again behind an outcome that is final. -/
structure DeliversAsStated (maxRetries : ℕ) (outcomes : ℕ → DeliveryOutcome) (request : CallbackOp)
    (result : Except CallbackException Bool) (calls : List CallbackOp) : Prop where
  posts : IsAttemptCount maxRetries (fun k => ¬ (outcomes k).Retryable) (postCount calls)
  calls_eq : calls = deliveryCalls request (postCount calls)
  result_eq : ∃ acknowledged, result = .ok acknowledged ∧
    (acknowledged = true ↔ ∃ i < maxRetries,
      IsFirst (fun k => ¬ (outcomes k).Retryable) i ∧ (outcomes i).Success)

/-! ### The loop -/

theorem backoffDelay_succ {k : ℕ} (h : k < 1024) :
    backoffDelay (k + 1) = .ok (.fin (1 / 2 * 2 ^ k)) := by
  have hpower : ¬ PowerOverflows backoffFactor k := fun hoverflows =>
    absurd (powerOverflows_two.mp hoverflows) (not_le.mpr h)
  rw [backoffDelay, if_neg (by omega), add_sub_cancel_right, Int.toNat_natCast,
    backoffFactor, floatPow_fin hpower]
  rfl

theorem backoffDelay_succ_of_le {k : ℕ} (h : 1024 ≤ k) :
    backoffDelay (k + 1) = .error powerOverflow := by
  have hpower : floatPow backoffFactor k = .error powerOverflow :=
    floatPow_eq_error_iff.mpr ⟨rfl, powerOverflows_two.mpr h⟩
  rw [backoffDelay, if_neg (by omega), add_sub_cancel_right, Int.toNat_natCast, hpower]
  rfl

/-- What the outcome of a post says. -/
def DeliveryOutcome.verdict : DeliveryOutcome → Except CallbackException (Verdict Bool Unit)
  | status code => .ok (CallbackHttpClient.verdictOfStatus code)
  | transport _ => .ok (.again ())
  | other exc => .error (.other exc)

section Loop

variable (outcomes : ℕ → DeliveryOutcome) (callbackUrl : String) (body : Bytes)
  (headers : List (String × String)) (k : ℕ)

theorem run_postCallback :
    (postCallback callbackUrl body headers).run (deliver outcomes) k =
      ((outcomes k).answer, k + 1) :=
  Program.run_perform _ _ _

theorem trace_postCallback :
    (postCallback callbackUrl body headers).trace (deliver outcomes) k =
      [⟨.post callbackUrl body headers, (outcomes k).answer⟩] :=
  Program.trace_perform _ _ _

theorem run_attemptDelivery :
    (CallbackHttpClient.attemptDelivery callbackUrl body headers).run (deliver outcomes) k =
      ((outcomes k).verdict, k + 1) := by
  rw [CallbackHttpClient.attemptDelivery, Program.run_bind, Program.run_attempt, run_postCallback]
  cases outcomes k <;> rfl

theorem trace_attemptDelivery :
    (CallbackHttpClient.attemptDelivery callbackUrl body headers).trace (deliver outcomes) k =
      [⟨.post callbackUrl body headers, (outcomes k).answer⟩] := by
  rw [CallbackHttpClient.attemptDelivery, Program.trace_bind, Program.run_attempt,
    Program.trace_attempt, trace_postCallback, run_postCallback]
  cases outcomes k <;> rfl

theorem run_pauseDelivery (posts : ℕ) :
    (CallbackHttpClient.pauseDelivery k).run (deliver outcomes) posts =
      (((backoffDelay (k + 1)).mapError .other).map fun _ => (), posts) := by
  rw [CallbackHttpClient.pauseDelivery, Program.run_bind]
  cases backoffDelay (k + 1) with
  | ok delay => exact Program.run_perform _ _ _
  | error exc => rfl

theorem trace_pauseDelivery (posts : ℕ) :
    (CallbackHttpClient.pauseDelivery k).trace (deliver outcomes) posts =
      if k < 1024 then [⟨.sleep (.fin (1 / 2 * 2 ^ k)), .ok ()⟩] else [] := by
  rw [CallbackHttpClient.pauseDelivery, Program.trace_bind]
  split_ifs with h
  · rw [backoffDelay_succ h]
    rfl
  · rw [backoffDelay_succ_of_le (not_lt.mp h)]
    rfl

/-- The attempts and the sleeps of a delivery. -/
def deliveryRuns : RetryRuns (S := callbackCalls)
    (CallbackHttpClient.attemptDelivery callbackUrl body headers) CallbackHttpClient.pauseDelivery
    (deliver outcomes) where
  state := id
  outcome k := (outcomes k).verdict
  paused k := ((backoffDelay (k + 1)).mapError .other).map fun _ => ()
  run_attempt := run_attemptDelivery outcomes callbackUrl body headers
  run_pause k := run_pauseDelivery outcomes k (k + 1)

variable {outcomes callbackUrl body headers k}

theorem verdict_eq_again {outcome : DeliveryOutcome} {reason : Unit} :
    outcome.verdict = .ok (.again reason) ↔ outcome.Retryable := by
  cases outcome with
  | status code =>
    have hcode : CallbackHttpClient.verdictOfStatus code = .again reason ↔
        500 ≤ code ∧ code < 600 := by
      rw [CallbackHttpClient.verdictOfStatus]
      split_ifs with hsuccess hserver
      · exact iff_of_false nofun fun h => by omega
      · exact iff_of_true rfl hserver
      · exact iff_of_false nofun hserver
    rw [DeliveryOutcome.verdict, Except.ok.injEq]
    exact hcode
  | transport exc => exact iff_of_true rfl trivial
  | other exc => exact iff_of_false nofun id

/-- A delivery is acknowledged just by a success. -/
theorem verdict_eq_final {outcome : DeliveryOutcome} {acknowledged : Bool}
    (h : outcome.verdict = .ok (.final acknowledged)) :
    ¬ outcome.Retryable ∧ (acknowledged = true ↔ outcome.Success) := by
  cases outcome with
  | status code =>
    have hcode := Except.ok.inj h
    rw [CallbackHttpClient.verdictOfStatus] at hcode
    split_ifs at hcode with hsuccess hserver
    · obtain rfl := Verdict.final.inj hcode
      exact ⟨fun h => by obtain ⟨h, -⟩ := h; omega, iff_of_true rfl hsuccess⟩
    · obtain rfl := Verdict.final.inj hcode
      exact ⟨hserver, iff_of_false Bool.false_ne_true hsuccess⟩
  | transport exc => cases h
  | other exc => cases h

theorem verdict_eq_error {outcome : DeliveryOutcome} {e : CallbackException}
    (h : outcome.verdict = .error e) : ¬ outcome.Retryable ∧ ¬ outcome.Success := by
  cases outcome with
  | status code => cases h
  | transport exc => cases h
  | other exc => exact ⟨id, id⟩

theorem not_success_of_retryable {outcome : DeliveryOutcome} (h : outcome.Retryable) :
    ¬ outcome.Success := by
  cases outcome with
  | status code =>
    rintro ⟨-, hsuccess⟩
    obtain ⟨hserver, -⟩ := h
    omega
  | transport exc => exact id
  | other exc => exact id

theorem passes_delivery_iff :
    (deliveryRuns outcomes callbackUrl body headers).Passes k ↔
      (outcomes k).Retryable ∧ k < 1024 := by
  have hpaused : (deliveryRuns outcomes callbackUrl body headers).paused k = .ok () ↔ k < 1024 := by
    rw [deliveryRuns]
    by_cases h : k < 1024
    · simp only [backoffDelay_succ h, h]
      exact iff_of_true rfl trivial
    · simp only [backoffDelay_succ_of_le (not_lt.mp h), h]
      exact iff_of_false nofun id
  rw [RetryRuns.Passes, hpaused]
  exact and_congr_left' ⟨fun ⟨_, h⟩ => verdict_eq_again.mp h, fun h => ⟨(), verdict_eq_again.mpr h⟩⟩

/-- The posts and sleeps of the rounds that pass, and the post behind them. -/
theorem calls_rounds {m : ℕ} (hm : m ≤ 1024) :
    ((deliveryRuns outcomes callbackUrl body headers).rounds m ++
        (deliveryRuns outcomes callbackUrl body headers).attemptCalls m).map Sigma.fst =
      deliveryCalls (.post callbackUrl body headers) (m + 1) := by
  have hattempt (k : ℕ) : (deliveryRuns outcomes callbackUrl body headers).attemptCalls k =
      [⟨.post callbackUrl body headers, (outcomes k).answer⟩] :=
    trace_attemptDelivery outcomes callbackUrl body headers k
  have hpause (k : ℕ) (hk : k < m) : (deliveryRuns outcomes callbackUrl body headers).pauseCalls k =
      [⟨.sleep (.fin (1 / 2 * 2 ^ k)), .ok ()⟩] :=
    (trace_pauseDelivery outcomes k (k + 1)).trans (if_pos (hk.trans_le hm))
  rw [deliveryCalls, List.map_append, RetryRuns.rounds, List.map_flatMap, hattempt]
  refine congrArg (· ++ _) (List.flatMap_congr fun k hk => ?_)
  rw [hattempt, hpause k (List.mem_range.mp hk)]
  rfl

end Loop

/-! ### Deliveries of one client -/

/-- A delivery with everything the client is given, and what the receiver answers. -/
structure DeliveryRun where
  lib : CallbackLibrary
  client : CallbackHttpClient
  callbackUrl : String
  job : Job
  apiKey : String
  outcomes : ℕ → DeliveryOutcome

namespace DeliveryRun

variable (run : DeliveryRun)

/-- What `notify_completion` returns or raises. -/
def result : Except CallbackException Bool :=
  ((run.client.notifyCompletion run.lib run.callbackUrl run.job run.apiKey).run
    (deliver run.outcomes) 0).1

/-- The posts and sleeps of the delivery. -/
def calls : List CallbackOp :=
  ((run.client.notifyCompletion run.lib run.callbackUrl run.job run.apiKey).trace
    (deliver run.outcomes) 0).map Sigma.fst

/-- The post of a body, signed. -/
def request (body : Bytes) : CallbackOp :=
  .post run.callbackUrl body (run.client.buildHeaders run.lib body run.apiKey)

/-- The loop of the delivery. -/
def loop (body : Bytes) : Delivery (Verdict Bool (Option Unit)) :=
  Program.retry (CallbackHttpClient.attemptDelivery run.callbackUrl body
    (run.client.buildHeaders run.lib body run.apiKey)) CallbackHttpClient.pauseDelivery
      run.client.maxRetries 0

variable {run}

theorem notifyCompletion_eq {body : Bytes}
    (hbody : run.lib.serialiseBody (jobToPayload run.job) = .ok body) :
    run.client.notifyCompletion run.lib run.callbackUrl run.job run.apiKey =
      (run.loop body).attempt >>= fun outcome =>
        .ret (CallbackHttpClient.acknowledged outcome) := by
  rw [CallbackHttpClient.notifyCompletion, hbody]
  rfl

theorem result_eq {body : Bytes}
    (hbody : run.lib.serialiseBody (jobToPayload run.job) = .ok body) :
    run.result = .ok (CallbackHttpClient.acknowledged
      ((run.loop body).run (deliver run.outcomes) 0).1) := by
  rw [result, notifyCompletion_eq hbody, Program.run_bind, Program.run_attempt]
  rfl

theorem calls_eq {body : Bytes}
    (hbody : run.lib.serialiseBody (jobToPayload run.job) = .ok body) :
    run.calls = ((run.loop body).trace (deliver run.outcomes) 0).map Sigma.fst := by
  rw [calls, notifyCompletion_eq hbody, Program.trace_bind, Program.trace_attempt,
    Program.run_attempt]
  exact congrArg _ (List.append_nil _)

/-- A delivery ends behind some post, with as many sleeps as there are posts before it. -/
theorem ends {body : Bytes} (hbody : run.lib.serialiseBody (jobToPayload run.job) = .ok body)
    (hn : 0 < run.client.maxRetries) :
    ∃ m < run.client.maxRetries, m ≤ 1024 ∧ (∀ k < m, (run.outcomes k).Retryable) ∧
      (¬ (run.outcomes m).Retryable ∨ m + 1 = run.client.maxRetries ∨ m = 1024) ∧
      run.calls = deliveryCalls (run.request body) (m + 1) ∧
      ∃ acknowledged, run.result = .ok acknowledged ∧
        (acknowledged = true ↔ (run.outcomes m).Success) := by
  obtain ⟨m, r, t, hm, hbefore, hends, hrun, htrace⟩ := (deliveryRuns run.outcomes run.callbackUrl
    body (run.client.buildHeaders run.lib body run.apiKey)).exists_ends hn
  have hle : m ≤ 1024 := by
    rcases m with _ | m
    · exact Nat.zero_le _
    · exact (passes_delivery_iff.mp (hbefore m m.lt_succ_self)).2
  have hresult : run.result = .ok (CallbackHttpClient.acknowledged r) :=
    (result_eq hbody).trans (congrArg _ (congrArg _ (congrArg Prod.fst hrun)))
  have hcalls (ht : t = []) : run.calls = deliveryCalls (run.request body) (m + 1) := by
    rw [ht, List.append_nil] at htrace
    exact (calls_eq hbody).trans ((congrArg _ htrace).trans (calls_rounds hle))
  refine ⟨m, hm, hle, fun k hk => (passes_delivery_iff.mp (hbefore k hk)).1, ?_⟩
  cases hends with
  | stopped result h =>
    obtain ⟨hretryable, hsuccess⟩ := verdict_eq_final h
    exact ⟨Or.inl hretryable, hcalls rfl, result, hresult, hsuccess⟩
  | raised e h =>
    obtain ⟨hretryable, hsuccess⟩ := verdict_eq_error h
    exact ⟨Or.inl hretryable, hcalls rfl, false, hresult,
      iff_of_false Bool.false_ne_true hsuccess⟩
  | exhausted reason h hlast =>
    exact ⟨Or.inr (Or.inl hlast), hcalls rfl, false, hresult,
      iff_of_false Bool.false_ne_true (not_success_of_retryable (verdict_eq_again.mp h))⟩
  | broke reason e h hmore hpause =>
    have hretryable := verdict_eq_again.mp h
    have hlarge : ¬ m < 1024 := by
      intro hlt
      obtain ⟨-, hpaused⟩ := passes_delivery_iff.mpr ⟨hretryable, hlt⟩
      exact absurd (hpaused.symm.trans hpause) nofun
    refine ⟨Or.inr (Or.inr (by omega)), hcalls ?_, false, hresult,
      iff_of_false Bool.false_ne_true (not_success_of_retryable hretryable)⟩
    exact (trace_pauseDelivery run.outcomes m (m + 1)).trans (if_neg hlarge)

/-- There are as many posts as the calls are made for. -/
theorem postCount_deliveryCalls (body : Bytes) (n : ℕ) :
    postCount (deliveryCalls (run.request body) n) = n := by
  cases n with
  | zero => rfl
  | succ n =>
    have hrounds := countP_flatMap_range (p := CallbackOp.isPost) (n := n) (c := 1)
      (f := fun k => [run.request body, .sleep (.fin (1 / 2 * 2 ^ k))]) fun _ _ => rfl
    rw [deliveryCalls, postCount, List.countP_append, hrounds, Nat.mul_one]
    rfl

/-- Without any attempt allowed there is no post. -/
theorem ends_zero {body : Bytes} (hbody : run.lib.serialiseBody (jobToPayload run.job) = .ok body)
    (hzero : run.client.maxRetries = 0) : run.calls = [] ∧ run.result = .ok false := by
  have hloop : run.loop body = .ret (.again none) := by
    rw [loop, hzero]
    rfl
  rw [calls_eq hbody, result_eq hbody, hloop]
  exact ⟨rfl, rfl⟩

/-- With more attempts allowed and without a final outcome in time, the delivery ends behind the
attempt that is followed by too large a power. -/
theorem calls_of_overflow {body : Bytes}
    (hbody : run.lib.serialiseBody (jobToPayload run.job) = .ok body)
    (hmany : 1025 < run.client.maxRetries) (hall : ∀ k < 1025, (run.outcomes k).Retryable) :
    run.calls = deliveryCalls (run.request body) 1025 := by
  obtain ⟨m, hm, hle, hbefore, hend, hcalls, -⟩ := ends hbody (Nat.zero_lt_of_lt hmany)
  obtain rfl : m = 1024 := by
    rcases hend with hfinal | hlast | hm
    · exact absurd (hall m (Nat.lt_succ_of_le hle)) hfinal
    · omega
    · exact hm
  exact hcalls

theorem not_deliversAsStated_of_overflow {body : Bytes}
    (hbody : run.lib.serialiseBody (jobToPayload run.job) = .ok body)
    (hmany : 1025 < run.client.maxRetries) (hall : ∀ k < 1025, (run.outcomes k).Retryable) :
    ¬ DeliversAsStated run.client.maxRetries run.outcomes (run.request body) run.result
      run.calls := by
  intro h
  have hposts := h.posts
  rw [calls_of_overflow hbody hmany hall, postCount_deliveryCalls] at hposts
  exact not_isAttemptCount_succ hmany
    (fun k hk => not_not.mpr (hall k (Nat.lt_succ_of_le hk))) hposts

end DeliveryRun

open DeliveryRun in
/-- The client keeps its promise if and only if at most 1025 attempts are allowed, or one of the
first 1025 outcomes is final. -/
theorem deliversAsStated_iff (run : DeliveryRun) {body : Bytes}
    (hbody : run.lib.serialiseBody (jobToPayload run.job) = .ok body) :
    DeliversAsStated run.client.maxRetries run.outcomes (run.request body) run.result run.calls ↔
      run.client.maxRetries ≤ 1025 ∨ ∃ k < 1025, ¬ (run.outcomes k).Retryable := by
  rcases Nat.eq_zero_or_pos run.client.maxRetries with hzero | hpos
  · obtain ⟨hcalls, hresult⟩ := ends_zero hbody hzero
    refine iff_of_true ⟨?_, ?_, false, hresult, ?_⟩ (Or.inl (hzero ▸ Nat.zero_le _))
    · rw [hcalls, hzero]
      exact ⟨fun i _ => (Nat.zero_min _).symm, fun _ => rfl⟩
    · rw [hcalls]
      rfl
    · rw [hzero]
      exact iff_of_false Bool.false_ne_true fun ⟨i, hi, _⟩ => absurd hi (Nat.not_lt_zero i)
  obtain ⟨m, hm, hle, hbefore, hend, hcalls, acknowledged, hresult, hsuccess⟩ := ends hbody hpos
  have hcount : postCount run.calls = m + 1 := by
    rw [hcalls, postCount_deliveryCalls]
  constructor
  · intro h
    by_contra hcondition
    obtain ⟨hmany, hretryable⟩ := not_or.mp hcondition
    exact not_deliversAsStated_of_overflow hbody (not_le.mp hmany)
      (fun k hk => not_not.mp fun hfinal => hretryable ⟨k, hk, hfinal⟩) h
  · intro hcondition
    have hend' : ¬ (run.outcomes m).Retryable ∨ m + 1 = run.client.maxRetries := by
      rcases hend with hfinal | hlast | rfl
      · exact Or.inl hfinal
      · exact Or.inr hlast
      · rcases hcondition with hfew | ⟨k, hk, hfinal⟩
        · exact Or.inr (by omega)
        · obtain rfl : k = 1024 := by
            by_contra hne
            exact hfinal (hbefore k (by omega))
          exact Or.inl hfinal
    refine ⟨?_, ?_, acknowledged, hresult, hsuccess.trans ⟨fun h => ?_, ?_⟩⟩
    · rw [hcount]
      exact isAttemptCount_succ hm (fun k hk => not_not.mpr (hbefore k hk)) hend'
    · rw [hcount]
      exact hcalls
    · have hfinal : ¬ (run.outcomes m).Retryable := fun hretryable =>
        not_success_of_retryable hretryable h
      exact ⟨m, hm, ⟨hfinal, fun k hk => not_not.mpr (hbefore k hk)⟩, h⟩
    · rintro ⟨i, hi, hfirst, h⟩
      rcases hend' with hfinal | hlast
      · have hunique := hfirst.unique (j := m) ⟨hfinal, fun k hk => not_not.mpr (hbefore k hk)⟩
        exact hunique ▸ h
      · obtain rfl | him := Nat.eq_or_lt_of_le (show i ≤ m by omega)
        · exact h
        · exact absurd (hbefore i him) hfirst.1

/-- The payload of `planJob` in JSON. -/
def planBody : Bytes :=
  (String.toUTF8
    ("\x7b\"batch_id\":\"00000000-0000-0000-0000-000000000000\",\"confidence_tier\":null," ++
      "\"created_at\":\"1970-01-01T00:00:00+00:00\",\"error_message\":null,\"file_hash\":\"\"," ++
      "\"filename\":\"plan.pdf\",\"job_id\":\"00000000-0000-0000-0000-000000000000\"," ++
      "\"otel_trace_id\":null,\"overall_confidence\":null,\"processing_time_ms\":null," ++
      "\"result\":null,\"status\":\"processing\"," ++
      "\"updated_at\":\"1970-01-01T00:00:00+00:00\"\x7d")).toList

/-- The delivery of `planJob`, without a signature. -/
def planDelivery (maxRetries : ℤ) (outcomes : ℕ → DeliveryOutcome) : DeliveryRun where
  lib := ⟨fun _ _ => "", fun _ => .ok planBody⟩
  client := .init none maxRetries
  callbackUrl := "https://receiver.example/hook"
  job := planJob
  apiKey := "key"
  outcomes := outcomes

/-- The receiver is busy twice, and then acknowledges. -/
theorem deliversAsStated_iff_busyTwice :
    let run := planDelivery 3 fun k => .status (if k < 2 then 503 else 200)
    DeliversAsStated run.client.maxRetries run.outcomes (run.request planBody) run.result
      run.calls :=
  (deliversAsStated_iff (planDelivery 3 fun k => .status (if k < 2 then 503 else 200)) rfl).mpr
    (Or.inl (by decide))

/-- With 1026 attempts allowed and a receiver that is never reached, only 1025 are made. -/
theorem not_deliversAsStated_unreachable :
    let run := planDelivery 1026 fun _ => .transport (.error "ConnectError" "")
    ¬ DeliversAsStated run.client.maxRetries run.outcomes (run.request planBody) run.result
      run.calls :=
  @DeliveryRun.not_deliversAsStated_of_overflow _ planBody rfl (by decide)
    fun _ _ => trivial

end ZubotIngestion
