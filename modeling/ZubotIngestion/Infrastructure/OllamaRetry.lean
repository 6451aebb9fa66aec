import Mathlib.Data.Rat.Defs
import ZubotIngestion.Domain.Entities
import ZubotIngestion.Domain.Pipeline.JsonParser
import ZubotIngestion.Effects.Retry
import ZubotIngestion.Infrastructure.OllamaClient
import ZubotIngestion.Python.Power

/-!
# The retry loop of the Ollama client

`OllamaClient._post_generate` posts a request until the server answers with something else than
503 or 429, at most `max_attempts` times, and sleeps between two posts. A request is counted as a
success as soon as its status is 200, before the body is parsed. The decoder of the body is a
parameter; logs, the duration of a call and the causes of its errors are left out.

## Main definitions

* `computeBackoff`, `parseResponse`, `OllamaClient.postGenerate`.
* `GenerateOutcome`, `GenerateRun`: what the server answers to the posts.
* `GenerateRun.Exit`: the four ways in which a call ends.

## Main results

* `GenerateRun.exists_exit`: every call ends in one of them.
* `exists_parseResponse_iff`: the bodies that are parsed.
-/

namespace ZubotIngestion

open Effects

/-! ### The client -/

/-- `_compute_backoff`. -/
def computeBackoff (attemptIndex : ℤ) (initialSeconds multiplier : PyFloat) :
    Except PyException PyFloat :=
  if attemptIndex < 0 then .ok 0
  else (floatPow multiplier attemptIndex.toNat).map fun power => initialSeconds * power

/-- The labels of the counter of requests. -/
inductive RequestStatus : Type where
  | success
  | error
  | retry
  deriving DecidableEq

/-- A response of the server. -/
structure HttpResponse where
  statusCode : ℕ
  content : Bytes

/-- The calls of the client. -/
inductive OllamaOp : Type where
  /-- `self._http_client.post`. -/
  | post (url : String) (json : GeneratePayload)
  /-- `record_ollama_request_status`. -/
  | count (model : String) (status : RequestStatus)
  /-- `asyncio.sleep`. -/
  | sleep (delay : PyFloat)

/-- The value a call returns. -/
def OllamaOp.Res : OllamaOp → Type
  | .post .. => HttpResponse
  | .count .. => Unit
  | .sleep _ => Unit

/-- The exceptions of the client. -/
inductive OllamaException : Type where
  /-- An `httpx.HTTPError`. -/
  | httpError (exc : PyException)
  /-- `OllamaError`. -/
  | ollamaError (message : String) (statusCode : Option ℕ)
  | other (exc : PyException)

/-- The signature of the client. -/
abbrev ollamaCalls : Signature := ⟨OllamaOp, OllamaOp.Res⟩

/-- A program of the client. -/
abbrev Generating (α : Type) : Type := Program ollamaCalls OllamaException α

/-- `self._http_client.post(url, json=payload)`. -/
def postPayload (url : String) (payload : GeneratePayload) : Generating HttpResponse :=
  Program.perform (S := ollamaCalls) (.post url payload)

/-- `record_ollama_request_status(model, status)`. -/
def recordStatus (model : String) (status : RequestStatus) : Generating Unit :=
  Program.perform (S := ollamaCalls) (.count model status)

/-- `asyncio.sleep(delay)`. -/
def sleepOllama (delay : PyFloat) : Generating Unit :=
  Program.perform (S := ollamaCalls) (.sleep delay)

/-- `OllamaResponse`. -/
structure OllamaResponse where
  responseText : PyStr
  model : String
  promptEvalCount : Option ℤ
  evalCount : Option ℤ
  totalDurationNs : Option ℤ
  raw : JsonDict

/-- `int(value)` of a float: it truncates, and refuses what is not finite. -/
def intOfFloat : PyFloat → Except PyException ℤ
  | .fin q => .ok (q.num.tdiv q.den)
  | .nan => .error (.error "ValueError" "cannot convert float NaN to integer")
  | .inf => .error (.error "OverflowError" "cannot convert float infinity to integer")
  | .negInf => .error (.error "OverflowError" "cannot convert float infinity to integer")

/-- `_coerce_optional_int`. -/
def coerceOptionalInt : Option JsonValue → Except PyException (Option ℤ)
  | some (.int i) => .ok (some i)
  | some (.float f) => (intOfFloat f).map some
  | _ => .ok none

section Client

variable (json : Bytes → Except DecodeException JsonValue)

/-- `_parse_response`. `json` decodes the content of a response; only a `ValueError` of it is
caught. -/
def parseResponse (response : HttpResponse) (model : String) :
    Except OllamaException OllamaResponse :=
  match json response.content with
  | .error exc =>
    if exc.isValueError then
      .error (.ollamaError "Ollama /api/generate returned non-JSON body" (some response.statusCode))
    else .error (.other (.error "RecursionError" "maximum recursion depth exceeded"))
  | .ok (.dict body) =>
    match JsonDict.get? body (.of "response") with
    | some (.str responseText) => Except.mapError OllamaException.other do
      let promptEvalCount ← coerceOptionalInt (JsonDict.get? body (.of "prompt_eval_count"))
      let evalCount ← coerceOptionalInt (JsonDict.get? body (.of "eval_count"))
      let totalDurationNs ← coerceOptionalInt (JsonDict.get? body (.of "total_duration"))
      return { responseText, model, promptEvalCount, evalCount, totalDurationNs, raw := body }
    | _ =>
      .error (.ollamaError "Ollama /api/generate response missing 'response' field"
        (some response.statusCode))
  | .ok _ =>
    .error (.ollamaError "Ollama /api/generate returned non-object JSON body"
      (some response.statusCode))

/-- `_RETRYABLE_STATUS_CODES`. -/
def retryableStatusCodes : List ℕ := [429, 503]

/-- `last_error` and `last_status`: one of them is set by an attempt that may be retried. -/
inductive LastFailure : Type where
  | error (exc : PyException)
  | status (code : ℕ)

/-- `OllamaClient`. -/
structure OllamaClient where
  baseUrl : String
  maxAttempts : ℤ
  retryInitialBackoff : PyFloat
  retryBackoffMultiplier : PyFloat

namespace OllamaClient

/-- What the status of a response says. -/
def verdictOfResponse (response : HttpResponse) : Verdict HttpResponse LastFailure :=
  if response.statusCode = 200 then .final response
  else if response.statusCode ∈ retryableStatusCodes then .again (.status response.statusCode)
  else .final response

/-- One attempt of the loop. -/
def attemptGenerate (url : String) (payload : GeneratePayload) :
    Generating (Verdict HttpResponse LastFailure) := do
  match ← (postPayload url payload).attempt with
  | .error (.httpError exc) => return .again (.error exc)
  | .error e => .raise e
  | .ok response => return verdictOfResponse response

/-- The error when all attempts have been made. -/
def exhausted (maxAttempts : ℤ) : Option LastFailure → OllamaException
  | some (.status code) =>
    .ollamaError s!"Ollama /api/generate exhausted {maxAttempts} retries (last status {code})"
      (some code)
  | _ =>
    .ollamaError s!"Ollama /api/generate exhausted {maxAttempts} retries (transport error)" none

variable (client : OllamaClient)

/-- What stands between an attempt and the next one. -/
def pauseGenerate (model : String) (k : ℕ) : Generating Unit := do
  recordStatus model .retry
  let delay ← Program.ofExcept ((computeBackoff k client.retryInitialBackoff
    client.retryBackoffMultiplier).mapError .other)
  sleepOllama delay

/-- `_post_generate`. -/
def postGenerate (payload : GeneratePayload) (model : String) : Generating OllamaResponse := do
  let url := client.baseUrl ++ "/api/generate"
  match ← Program.retry (attemptGenerate url payload) (client.pauseGenerate model)
    client.maxAttempts.toNat 0 with
  | .final response =>
    if response.statusCode = 200 then
      recordStatus model .success
      Program.ofExcept (parseResponse json response model)
    else
      recordStatus model .error
      .raise (.ollamaError s!"Ollama /api/generate returned HTTP {response.statusCode}"
        (some response.statusCode))
  | .again last =>
    recordStatus model .error
    .raise (exhausted client.maxAttempts last)

end OllamaClient

end Client

/-! ### The body of a response -/

section Body

variable {json : Bytes → Except DecodeException JsonValue}

/-- The keys of the counters in a body. -/
def counterKeys : List PyStr :=
  [.of "prompt_eval_count", .of "eval_count", .of "total_duration"]

/-- A counter that `int` refuses: NaN or an infinity. -/
def NotFinite : Option JsonValue → Prop
  | some (.float (.fin _)) => False
  | some (.float _) => True
  | _ => False

/-- The counters of the body, if there are any, are neither NaN nor infinite. -/
def CountersFinite (json : Bytes → Except DecodeException JsonValue) (response : HttpResponse) :
    Prop :=
  ∀ body, json response.content = .ok (.dict body) →
    ∀ key ∈ counterKeys, ¬ NotFinite (JsonDict.get? body key)

/-- The body is an object with a string `response`. -/
def HasResponse (json : Bytes → Except DecodeException JsonValue) (response : HttpResponse) :
    Prop :=
  ∃ body text, json response.content = .ok (.dict body) ∧
    JsonDict.get? body (.of "response") = some (.str text)

/-- The body is nested too deeply: the decoder raises something else than a `ValueError`. -/
def NestedTooDeeply (json : Bytes → Except DecodeException JsonValue) (response : HttpResponse) :
    Prop :=
  ∃ exc, json response.content = .error exc ∧ exc.isValueError = false

theorem HasResponse.not_nestedTooDeeply {response : HttpResponse}
    (h : HasResponse json response) : ¬ NestedTooDeeply json response := by
  obtain ⟨body, text, hbody, -⟩ := h
  rintro ⟨exc, hexc, -⟩
  rw [hbody] at hexc
  cases hexc

/-- A counter is coerced, unless it is not finite. -/
theorem coerceOptionalInt_cases (value : Option JsonValue) :
    (∃ i, coerceOptionalInt value = .ok i) ∧ ¬ NotFinite value ∨
      (∃ exc, coerceOptionalInt value = .error exc) ∧ NotFinite value := by
  rcases value with _ | value
  · exact Or.inl ⟨⟨_, rfl⟩, id⟩
  · cases value with
    | float f =>
      cases f with
      | fin q => exact Or.inl ⟨⟨_, rfl⟩, id⟩
      | nan => exact Or.inr ⟨⟨_, rfl⟩, trivial⟩
      | inf => exact Or.inr ⟨⟨_, rfl⟩, trivial⟩
      | negInf => exact Or.inr ⟨⟨_, rfl⟩, trivial⟩
    | null => exact Or.inl ⟨⟨_, rfl⟩, id⟩
    | bool b => exact Or.inl ⟨⟨_, rfl⟩, id⟩
    | int i => exact Or.inl ⟨⟨_, rfl⟩, id⟩
    | str text => exact Or.inl ⟨⟨_, rfl⟩, id⟩
    | list items => exact Or.inl ⟨⟨_, rfl⟩, id⟩
    | dict items => exact Or.inl ⟨⟨_, rfl⟩, id⟩

variable {response : HttpResponse} {model : String}

/-- An object with a string `response` is parsed, unless a counter is not finite. -/
theorem parseResponse_of_dict {body : JsonDict} {text : PyStr}
    (hbody : json response.content = .ok (.dict body))
    (htext : JsonDict.get? body (.of "response") = some (.str text)) :
    (∃ r, parseResponse json response model = .ok r) ∧ CountersFinite json response ∨
      (∃ exc, parseResponse json response model = .error (.other exc)) ∧
        ¬ CountersFinite json response := by
  have hfinite : CountersFinite json response ↔
      ∀ key ∈ counterKeys, ¬ NotFinite (JsonDict.get? body key) := by
    refine ⟨fun h => h body hbody, fun h body' hbody' => ?_⟩
    obtain rfl := JsonValue.dict.inj (Except.ok.inj (hbody.symm.trans hbody'))
    exact h
  rw [parseResponse, hbody]
  dsimp only
  rw [htext, hfinite]
  dsimp only
  rcases coerceOptionalInt_cases (JsonDict.get? body (.of "prompt_eval_count")) with
    ⟨⟨i, hi⟩, hprompt⟩ | ⟨⟨exc, hexc⟩, hprompt⟩
  swap
  · rw [hexc]
    exact Or.inr ⟨⟨exc, rfl⟩, fun h => h _ (by simp [counterKeys]) hprompt⟩
  rcases coerceOptionalInt_cases (JsonDict.get? body (.of "eval_count")) with
    ⟨⟨j, hj⟩, heval⟩ | ⟨⟨exc, hexc⟩, heval⟩
  swap
  · rw [hi, hexc]
    exact Or.inr ⟨⟨exc, rfl⟩, fun h => h _ (by simp [counterKeys]) heval⟩
  rcases coerceOptionalInt_cases (JsonDict.get? body (.of "total_duration")) with
    ⟨⟨k, hk⟩, htotal⟩ | ⟨⟨exc, hexc⟩, htotal⟩
  swap
  · rw [hi, hj, hexc]
    exact Or.inr ⟨⟨exc, rfl⟩, fun h => h _ (by simp [counterKeys]) htotal⟩
  · rw [hi, hj, hk]
    refine Or.inl ⟨⟨_, rfl⟩, fun key hkey => ?_⟩
    simp only [counterKeys, List.mem_cons, List.not_mem_nil, or_false] at hkey
    rcases hkey with rfl | rfl | rfl
    exacts [hprompt, heval, htotal]

/-- Without an object that has a string `response`, decoded JSON is refused. -/
theorem parseResponse_of_not_hasResponse {value : JsonValue}
    (hjson : json response.content = .ok value) (h : ¬ HasResponse json response) :
    ∃ message, parseResponse json response model =
      .error (.ollamaError message (some response.statusCode)) := by
  rw [parseResponse, hjson]
  cases value with
  | dict body =>
    dsimp only
    rcases htext : JsonDict.get? body (.of "response") with _ | value
    · exact ⟨_, rfl⟩
    · cases value with
      | str text => exact absurd ⟨body, text, hjson, htext⟩ h
      | null => exact ⟨_, rfl⟩
      | bool b => exact ⟨_, rfl⟩
      | int i => exact ⟨_, rfl⟩
      | float f => exact ⟨_, rfl⟩
      | list items => exact ⟨_, rfl⟩
      | dict items => exact ⟨_, rfl⟩
  | null => exact ⟨_, rfl⟩
  | bool b => exact ⟨_, rfl⟩
  | int i => exact ⟨_, rfl⟩
  | float f => exact ⟨_, rfl⟩
  | str text => exact ⟨_, rfl⟩
  | list items => exact ⟨_, rfl⟩

variable (json response model)

/-- What becomes of a body: a response, an `OllamaError`, or an exception that escapes. -/
theorem parseResponse_cases :
    (∃ r, parseResponse json response model = .ok r) ∧
        HasResponse json response ∧ CountersFinite json response ∨
      (∃ message, parseResponse json response model =
        .error (.ollamaError message (some response.statusCode))) ∧
          ¬ HasResponse json response ∧ ¬ NestedTooDeeply json response ∨
      (∃ exc, parseResponse json response model = .error (.other exc)) ∧
        (NestedTooDeeply json response ∨
          HasResponse json response ∧ ¬ CountersFinite json response) := by
  cases hjson : json response.content with
  | error exc =>
    have hresponse : ¬ HasResponse json response := by
      rintro ⟨body, text, hbody, -⟩
      rw [hjson] at hbody
      cases hbody
    have hparse : parseResponse json response model = if exc.isValueError then
        .error (.ollamaError "Ollama /api/generate returned non-JSON body"
          (some response.statusCode))
        else .error (.other (.error "RecursionError" "maximum recursion depth exceeded")) := by
      rw [parseResponse, hjson]
    cases hexc : exc.isValueError with
    | true =>
      refine Or.inr (Or.inl ⟨⟨_, hparse.trans (if_pos hexc)⟩, hresponse, ?_⟩)
      rintro ⟨exc', hexc', hdeep⟩
      obtain rfl := Except.error.inj (hjson.symm.trans hexc')
      exact Bool.false_ne_true (hdeep.symm.trans hexc)
    | false =>
      exact Or.inr (Or.inr ⟨⟨_, hparse.trans (if_neg (ne_true_of_eq_false hexc))⟩,
        Or.inl ⟨exc, hjson, hexc⟩⟩)
  | ok value =>
    by_cases hresponse : HasResponse json response
    · obtain ⟨body, text, hbody, htext⟩ := hresponse
      rcases @parseResponse_of_dict _ _ model _ _ hbody htext with ⟨hok, hfinite⟩ | ⟨hexc, hnot⟩
      · exact Or.inl ⟨hok, ⟨body, text, hbody, htext⟩, hfinite⟩
      · exact Or.inr (Or.inr ⟨hexc, Or.inr ⟨⟨body, text, hbody, htext⟩, hnot⟩⟩)
    · refine Or.inr (Or.inl ⟨parseResponse_of_not_hasResponse hjson hresponse, hresponse, ?_⟩)
      rintro ⟨exc, hexc, -⟩
      rw [hjson] at hexc
      cases hexc

end Body

/-! ### The loop -/

/-- The outcome of a post. -/
inductive GenerateOutcome : Type where
  | transport (exc : PyException)
  | response (response : HttpResponse)

namespace GenerateOutcome

/-- The outcome as the answer to the call. -/
def answer : GenerateOutcome → Except OllamaException HttpResponse
  | transport exc => .error (.httpError exc)
  | response r => .ok r

/-- The status of the response, if there is one. -/
def status? : GenerateOutcome → Option ℕ
  | transport _ => none
  | response r => some r.statusCode

/-- Another attempt may follow: there was a transport error, or the server is busy. -/
def Retryable : GenerateOutcome → Prop
  | transport _ => True
  | response r => r.statusCode = 429 ∨ r.statusCode = 503

/-- What the outcome says. -/
def verdict : GenerateOutcome → Verdict HttpResponse LastFailure
  | transport exc => .again (.error exc)
  | response r => OllamaClient.verdictOfResponse r

theorem verdictOfResponse_eq (r : HttpResponse) : OllamaClient.verdictOfResponse r =
    if r.statusCode = 429 ∨ r.statusCode = 503 then .again (.status r.statusCode)
    else .final r := by
  have hcodes : r.statusCode ∈ retryableStatusCodes ↔
      r.statusCode = 429 ∨ r.statusCode = 503 := by
    simp [retryableStatusCodes]
  rw [OllamaClient.verdictOfResponse]
  simp only [hcodes]
  split_ifs with hok hbusy hbusy
  · omega
  all_goals rfl

theorem verdict_eq_final {outcome : GenerateOutcome} {r : HttpResponse}
    (h : outcome.verdict = .final r) : outcome = .response r ∧ ¬ outcome.Retryable := by
  cases outcome with
  | transport exc => cases h
  | response r' =>
    rw [verdict, verdictOfResponse_eq] at h
    split_ifs at h with hbusy
    obtain rfl := Verdict.final.inj h
    exact ⟨rfl, hbusy⟩

theorem verdict_eq_again {outcome : GenerateOutcome} {reason : LastFailure}
    (h : outcome.verdict = .again reason) : outcome.Retryable ∧
      ∀ maxAttempts, ∃ message, OllamaClient.exhausted maxAttempts (some reason) =
        .ollamaError message outcome.status? := by
  cases outcome with
  | transport exc =>
    obtain rfl := Verdict.again.inj h
    exact ⟨trivial, fun _ => ⟨_, rfl⟩⟩
  | response r =>
    rw [verdict, verdictOfResponse_eq] at h
    split_ifs at h with hbusy
    obtain rfl := Verdict.again.inj h
    exact ⟨hbusy, fun _ => ⟨_, rfl⟩⟩

theorem exists_verdict_eq_again {outcome : GenerateOutcome} (h : outcome.Retryable) :
    ∃ reason, outcome.verdict = .again reason := by
  cases outcome with
  | transport exc => exact ⟨_, rfl⟩
  | response r =>
    rw [verdict, verdictOfResponse_eq]
    exact ⟨_, if_pos h⟩

end GenerateOutcome

/-- A server and its outcomes, post by post; the state counts the posts. -/
def generateAnswer (outcomes : ℕ → GenerateOutcome) :
    (op : OllamaOp) → ℕ → Except OllamaException op.Res × ℕ
  | .post .., posts => ((outcomes posts).answer, posts + 1)
  | .count .., posts => (.ok (), posts)
  | .sleep _, posts => (.ok (), posts)

/-- Whether a call is a post. -/
def OllamaOp.isPost : OllamaOp → Bool
  | post .. => true
  | _ => false

/-- Whether a call counts a request with the label. -/
def OllamaOp.hasStatus (status : RequestStatus) : OllamaOp → Bool
  | count _ status' => decide (status' = status)
  | _ => false

/-- How many of the calls are posts. -/
def generateCount (calls : List OllamaOp) : ℕ := calls.countP OllamaOp.isPost

/-- By how much the calls increase the counter with the label. -/
def requestCount (status : RequestStatus) (calls : List OllamaOp) : ℕ :=
  calls.countP (OllamaOp.hasStatus status)

/-- A call of `_post_generate` with everything the client is given, and what the server answers. -/
structure GenerateRun where
  json : Bytes → Except DecodeException JsonValue
  client : OllamaClient
  payload : GeneratePayload
  model : String
  outcomes : ℕ → GenerateOutcome

namespace GenerateRun

variable (run : GenerateRun)

/-- What the call returns or raises. -/
def result : Except OllamaException OllamaResponse :=
  ((run.client.postGenerate run.json run.payload run.model).run (generateAnswer run.outcomes) 0).1

/-- The calls that the client makes. -/
def calls : List OllamaOp :=
  ((run.client.postGenerate run.json run.payload run.model).trace
    (generateAnswer run.outcomes) 0).map Sigma.fst

/-- The sleep behind the attempt numbered `k` raises. -/
def Overflows (k : ℕ) : Prop := PowerOverflows run.client.retryBackoffMultiplier k

/-- The loop of the call. -/
def loop : Generating (Verdict HttpResponse (Option LastFailure)) :=
  Program.retry (OllamaClient.attemptGenerate (run.client.baseUrl ++ "/api/generate") run.payload)
    (run.client.pauseGenerate run.model) run.client.maxAttempts.toNat 0

/-- The attempts and the sleeps of the call. -/
def retryRuns : RetryRuns (S := ollamaCalls)
    (OllamaClient.attemptGenerate (run.client.baseUrl ++ "/api/generate") run.payload)
    (run.client.pauseGenerate run.model) (generateAnswer run.outcomes) where
  state := id
  outcome k := .ok (run.outcomes k).verdict
  paused k := ((computeBackoff k run.client.retryInitialBackoff
    run.client.retryBackoffMultiplier).mapError .other).map fun _ => ()
  run_attempt k := by
    have hpost : (postPayload (run.client.baseUrl ++ "/api/generate") run.payload).run
        (generateAnswer run.outcomes) k = ((run.outcomes k).answer, k + 1) :=
      Program.run_perform _ _ _
    rw [OllamaClient.attemptGenerate, Program.run_bind, Program.run_attempt, id, hpost]
    cases run.outcomes k <;> rfl
  run_pause k := by
    have hcount : (recordStatus run.model .retry).run (generateAnswer run.outcomes) (k + 1) =
        (.ok (), k + 1) := Program.run_perform _ _ _
    rw [OllamaClient.pauseGenerate, Program.run_bind, id, hcount]
    dsimp only
    rw [Program.run_bind]
    cases computeBackoff k run.client.retryInitialBackoff run.client.retryBackoffMultiplier with
    | ok delay => exact Program.run_perform _ _ _
    | error exc => rfl

/-- The request of the call. -/
def request : OllamaOp := .post (run.client.baseUrl ++ "/api/generate") run.payload

variable {run}

theorem computeBackoff_eq (k : ℕ) (initialSeconds multiplier : PyFloat) :
    computeBackoff k initialSeconds multiplier =
      (floatPow multiplier k).map fun power => initialSeconds * power := by
  rw [computeBackoff, if_neg (by omega), Int.toNat_natCast]

theorem calls_attempt (k : ℕ) : (run.retryRuns.attemptCalls k).map Sigma.fst = [run.request] := by
  have htrace : (OllamaClient.attemptGenerate (run.client.baseUrl ++ "/api/generate")
      run.payload).trace (generateAnswer run.outcomes) k =
        [⟨run.request, (run.outcomes k).answer⟩] := by
    have hpost : (postPayload (run.client.baseUrl ++ "/api/generate") run.payload).run
        (generateAnswer run.outcomes) k = ((run.outcomes k).answer, k + 1) :=
      Program.run_perform _ _ _
    have hcall : (postPayload (run.client.baseUrl ++ "/api/generate") run.payload).trace
        (generateAnswer run.outcomes) k = [⟨run.request, (run.outcomes k).answer⟩] :=
      Program.trace_perform _ _ _
    rw [OllamaClient.attemptGenerate, Program.trace_bind, Program.trace_attempt,
      Program.run_attempt, hpost, hcall]
    cases run.outcomes k <;> rfl
  exact congrArg _ htrace

/-- A pause counts a retry, and then sleeps unless the power is too large. -/
theorem calls_pause (k : ℕ) : ∃ slept : List PyFloat,
    (run.retryRuns.pauseCalls k).map Sigma.fst =
        .count run.model .retry :: slept.map OllamaOp.sleep ∧
      (run.retryRuns.paused k = .ok () ∧ ¬ run.Overflows k ∨
        run.retryRuns.paused k = .error (.other powerOverflow) ∧ run.Overflows k ∧ slept = []) := by
  have hpause : (run.retryRuns.pauseCalls k).map Sigma.fst =
      ((run.client.pauseGenerate run.model k).trace (generateAnswer run.outcomes) (k + 1)).map
        Sigma.fst := rfl
  have hpaused : run.retryRuns.paused k = ((computeBackoff k run.client.retryInitialBackoff
    run.client.retryBackoffMultiplier).mapError .other).map fun _ => () := rfl
  have hcount : (recordStatus run.model .retry).run (generateAnswer run.outcomes) (k + 1) =
      (.ok (), k + 1) := Program.run_perform _ _ _
  have hcall : (recordStatus run.model .retry).trace (generateAnswer run.outcomes) (k + 1) =
      [⟨.count run.model .retry, .ok ()⟩] := Program.trace_perform _ _ _
  rw [hpause, hpaused, OllamaClient.pauseGenerate, Program.trace_bind, hcount, hcall,
    computeBackoff_eq]
  cases hpower : floatPow run.client.retryBackoffMultiplier k with
  | ok power =>
    refine ⟨[run.client.retryInitialBackoff * power], rfl, Or.inl ⟨rfl, fun hoverflows => ?_⟩⟩
    rw [floatPow_eq_error_iff.mpr ⟨rfl, hoverflows⟩] at hpower
    cases hpower
  | error exc =>
    obtain ⟨rfl, hoverflows⟩ := floatPow_eq_error_iff.mp hpower
    exact ⟨[], rfl, Or.inr ⟨rfl, hoverflows, rfl⟩⟩

theorem passes_iff {k : ℕ} :
    run.retryRuns.Passes k ↔ (run.outcomes k).Retryable ∧ ¬ run.Overflows k := by
  obtain ⟨slept, -, hpaused⟩ := run.calls_pause k
  constructor
  · rintro ⟨⟨reason, hreason⟩, hok⟩
    refine ⟨(GenerateOutcome.verdict_eq_again (Except.ok.inj hreason)).1, ?_⟩
    rcases hpaused with ⟨-, hpower⟩ | ⟨herror, -⟩
    · exact hpower
    · cases hok.symm.trans herror
  · rintro ⟨hretryable, hpower⟩
    obtain ⟨reason, hreason⟩ := GenerateOutcome.exists_verdict_eq_again hretryable
    refine ⟨⟨reason, congrArg Except.ok hreason⟩, ?_⟩
    rcases hpaused with ⟨hok, -⟩ | ⟨-, hoverflows, -⟩
    · exact hok
    · exact absurd hoverflows hpower

/-- The calls of the first rounds and of the post behind them. -/
def front (run : GenerateRun) (m : ℕ) : List OllamaOp :=
  (run.retryRuns.rounds m ++ run.retryRuns.attemptCalls m).map Sigma.fst

theorem countP_round (p : OllamaOp → Bool) (hsleep : ∀ delay, p (.sleep delay) = false) (k : ℕ) :
    ((run.retryRuns.attemptCalls k ++ run.retryRuns.pauseCalls k).map Sigma.fst).countP p =
      [run.request, .count run.model .retry].countP p := by
  obtain ⟨slept, hcalls, -⟩ := run.calls_pause k
  have hslept : (slept.map OllamaOp.sleep).countP p = 0 := by
    refine List.countP_eq_zero.mpr fun op hop => ?_
    obtain ⟨delay, -, rfl⟩ := List.mem_map.mp hop
    exact ne_true_of_eq_false (hsleep delay)
  have hround : [run.request] ++ .count run.model .retry :: slept.map OllamaOp.sleep =
      [run.request, .count run.model .retry] ++ slept.map OllamaOp.sleep := rfl
  rw [List.map_append, calls_attempt, hcalls, hround, List.countP_append, hslept, Nat.add_zero]

theorem countP_front (p : OllamaOp → Bool) (hsleep : ∀ delay, p (.sleep delay) = false) (m : ℕ) :
    (run.front m).countP p =
      m * [run.request, .count run.model .retry].countP p + [run.request].countP p := by
  rw [front, List.map_append, List.countP_append, calls_attempt, RetryRuns.rounds, List.map_flatMap,
    countP_flatMap_range fun k _ => countP_round p hsleep k]

theorem generateCount_front (m : ℕ) (t : List OllamaOp) :
    generateCount (run.front m ++ t) = m + 1 + generateCount t := by
  have hround : [run.request, .count run.model .retry].countP OllamaOp.isPost = 1 := rfl
  have hpost : [run.request].countP OllamaOp.isPost = 1 := rfl
  rw [generateCount, List.countP_append, countP_front _ fun _ => rfl, hround, hpost, Nat.mul_one,
    generateCount]

theorem requestCount_front (status : RequestStatus) (m : ℕ) (t : List OllamaOp) :
    requestCount status (run.front m ++ t) =
      (if status = .retry then m else 0) + requestCount status t := by
  have hround : [run.request, .count run.model .retry].countP (OllamaOp.hasStatus status) =
      if status = .retry then 1 else 0 := by
    cases status <;> rfl
  have hpost : [run.request].countP (OllamaOp.hasStatus status) = 0 := rfl
  rw [requestCount, List.countP_append, countP_front _ fun _ => rfl, hround, hpost, Nat.add_zero,
    requestCount, mul_ite, Nat.mul_one, Nat.mul_zero]

/-- The ways in which the call can end behind the post numbered `m`: what it returns or raises, and
the calls it makes behind the post. -/
inductive Exit (run : GenerateRun) (m : ℕ) :
    Except OllamaException OllamaResponse → List OllamaOp → Prop
  /-- The server has answered. -/
  | answered (r : HttpResponse) (h : run.outcomes m = .response r) (hok : r.statusCode = 200) :
      Exit run m (parseResponse run.json r run.model) [.count run.model .success]
  /-- The server has answered with an error. -/
  | refused (r : HttpResponse) (h : run.outcomes m = .response r)
      (hfinal : ¬ (run.outcomes m).Retryable) (hok : r.statusCode ≠ 200) (message : String) :
      Exit run m (.error (.ollamaError message (some r.statusCode))) [.count run.model .error]
  /-- No attempt is left. -/
  | exhausted (hretryable : (run.outcomes m).Retryable)
      (hlast : m + 1 = run.client.maxAttempts.toNat) (message : String) :
      Exit run m (.error (.ollamaError message (run.outcomes m).status?))
        [.count run.model .error]
  /-- The length of the sleep is too large for a float. -/
  | broke (hretryable : (run.outcomes m).Retryable) (hmore : m + 1 < run.client.maxAttempts.toNat)
      (hoverflows : run.Overflows m) :
      Exit run m (.error (.other powerOverflow)) [.count run.model .retry]

/-- What comes behind the loop: the label that is counted, and what is returned or raised. -/
def finish (run : GenerateRun) : Verdict HttpResponse (Option LastFailure) →
    RequestStatus × Except OllamaException OllamaResponse
  | .final response =>
    if response.statusCode = 200 then (.success, parseResponse run.json response run.model)
    else (.error, .error (.ollamaError
      s!"Ollama /api/generate returned HTTP {response.statusCode}" (some response.statusCode)))
  | .again last => (.error, .error (OllamaClient.exhausted run.client.maxAttempts last))

theorem postGenerate_eq : run.client.postGenerate run.json run.payload run.model =
    run.loop >>= fun verdict => recordStatus run.model (run.finish verdict).1 >>= fun _ =>
      Program.ofExcept (run.finish verdict).2 := by
  rw [OllamaClient.postGenerate]
  refine congrArg _ (funext fun verdict => ?_)
  cases verdict with
  | final response =>
    dsimp only
    rw [finish]
    split_ifs <;> rfl
  | again last => rfl

/-- The calls behind the loop: its outcome is counted, unless the loop raises. -/
def finishCalls (run : GenerateRun) :
    Except OllamaException (Verdict HttpResponse (Option LastFailure)) → List OllamaOp
  | .ok verdict => [.count run.model (run.finish verdict).1]
  | .error _ => []

theorem run_record (status : RequestStatus) (r : Except OllamaException OllamaResponse)
    (posts : ℕ) :
    (recordStatus run.model status >>= fun _ => Program.ofExcept r).run
      (generateAnswer run.outcomes) posts = (r, posts) := by
  cases r <;> rfl

theorem trace_record (status : RequestStatus) (r : Except OllamaException OllamaResponse)
    (posts : ℕ) :
    (recordStatus run.model status >>= fun _ => Program.ofExcept r).trace
      (generateAnswer run.outcomes) posts = [⟨.count run.model status, .ok ()⟩] := by
  cases r <;> rfl

theorem result_of_loop {r : Except OllamaException (Verdict HttpResponse (Option LastFailure))}
    {posts : ℕ} (h : run.loop.run (generateAnswer run.outcomes) 0 = (r, posts)) :
    run.result = r.bind fun verdict => (run.finish verdict).2 := by
  rw [result, postGenerate_eq, Program.run_bind, h]
  cases r with
  | error e => rfl
  | ok verdict => exact congrArg Prod.fst (run_record _ _ posts)

theorem calls_of_loop {r : Except OllamaException (Verdict HttpResponse (Option LastFailure))}
    {posts : ℕ} (h : run.loop.run (generateAnswer run.outcomes) 0 = (r, posts)) :
    run.calls = (run.loop.trace (generateAnswer run.outcomes) 0).map Sigma.fst ++
      run.finishCalls r := by
  rw [calls, postGenerate_eq, Program.trace_bind, h, List.map_append]
  cases r with
  | error e => rfl
  | ok verdict =>
    exact congrArg (_ ++ ·) (congrArg (List.map Sigma.fst) (trace_record _ _ posts))

/-- Every call with an attempt allowed ends in one of these ways. -/
theorem exists_exit (run : GenerateRun) (hn : 0 < run.client.maxAttempts.toNat) :
    ∃ m < run.client.maxAttempts.toNat,
      (∀ k < m, (run.outcomes k).Retryable ∧ ¬ run.Overflows k) ∧
        ∃ tail, run.Exit m run.result tail ∧ run.calls = run.front m ++ tail := by
  obtain ⟨m, r, t, hm, hbefore, hends, hrun, htrace⟩ := run.retryRuns.exists_ends hn
  have hresult := result_of_loop hrun
  have hcalls : run.calls = run.front m ++ (t.map Sigma.fst ++ run.finishCalls r) := by
    have hloop : (run.loop.trace (generateAnswer run.outcomes) 0).map Sigma.fst =
        run.front m ++ t.map Sigma.fst := by
      rw [front, ← List.map_append, List.append_assoc]
      exact congrArg _ htrace
    rw [calls_of_loop hrun, hloop, List.append_assoc]
  refine ⟨m, hm, fun k hk => passes_iff.mp (hbefore k hk), _, ?_, hcalls⟩
  rw [hresult]
  cases hends with
  | stopped response h =>
    obtain ⟨houtcome, hfinal⟩ := GenerateOutcome.verdict_eq_final (Except.ok.inj h)
    change run.Exit m (run.finish (.final response)).2
      [.count run.model (run.finish (.final response)).1]
    rw [finish]
    split_ifs with hok
    · exact .answered response houtcome hok
    · exact .refused response houtcome hfinal hok _
  | raised e h => cases h
  | exhausted reason h hlast =>
    obtain ⟨hretryable, hmessage⟩ := GenerateOutcome.verdict_eq_again (Except.ok.inj h)
    obtain ⟨message, hmessage⟩ := hmessage run.client.maxAttempts
    change run.Exit m (.error (OllamaClient.exhausted run.client.maxAttempts (some reason)))
      [.count run.model .error]
    rw [hmessage]
    exact .exhausted hretryable hlast message
  | broke reason e h hmore hpause =>
    obtain ⟨hretryable, -⟩ := GenerateOutcome.verdict_eq_again (Except.ok.inj h)
    obtain ⟨slept, hslept, hpaused⟩ := run.calls_pause m
    rcases hpaused with ⟨hok, -⟩ | ⟨herror, hoverflows, rfl⟩
    · cases hpause.symm.trans hok
    · obtain rfl := Except.error.inj (hpause.symm.trans herror)
      rw [hslept]
      exact .broke hretryable hmore hoverflows

end GenerateRun

end ZubotIngestion
