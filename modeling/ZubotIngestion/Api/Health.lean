import Mathlib.Data.List.DropRight
import ZubotIngestion.Effects.Ensuring
import ZubotIngestion.Effects.Gather
import ZubotIngestion.Python.Value

/-!
# The health check

`health_check` probes five dependencies and the Celery workers concurrently. A probe may fail at
any call, and it is cancelled at a call when its time is up; its clients are closed all the same,
and the failure becomes its entry in the response. So the response always comes, each entry is the
outcome of the calls of its own probe, however the probes are interleaved, and only the critical
dependencies decide between the status codes.

## Main definitions

* `probe`, `safeProbe`, `safeCeleryProbe`: the gathered programs.
* `aggregateStatus`, `healthResponse`: what is made of their outcomes.
* `WentWell`: a call did not spoil its probe.

## Main results

* `healthCheck_reports`: the response for every interleaving and all answers.
-/

namespace ZubotIngestion

open Effects Effects.Program

/-! ### The calls of the probes -/

/-- The settings that the probes read. -/
structure ProbeSettings where
  databaseUrl : String
  redisUrl : String
  ollamaHost : String
  chromadbHost : String
  chromadbPort : ℤ
  elasticsearchUrl : String

/-- The clients that are opened and closed. -/
inductive ProbeClient : Type where
  | engine (databaseUrl : String)
  | redis (redisUrl : String)
  | http
  | elasticsearch (host : String)
  deriving DecidableEq

/-- The calls of the probes. -/
inductive ProbeOp : Type where
  | getSettings
  | perfCounter
  | openClient (client : ProbeClient)
  | closeClient (client : ProbeClient)
  /-- `session.execute`, in a session of the engine. -/
  | execute (statement : String)
  | closeSession
  | ping
  | get (url : String)
  /-- `chromadb.HttpClient(host, port).list_collections()`, in a thread. -/
  | listCollections (host : String) (port : ℤ)
  | clusterHealth
  /-- `inspect.active()`: the tasks of each worker that answers. -/
  | inspectActive
  | inspectReserved
  deriving DecidableEq

/-- What the calls return: a status code for `get`, and for each worker the number of its tasks. -/
def ProbeOp.Res : ProbeOp → Type
  | .getSettings => ProbeSettings
  | .perfCounter => ℚ
  | .get _ => ℕ
  | .inspectActive => Option (List (String × ℕ))
  | .inspectReserved => Option (List (String × ℕ))
  | _ => Unit

/-- What a call raises: the `CancelledError` of a time limit, an `asyncio.TimeoutError`, or another
exception. -/
inductive Interrupt : Type where
  | cancelled
  | timedOut
  | raised (exc : PyException)

/-- The calls of the probes, as a signature. -/
def probes : Signature := ⟨ProbeOp, ProbeOp.Res⟩

abbrev ProbeProgram (α : Type) : Type := Program probes Interrupt α

abbrev ProbeCall : Type := Event probes Interrupt

/-- One call of a probe. -/
def invoke (op : ProbeOp) : ProbeProgram op.Res := Program.perform (S := probes) op

/-! ### The probes -/

/-- An entry of the response. -/
structure DependencyEntry where
  status : String
  latencyMs : ℤ
  error : Option String

/-- `int((time.perf_counter() - start) * 1000)`. -/
def elapsedMs (start now : ℚ) : ℤ := ((now - start) * 1000).num.tdiv ((now - start) * 1000).den

/-- What a probe returns of a dependency that has answered. -/
def answered (start now : ℚ) : DependencyEntry := ⟨"healthy", elapsedMs start now, none⟩

/-- `_probe_postgres`. -/
def probePostgres : ProbeProgram DependencyEntry := do
  let settings ← invoke .getSettings
  invoke (.openClient (.engine settings.databaseUrl))
  let start ← invoke .perfCounter
  ensuring (do
    ensuring (invoke (.execute "SELECT 1")) (invoke .closeSession)
    let now ← invoke .perfCounter
    return answered start now) (invoke (.closeClient (.engine settings.databaseUrl)))

/-- The `finally` clause that passes over exceptions of the close. A cancellation is none. -/
def closeQuietly (client : ProbeClient) : ProbeProgram Unit := do
  match ← (invoke (.closeClient client)).attempt with
  | .error .cancelled => raise .cancelled
  | _ => return ()

/-- A probe of one request to a client that is closed quietly. -/
def probeQuietly (client : ProbeSettings → ProbeClient) (request : ProbeProgram Unit) :
    ProbeProgram DependencyEntry := do
  let settings ← invoke .getSettings
  invoke (.openClient (client settings))
  let start ← invoke .perfCounter
  ensuring (do
    request
    let now ← invoke .perfCounter
    return answered start now) (closeQuietly (client settings))

/-- `_probe_redis`. -/
def probeRedis : ProbeProgram DependencyEntry :=
  probeQuietly (fun settings => .redis settings.redisUrl) (invoke .ping)

/-- `_probe_elasticsearch`. -/
def probeElasticsearch : ProbeProgram DependencyEntry :=
  probeQuietly (fun settings => .elasticsearch settings.elasticsearchUrl) (invoke .clusterHealth)

/-- `f"{settings.OLLAMA_HOST.rstrip('/')}/api/tags"`. -/
def tagsUrl (ollamaHost : String) : String :=
  String.ofList (ollamaHost.toList.rdropWhile (· == '/')) ++ "/api/tags"

/-- `_probe_ollama`. -/
def probeOllama : ProbeProgram DependencyEntry := do
  let settings ← invoke .getSettings
  let start ← invoke .perfCounter
  invoke (.openClient .http)
  let statusCode : ℕ ←
    ensuring (invoke (.get (tagsUrl settings.ollamaHost))) (invoke (.closeClient .http))
  let now ← invoke .perfCounter
  if statusCode = 200 then return answered start now
  else return ⟨"unhealthy", elapsedMs start now, some s!"ollama returned HTTP {statusCode}"⟩

/-- `_probe_chromadb`. -/
def probeChromadb : ProbeProgram DependencyEntry := do
  let settings ← invoke .getSettings
  let start ← invoke .perfCounter
  invoke (.listCollections settings.chromadbHost settings.chromadbPort)
  let now ← invoke .perfCounter
  return answered start now

/-- The dependencies, in the order of `probes`. -/
inductive Dependency : Type where
  | postgres
  | redis
  | ollama
  | chromadb
  | elasticsearch
  deriving DecidableEq

/-- The keys of the response. -/
def Dependency.name : Dependency → String
  | postgres => "postgres"
  | redis => "redis"
  | ollama => "ollama"
  | chromadb => "chromadb"
  | elasticsearch => "elasticsearch"

/-- The list `probes` of `health_check`. -/
def Dependency.all : List Dependency := [postgres, redis, ollama, chromadb, elasticsearch]

/-- The probe of a dependency. -/
def probe : Dependency → ProbeProgram DependencyEntry
  | .postgres => probePostgres
  | .redis => probeRedis
  | .ollama => probeOllama
  | .chromadb => probeChromadb
  | .elasticsearch => probeElasticsearch

/-- `_safe_probe`. A cancellation at the time limit is a timeout outside. -/
def safeProbe (name : String) (probe : ProbeProgram DependencyEntry) :
    ProbeProgram (String × DependencyEntry) := do
  let start ← invoke .perfCounter
  match ← probe.attempt with
  | .ok entry => return (name, entry)
  | .error (.raised exc) =>
    let now ← invoke .perfCounter
    return (name, ⟨"unhealthy", elapsedMs start now, some s!"{exc.typeName}: {exc.message}"⟩)
  | .error _ =>
    let now ← invoke .perfCounter
    return (name, ⟨"unhealthy", elapsedMs start now, some "probe exceeded 5.0s timeout"⟩)

/-- The entry of the workers. -/
structure WorkersEntry where
  active : ℕ
  queueDepth : ℕ

/-- The counts of `_probe_celery`; no answer counts as none. -/
def countWorkers (active reserved : Option (List (String × ℕ))) : WorkersEntry where
  active := (active.getD []).length
  queueDepth := ((active.getD []).map Prod.snd).sum + ((reserved.getD []).map Prod.snd).sum

/-- `_probe_celery`. -/
def probeCelery : ProbeProgram WorkersEntry := do
  let active ← invoke .inspectActive
  let reserved ← invoke .inspectReserved
  return countWorkers active reserved

/-- `_safe_celery_probe`. -/
def safeCeleryProbe : ProbeProgram WorkersEntry := do
  match ← probeCelery.attempt with
  | .ok workers => return workers
  | .error _ => return ⟨0, 0⟩

/-! ### The response -/

/-- `CRITICAL_DEPENDENCIES`. -/
def criticalDependencies : List String := ["postgres", "redis"]

/-- `_aggregate_status`. -/
def aggregateStatus (deps : List (String × DependencyEntry)) : String :=
  if criticalDependencies.any fun name =>
      (deps.lookup name).any fun entry => entry.status ≠ "healthy" then "unhealthy"
  else if deps.any fun dep => dep.1 ∉ criticalDependencies ∧ dep.2.status ≠ "healthy" then
    "degraded"
  else "healthy"

/-- The response, and the value that `update_queue_depth_gauge` sets. -/
structure HealthResponse where
  statusCode : ℕ
  status : String
  service : String
  version : String
  dependencies : List (String × DependencyEntry)
  workers : WorkersEntry
  queueDepthGauge : ℤ

/-- What `health_check` makes of the gathered results. -/
def healthResponse (probeResults : List (String × DependencyEntry)) (workers : WorkersEntry) :
    HealthResponse where
  statusCode := if aggregateStatus probeResults ∈ ["healthy", "degraded"] then 200 else 503
  status := aggregateStatus probeResults
  service := "zubot-ingestion"
  version := "0.1.0"
  dependencies := probeResults
  workers := workers
  queueDepthGauge := max 0 workers.queueDepth

/-! ### The gathered tasks -/

/-- The tasks that are gathered. -/
inductive HealthTask : Type where
  | dependency (d : Dependency)
  | celery

/-- The tasks, in their order. -/
def healthTasks : List HealthTask := Dependency.all.map .dependency ++ [.celery]

/-- What a task returns. -/
inductive HealthResult : Type where
  | entry (result : String × DependencyEntry)
  | workers (result : WorkersEntry)

/-- The program of a task. -/
def HealthTask.launch : HealthTask → ProbeProgram HealthResult
  | .dependency d => HealthResult.entry <$> safeProbe d.name (probe d)
  | .celery => HealthResult.workers <$> safeCeleryProbe

/-! ### Calls that went well -/

/-- A call that only has to return. -/
def ProbeOp.isPlain : ProbeOp → Bool
  | .get _ => false
  | .closeClient (.redis _) => false
  | .closeClient (.elasticsearch _) => false
  | _ => true

/-- The call did not spoil its probe: it returned, with a status code of 200, or it was a close
that is passed over. -/
def WentWell : ProbeCall → Prop
  | ⟨.get _, r⟩ => r = .ok (200 : ℕ)
  | ⟨.closeClient (.redis _), r⟩ => r ≠ .error .cancelled
  | ⟨.closeClient (.elasticsearch _), r⟩ => r ≠ .error .cancelled
  | ⟨_, r⟩ => ∃ v, r = .ok v

theorem wentWell_iff {op : ProbeOp} (h : op.isPlain = true) (r : Except Interrupt op.Res) :
    WentWell ⟨op, r⟩ ↔ ∃ v, r = .ok v := by
  cases op with
  | get url => cases h
  | closeClient client => cases client <;> first | exact Iff.rfl | cases h
  | _ => exact Iff.rfl

/-- A call that only has to return decides for itself. -/
theorem goodIff_invoke (op : ProbeOp) (h : op.isPlain = true) :
    (invoke op).GoodIff WentWell fun _ => True :=
  goodIff_perform fun r => (wentWell_iff h r).trans
    (exists_congr fun _ => (and_iff_left trivial).symm)

/-- A quiet close. -/
theorem goodIff_closeQuietly {client : ProbeClient}
    (h : ∀ r, WentWell ⟨.closeClient client, r⟩ ↔ r ≠ .error .cancelled) :
    (closeQuietly client).GoodIff WentWell fun _ => True := by
  intro t o hrun
  obtain ⟨r, t', rfl, hrest⟩ := runs_attempt_perform_bind.mp hrun
  rcases r with (_ | _ | exc) | v
  · obtain ⟨rfl, rfl⟩ := runs_raise.mp hrest
    rw [List.forall_mem_singleton, h]
    exact iff_of_false (fun ⟨_, h, _⟩ => nomatch h) fun hne => hne rfl
  all_goals
    obtain ⟨rfl, rfl⟩ := runs_ret.mp hrest
    rw [List.forall_mem_singleton, h]
    exact iff_of_true ⟨(), rfl, trivial⟩ fun h => nomatch h

/-- The entry of a dependency that has answered. -/
def IsHealthy (entry : DependencyEntry) : Prop := entry.status = "healthy"

theorem unhealthy_ne : "unhealthy" ≠ "healthy" := by decide

/-- The end of a probe that has been answered. -/
theorem goodIff_answered (start : ℚ) : (do
    let now ← invoke .perfCounter
    return answered start now : ProbeProgram DependencyEntry).GoodIff WentWell IsHealthy :=
  (goodIff_invoke _ rfl).seq fun _ => goodIff_ret rfl

/-- A probe of one request that is closed quietly. -/
theorem goodIff_probeQuietly {client : ProbeSettings → ProbeClient}
    (hopen : ∀ settings, (ProbeOp.openClient (client settings)).isPlain = true)
    (hclose : ∀ settings r,
      WentWell ⟨.closeClient (client settings), r⟩ ↔ r ≠ .error .cancelled)
    {request : ProbeProgram Unit} (hrequest : request.GoodIff WentWell fun _ => True) :
    (probeQuietly client request).GoodIff WentWell IsHealthy :=
  (goodIff_invoke _ rfl).seq fun settings => (goodIff_invoke _ (hopen settings)).seq fun _ =>
    (goodIff_invoke _ rfl).seq fun start => (hrequest.seq fun _ => goodIff_answered start).ensuring
      (goodIff_closeQuietly (hclose settings))

/-- The request to Ollama, in its client: it must be answered with the status code 200. -/
theorem goodIff_tags (url : String) :
    (ensuring (invoke (.get url)) (invoke (.closeClient .http))).GoodIff WentWell
      fun statusCode : ℕ => statusCode = 200 := by
  have hget : (invoke (.get url)).GoodIff WentWell fun statusCode : ℕ => statusCode = 200 := by
    refine @goodIff_perform probes Interrupt WentWell (.get url) (fun code : ℕ => code = 200)
      fun r => ?_
    constructor
    · exact fun h => ⟨_, h, rfl⟩
    · rintro ⟨statusCode, rfl, rfl⟩
      rfl
  exact hget.ensuring (goodIff_invoke (.closeClient .http) rfl)

/-- A probe returns a healthy entry iff all its calls went well. -/
theorem goodIff_probe (d : Dependency) : (probe d).GoodIff WentWell IsHealthy := by
  cases d with
  | postgres =>
    refine (goodIff_invoke _ rfl).seq fun settings => (goodIff_invoke _ rfl).seq fun _ =>
      (goodIff_invoke _ rfl).seq fun start =>
        GoodIff.ensuring ?_ (goodIff_invoke (.closeClient _) rfl)
    have hsession := (goodIff_invoke (.execute "SELECT 1") rfl).ensuring
      (goodIff_invoke .closeSession rfl)
    exact hsession.seq fun _ => goodIff_answered start
  | redis =>
    exact goodIff_probeQuietly (fun _ => rfl) (fun _ _ => Iff.rfl) (goodIff_invoke .ping rfl)
  | ollama =>
    refine (goodIff_invoke _ rfl).seq fun settings => (goodIff_invoke _ rfl).seq fun start =>
      (goodIff_invoke _ rfl).seq fun _ => (goodIff_tags _).bind (fun statusCode hcode => ?_)
        fun statusCode hcode => Yields.bind fun now => ?_
    · refine (goodIff_invoke .perfCounter rfl).seq fun now => ?_
      rw [if_pos hcode]
      exact goodIff_ret rfl
    · rw [if_neg hcode]
      exact yields_ret unhealthy_ne
  | chromadb =>
    exact (goodIff_invoke _ rfl).seq fun settings => (goodIff_invoke _ rfl).seq fun start =>
      (goodIff_invoke _ rfl).seq fun _ => goodIff_answered start
  | elasticsearch =>
    exact goodIff_probeQuietly (fun _ => rfl) (fun _ _ => Iff.rfl)
      (goodIff_invoke .clusterHealth rfl)

/-! ### Clients are closed -/

/-- The clock always answers. -/
def ClockAnswers : (op : ProbeOp) → Except Interrupt op.Res → Prop
  | .perfCounter, r => ∃ now, r = .ok now
  | _, _ => True

/-- The call opens the client. -/
def opensClient (client : ProbeClient) : ProbeCall → Bool
  | ⟨.openClient c, r⟩ => r.toBool && decide (c = client)
  | _ => false

/-- The call closes the client, or tries to. -/
def closesClient (client : ProbeClient) : ProbeCall → Bool
  | ⟨.closeClient c, _⟩ => decide (c = client)
  | _ => false

/-- In every run, each client is closed as often as it is opened. -/
def ClosesClients {α : Type} (p : ProbeProgram α) : Prop :=
  ∀ client, p.Balanced ClockAnswers (opensClient client) (closesClient client)

/-- A call that is about no client. -/
def ProbeOp.isRequest : ProbeOp → Bool
  | .openClient _ => false
  | .closeClient _ => false
  | _ => true

theorem closesClients_invoke (op : ProbeOp) (h : op.isRequest = true) :
    ClosesClients (invoke op) := by
  intro client
  refine balanced_perform fun r => ?_
  cases op <;> first | exact ⟨rfl, rfl⟩ | cases h

theorem ClosesClients.bind {α β : Type} {p : ProbeProgram α} {f : α → ProbeProgram β}
    (hp : ClosesClients p) (hf : ∀ a, ClosesClients (f a)) : ClosesClients (p >>= f) :=
  fun client => (hp client).bind fun a => hf a client

theorem closesClients_ret {α : Type} (a : α) : ClosesClients (ret a : ProbeProgram α) :=
  fun _ => balanced_ret a

/-- A client that is opened, with a setup that returns, and closed by the cleanup. -/
theorem closesClients_bracket {α β : Type} (c : ProbeClient) {setup : ProbeProgram β}
    {body : β → ProbeProgram α} {cleanup : ProbeProgram Unit} (hsetup : ClosesClients setup)
    (hreturns : ∀ t o, setup.Runs t o → (∀ call ∈ t, ClockAnswers call.1 call.2) →
      ∃ b, o = .ok b)
    (hbody : ∀ b, ClosesClients (body b))
    (hcleanup : ∀ t o, cleanup.Runs t o → ∃ r, t = [⟨.closeClient c, r⟩]) :
    ClosesClients
      (invoke (.openClient c) >>= fun _ => setup >>= fun b => (body b).ensuring cleanup) := by
  intro client
  by_cases hc : c = client
  · refine balanced_bracket (fun r => ⟨?_, rfl⟩) (fun _ => hsetup client) (fun _ => hreturns)
      (fun _ b => hbody b client) fun _ t o hrun => ?_
    · exact (congrArg (r.toBool && ·) (decide_eq_true hc)).trans (Bool.and_true _)
    · obtain ⟨r, rfl⟩ := hcleanup t o hrun
      exact ⟨rfl, by rw [List.countP_singleton, closesClient, decide_eq_true hc]; rfl⟩
  · refine (balanced_perform fun r => ⟨?_, rfl⟩).bind fun _ => (hsetup client).bind fun b =>
      (hbody b client).ensuring fun t o hrun _ => ?_
    · exact (congrArg (r.toBool && ·) (decide_eq_false hc)).trans (Bool.and_false _)
    · obtain ⟨r, rfl⟩ := hcleanup t o hrun
      rw [List.countP_singleton, List.countP_singleton, closesClient, decide_eq_false hc]
      rfl

theorem runs_closeClient {c : ProbeClient} {t : List ProbeCall} {o : Except Interrupt Unit}
    (h : (invoke (.closeClient c)).Runs t o) : ∃ r, t = [⟨.closeClient c, r⟩] :=
  ⟨o, runs_perform.mp h⟩

theorem runs_closeQuietly {c : ProbeClient} {t : List ProbeCall} {o : Except Interrupt Unit}
    (h : (closeQuietly c).Runs t o) : ∃ r, t = [⟨.closeClient c, r⟩] := by
  obtain ⟨r, t', rfl, hrest⟩ := runs_attempt_perform_bind.mp h
  rcases r with (_ | _ | exc) | v
  · exact ⟨_, by rw [(runs_raise.mp hrest).1]⟩
  all_goals exact ⟨_, by rw [(runs_ret.mp hrest).1]⟩

/-- The clock returns. -/
theorem returns_perfCounter (t : List ProbeCall) (o : Except Interrupt ℚ)
    (h : (invoke .perfCounter).Runs t o) (hclock : ∀ call ∈ t, ClockAnswers call.1 call.2) :
    ∃ now, o = .ok now := by
  rw [runs_perform.mp h] at hclock
  exact hclock _ List.mem_cons_self

theorem closesClients_answered (start : ℚ) : ClosesClients (do
    let now ← invoke .perfCounter
    return answered start now : ProbeProgram DependencyEntry) :=
  (closesClients_invoke .perfCounter rfl).bind fun _ => closesClients_ret _

theorem closesClients_probeQuietly {client : ProbeSettings → ProbeClient}
    {request : ProbeProgram Unit} (hrequest : ClosesClients request) :
    ClosesClients (probeQuietly client request) :=
  (closesClients_invoke .getSettings rfl).bind fun settings =>
    closesClients_bracket (client settings) (closesClients_invoke .perfCounter rfl)
      returns_perfCounter (fun start => hrequest.bind fun _ => closesClients_answered start)
      fun _ _ => runs_closeQuietly

/-- Every probe closes what it opens, whatever its calls are answered. -/
theorem closesClients_probe (d : Dependency) : ClosesClients (probe d) := by
  cases d with
  | postgres =>
    refine (closesClients_invoke .getSettings rfl).bind fun settings =>
      closesClients_bracket _ (closesClients_invoke .perfCounter rfl) returns_perfCounter
        (fun start => ClosesClients.bind ?_ fun _ => closesClients_answered start)
        fun _ _ => runs_closeClient
    exact fun client => (closesClients_invoke (.execute _) rfl client).ensuring
      (closesClients_invoke .closeSession rfl client)
  | redis => exact closesClients_probeQuietly (closesClients_invoke .ping rfl)
  | ollama =>
    refine (closesClients_invoke .getSettings rfl).bind fun settings =>
      (closesClients_invoke .perfCounter rfl).bind fun start => ?_
    have hget : ClosesClients (invoke (.openClient .http) >>= fun _ =>
        ensuring (invoke (.get (tagsUrl settings.ollamaHost))) (invoke (.closeClient .http))) :=
      closesClients_bracket .http (closesClients_ret ())
        (fun t o hrun _ => ⟨(), (runs_ret.mp hrun).2⟩) (fun _ => closesClients_invoke (.get _) rfl)
        fun _ _ => runs_closeClient
    have hend (statusCode : ℕ) : ClosesClients (do
        let now ← invoke .perfCounter
        if statusCode = 200 then return answered start now
        else return ⟨"unhealthy", elapsedMs start now,
          some s!"ollama returned HTTP {statusCode}"⟩ : ProbeProgram DependencyEntry) := by
      refine (closesClients_invoke .perfCounter rfl).bind fun now => ?_
      split_ifs <;> exact closesClients_ret _
    have hbracket := hget.bind hend
    rwa [Program.bind_assoc] at hbracket
  | chromadb =>
    exact (closesClients_invoke .getSettings rfl).bind fun settings =>
      (closesClients_invoke .perfCounter rfl).bind fun start =>
        (closesClients_invoke (.listCollections _ _) rfl).bind fun _ => closesClients_answered start
  | elasticsearch => exact closesClients_probeQuietly (closesClients_invoke .clusterHealth rfl)

/-! ### The entries -/

/-- An entry is healthy and without an error, or unhealthy and with one. -/
def DependencyEntry.WellFormed (entry : DependencyEntry) : Prop :=
  IsHealthy entry ∧ entry.error = none ∨ entry.status = "unhealthy" ∧ entry.error ≠ none

theorem yields_answered (start : ℚ) : (do
    let now ← invoke .perfCounter
    return answered start now : ProbeProgram DependencyEntry).Yields
      DependencyEntry.WellFormed :=
  .bind fun _ => yields_ret (Or.inl ⟨rfl, rfl⟩)

theorem wellFormed_probeQuietly (client : ProbeSettings → ProbeClient)
    (request : ProbeProgram Unit) :
    (probeQuietly client request).Yields DependencyEntry.WellFormed :=
  .bind fun _ => .bind fun _ => .bind fun start => .ensuring (.bind fun _ => yields_answered start)

theorem wellFormed_probe (d : Dependency) : (probe d).Yields DependencyEntry.WellFormed := by
  cases d with
  | postgres =>
    exact .bind fun _ => .bind fun _ => .bind fun start =>
      .ensuring (.bind fun _ => yields_answered start)
  | redis => exact wellFormed_probeQuietly _ _
  | ollama =>
    refine .bind fun _ => .bind fun start => .bind fun _ => .bind fun statusCode =>
      .bind fun now => ?_
    split_ifs
    · exact yields_ret (Or.inl ⟨rfl, rfl⟩)
    · exact yields_ret (Or.inr ⟨rfl, Option.some_ne_none _⟩)
  | chromadb =>
    exact .bind fun _ => .bind fun start => .bind fun _ => yields_answered start
  | elasticsearch => exact wellFormed_probeQuietly _ _

/-- An entry tells how the calls of its probe went, and its clients are closed. -/
structure EntryReports (calls : List ProbeCall) (entry : DependencyEntry) : Prop where
  wellFormed : entry.WellFormed
  healthy : IsHealthy entry ↔ ∀ call ∈ calls, WentWell call
  closed : ∀ client, calls.countP (opensClient client) = calls.countP (closesClient client)

/-- A reading of the clock. -/
def IsReading (call : ProbeCall) : Prop := ∃ now, call = ⟨.perfCounter, .ok now⟩

/-- Readings of the clock around the calls of a probe change nothing. -/
theorem EntryReports.between {calls before after : List ProbeCall} {entry : DependencyEntry}
    (h : EntryReports calls entry) (hbefore : ∀ call ∈ before, IsReading call)
    (hafter : ∀ call ∈ after, IsReading call) :
    EntryReports (before ++ (calls ++ after)) entry := by
  have hwell {t : List ProbeCall} (ht : ∀ call ∈ t, IsReading call) :
      ∀ call ∈ t, WentWell call := by
    intro call hcall
    obtain ⟨now, rfl⟩ := ht call hcall
    exact ⟨now, rfl⟩
  have hneutral {t : List ProbeCall} (ht : ∀ call ∈ t, IsReading call) (client : ProbeClient) :
      t.countP (opensClient client) = 0 ∧ t.countP (closesClient client) = 0 := by
    rw [List.countP_eq_zero, List.countP_eq_zero]
    refine ⟨fun call hcall => ?_, fun call hcall => ?_⟩ <;>
      obtain ⟨now, rfl⟩ := ht call hcall <;>
      exact Bool.false_ne_true
  refine ⟨h.wellFormed, ?_, fun client => ?_⟩
  · rw [h.healthy, List.forall_mem_append, List.forall_mem_append]
    exact ⟨fun hall => ⟨hwell hbefore, hall, hwell hafter⟩, fun hall => hall.2.1⟩
  · simp only [List.countP_append, hneutral hbefore, hneutral hafter, h.closed client]

/-- The entry of a failed probe. -/
theorem runs_failed {name text : String} {start : ℚ} {t : List ProbeCall}
    {o : Except Interrupt (String × DependencyEntry)}
    (hrun : Program.Runs (do
      let now ← invoke .perfCounter
      return (name, ⟨"unhealthy", elapsedMs start now, some text⟩)) t o)
    (hclock : ∀ call ∈ t, ClockAnswers call.1 call.2) :
    ∃ now entry, t = [⟨.perfCounter, .ok now⟩] ∧ o = .ok (name, entry) ∧
      entry.status = "unhealthy" ∧ entry.error ≠ none := by
  rcases runs_perform_bind.mp hrun with ⟨now, t', rfl, hrest⟩ | ⟨e, rfl, -⟩
  · obtain ⟨rfl, rfl⟩ := runs_ret.mp hrest
    exact ⟨now, _, rfl, rfl, rfl, Option.some_ne_none _⟩
  · obtain ⟨now, hnow⟩ := hclock _ List.mem_cons_self
    cases hnow

/-- A safe probe returns an entry that reports on the calls of the probe. -/
theorem reports_safeProbe {d : Dependency} {name : String} {t : List ProbeCall}
    {o : Except Interrupt (String × DependencyEntry)} (hrun : (safeProbe name (probe d)).Runs t o)
    (hclock : ∀ call ∈ t, ClockAnswers call.1 call.2) :
    ∃ entry, o = .ok (name, entry) ∧ EntryReports t entry := by
  rcases runs_perform_bind.mp hrun with ⟨start, t', rfl, hprobed⟩ | ⟨e, rfl, -⟩
  · have hstart : ∀ call ∈ [(⟨.perfCounter, .ok start⟩ : ProbeCall)], IsReading call :=
      List.forall_mem_singleton.mpr ⟨start, rfl⟩
    rcases runs_bind.mp hprobed with ⟨t₁, t₂, r, rfl, hattempt, hrest⟩ | ⟨e, hattempt, -⟩
    · obtain ⟨hclock₁, hclock₂⟩ :=
        List.forall_mem_append.mp (List.forall_mem_cons.mp hclock).2
      obtain ⟨r', hprobe, hr⟩ := runs_attempt.mp hattempt
      obtain rfl := Except.ok.inj hr
      have hgood := goodIff_probe d t₁ r hprobe
      have hclosed := fun client => closesClients_probe d client t₁ r hprobe hclock₁
      cases r with
      | ok entry =>
        obtain ⟨rfl, rfl⟩ := runs_ret.mp hrest
        have hhealthy : IsHealthy entry ↔ ∀ call ∈ t₁, WentWell call := by
          rw [← hgood]
          exact ⟨fun h => ⟨entry, rfl, h⟩, fun ⟨_, h, hentry⟩ => Except.ok.inj h ▸ hentry⟩
        have hreports : EntryReports t₁ entry :=
          ⟨wellFormed_probe d t₁ entry hprobe, hhealthy, hclosed⟩
        exact ⟨entry, rfl, hreports.between hstart fun _ h => absurd h List.not_mem_nil⟩
      | error e =>
        obtain ⟨now, entry, rfl, rfl, hstatus, herror⟩ : ∃ now entry,
            t₂ = [⟨.perfCounter, .ok now⟩] ∧ o = .ok (name, entry) ∧
              entry.status = "unhealthy" ∧ entry.error ≠ none := by
          cases e <;> exact runs_failed hrest hclock₂
        have hhealthy : IsHealthy entry ↔ ∀ call ∈ t₁, WentWell call := by
          rw [← hgood, IsHealthy, hstatus]
          exact iff_of_false unhealthy_ne fun ⟨_, h, _⟩ => nomatch h
        have hreports : EntryReports t₁ entry := ⟨Or.inr ⟨hstatus, herror⟩, hhealthy, hclosed⟩
        exact ⟨entry, rfl, hreports.between hstart (List.forall_mem_singleton.mpr ⟨now, rfl⟩)⟩
    · obtain ⟨r, -, hr⟩ := runs_attempt.mp hattempt
      cases hr
  · obtain ⟨now, hnow⟩ := hclock _ List.mem_cons_self
    cases hnow

/-! ### The workers -/

/-- What the calls of the Celery probe come to. -/
def workersOf : List ProbeCall → WorkersEntry
  | [⟨.inspectActive, .ok active⟩, ⟨.inspectReserved, .ok reserved⟩] => countWorkers active reserved
  | _ => ⟨0, 0⟩

/-- The Celery probe counts what both calls return, or nothing. -/
theorem runs_safeCeleryProbe {t : List ProbeCall} {o : Except Interrupt WorkersEntry}
    (hrun : safeCeleryProbe.Runs t o) : o = .ok (workersOf t) := by
  rcases runs_bind.mp hrun with ⟨t₁, t₂, r, rfl, hattempt, hrest⟩ | ⟨e, hattempt, -⟩
  · obtain ⟨r', hprobe, hr⟩ := runs_attempt.mp hattempt
    obtain rfl := Except.ok.inj hr
    rcases runs_perform_bind.mp hprobe with ⟨active, t', rfl, hreserved⟩ | ⟨e, rfl, rfl⟩
    · rcases runs_perform_bind.mp hreserved with ⟨reserved, t'', rfl, hret⟩ | ⟨e, rfl, rfl⟩
      · obtain ⟨rfl, rfl⟩ := runs_ret.mp hret
        obtain ⟨rfl, rfl⟩ := runs_ret.mp hrest
        rfl
      · obtain ⟨rfl, rfl⟩ := runs_ret.mp hrest
        rfl
    · obtain ⟨rfl, rfl⟩ := runs_ret.mp hrest
      rfl
  · obtain ⟨r, -, hr⟩ := runs_attempt.mp hattempt
    cases hr

/-! ### The response -/

/-- The response tells which dependencies have answered. -/
structure ResponseReports (response : HealthResponse) (Answers : Dependency → Prop) : Prop where
  names : response.dependencies.map Prod.fst = Dependency.all.map Dependency.name
  available : response.statusCode = 200 ↔
    ∀ d : Dependency, d.name ∈ criticalDependencies → Answers d
  unavailable : response.statusCode = 503 ↔
    ∃ d : Dependency, d.name ∈ criticalDependencies ∧ ¬ Answers d
  healthy : response.status = "healthy" ↔ ∀ d, Answers d
  degraded : response.status = "degraded" ↔
    (∀ d : Dependency, d.name ∈ criticalDependencies → Answers d) ∧ ∃ d, ¬ Answers d
  gauge : response.queueDepthGauge = response.workers.queueDepth

theorem Dependency.exists_iff {p : Dependency → Prop} :
    (∃ d, p d) ↔ p .postgres ∨ p .redis ∨ p .ollama ∨ p .chromadb ∨ p .elasticsearch := by
  constructor
  · rintro ⟨d, hd⟩
    cases d <;> simp [hd]
  · rintro (h | h | h | h | h) <;> exact ⟨_, h⟩

/-- A critical dependency that is not healthy makes the service unhealthy, another one degrades
it. -/
theorem aggregateStatus_cases (entries : Dependency → DependencyEntry) :
    let status := aggregateStatus (Dependency.all.map fun d => (d.name, entries d))
    (∃ d : Dependency, d.name ∈ criticalDependencies ∧ ¬ IsHealthy (entries d)) ∧
        status = "unhealthy" ∨
      (∀ d : Dependency, d.name ∈ criticalDependencies → IsHealthy (entries d)) ∧
        (∃ d, ¬ IsHealthy (entries d)) ∧ status = "degraded" ∨
      (∀ d, IsHealthy (entries d)) ∧ status = "healthy" := by
  intro status
  have hcritical : (criticalDependencies.any fun name =>
      ((Dependency.all.map fun d => (d.name, entries d)).lookup name).any fun entry =>
        entry.status ≠ "healthy") = true ↔
      ∃ d : Dependency, d.name ∈ criticalDependencies ∧ ¬ IsHealthy (entries d) := by
    have hredis : ("redis" == "postgres") = false := by decide
    rw [Dependency.exists_iff]
    simp [criticalDependencies, Dependency.all, Dependency.name, IsHealthy, List.lookup_cons,
      hredis]
  have hoptional : ((Dependency.all.map fun d => (d.name, entries d)).any fun dep =>
      dep.1 ∉ criticalDependencies ∧ dep.2.status ≠ "healthy") = true ↔
      ∃ d : Dependency, d.name ∉ criticalDependencies ∧ ¬ IsHealthy (entries d) := by
    rw [Dependency.exists_iff]
    simp [criticalDependencies, Dependency.all, Dependency.name, IsHealthy]
  by_cases h₁ : ∃ d : Dependency, d.name ∈ criticalDependencies ∧ ¬ IsHealthy (entries d)
  · exact Or.inl ⟨h₁, if_pos (hcritical.mpr h₁)⟩
  have hall : ∀ d : Dependency, d.name ∈ criticalDependencies → IsHealthy (entries d) :=
    fun d hd => by_contra fun hbad => h₁ ⟨d, hd, hbad⟩
  have hstatus : status = if (Dependency.all.map fun d => (d.name, entries d)).any fun dep =>
      dep.1 ∉ criticalDependencies ∧ dep.2.status ≠ "healthy" then "degraded" else "healthy" :=
    if_neg fun h => h₁ (hcritical.mp h)
  by_cases h₂ : ∃ d : Dependency, d.name ∉ criticalDependencies ∧ ¬ IsHealthy (entries d)
  · have hdegraded := hstatus.trans (if_pos (hoptional.mpr h₂))
    obtain ⟨d, -, hd⟩ := h₂
    exact Or.inr (Or.inl ⟨hall, ⟨d, hd⟩, hdegraded⟩)
  · refine Or.inr (Or.inr ⟨fun d => ?_, hstatus.trans (if_neg fun h => h₂ (hoptional.mp h))⟩)
    by_contra hbad
    by_cases hd : d.name ∈ criticalDependencies
    · exact hbad (hall d hd)
    · exact h₂ ⟨d, hd, hbad⟩

/-- The response that is made of the entries. -/
theorem reports_healthResponse (entries : Dependency → DependencyEntry) (workers : WorkersEntry) :
    ResponseReports (healthResponse (Dependency.all.map fun d => (d.name, entries d)) workers)
      fun d => IsHealthy (entries d) := by
  have hgauge : max (0 : ℤ) workers.queueDepth = workers.queueDepth :=
    max_eq_right (Int.natCast_nonneg _)
  have hcode {status : String}
      (h : aggregateStatus (Dependency.all.map fun d => (d.name, entries d)) = status) :
      (healthResponse (Dependency.all.map fun d => (d.name, entries d)) workers).statusCode =
        if status ∈ ["healthy", "degraded"] then 200 else 503 := by
    rw [← h]
    rfl
  have hother {status other : String}
      (h : aggregateStatus (Dependency.all.map fun d => (d.name, entries d)) = status)
      (hne : status ≠ other) :
      ¬ (healthResponse (Dependency.all.map fun d => (d.name, entries d)) workers).status =
        other := fun h' => hne (h.symm.trans h')
  rcases aggregateStatus_cases entries with
    ⟨⟨d, hd, hbad⟩, hstatus⟩ | ⟨hcritical, ⟨d, hbad⟩, hstatus⟩ | ⟨hall, hstatus⟩
  · refine ⟨rfl, ?_, ?_, ?_, ?_, hgauge⟩
    · rw [hcode hstatus]
      exact iff_of_false (by decide) fun h => hbad (h d hd)
    · rw [hcode hstatus]
      exact iff_of_true (by decide) ⟨d, hd, hbad⟩
    · exact iff_of_false (hother hstatus (by decide)) fun h => hbad (h d)
    · exact iff_of_false (hother hstatus (by decide)) fun h => hbad (h.1 d hd)
  · refine ⟨rfl, ?_, ?_, ?_, ?_, hgauge⟩
    · rw [hcode hstatus]
      exact iff_of_true (by decide) hcritical
    · rw [hcode hstatus]
      exact iff_of_false (by decide) fun ⟨d', hd', hbad'⟩ => hbad' (hcritical d' hd')
    · exact iff_of_false (hother hstatus (by decide)) fun h => hbad (h d)
    · exact iff_of_true hstatus ⟨hcritical, d, hbad⟩
  · refine ⟨rfl, ?_, ?_, ?_, ?_, hgauge⟩
    · rw [hcode hstatus]
      exact iff_of_true (by decide) fun d _ => hall d
    · rw [hcode hstatus]
      exact iff_of_false (by decide) fun ⟨d, _, hbad⟩ => hbad (hall d)
    · exact iff_of_true hstatus hall
    · exact iff_of_false (hother hstatus (by decide)) fun ⟨_, d, hbad⟩ => hbad (hall d)

/-! ### All interleavings -/

/-- What a task returns after its calls. -/
def TaskReports : HealthTask → List ProbeCall → Except Interrupt HealthResult → Prop
  | .dependency d, calls, o => ∃ entry, o = .ok (.entry (d.name, entry)) ∧ EntryReports calls entry
  | .celery, calls, o => o = .ok (.workers (workersOf calls))

theorem reports_launch (task : HealthTask) (t : List ProbeCall) (o : Except Interrupt HealthResult)
    (hrun : task.launch.Runs t o) (hclock : ∀ call ∈ t, ClockAnswers call.1 call.2) :
    TaskReports task t o := by
  cases task with
  | dependency d =>
    obtain ⟨r, hprobe, rfl⟩ := runs_map.mp hrun
    obtain ⟨entry, rfl, hreports⟩ := reports_safeProbe hprobe hclock
    exact ⟨entry, rfl, hreports⟩
  | celery =>
    obtain ⟨r, hprobe, rfl⟩ := runs_map.mp hrun
    rw [runs_safeCeleryProbe hprobe]
    rfl

/-- The tasks have returned, each entry reports on the calls of its own task, and the response on
which of the dependencies have answered. -/
def HealthReported (threads : List (Thread probes Interrupt HealthResult HealthTask)) : Prop :=
  ∃ (calls : Dependency → List ProbeCall) (entries : Dependency → DependencyEntry)
      (celeryCalls : List ProbeCall),
    (threads.map fun th => (th.trace, th.outcome?)) =
      (Dependency.all.map fun d => (calls d, some (.ok (.entry (d.name, entries d))))) ++
        [(celeryCalls, some (.ok (.workers (workersOf celeryCalls))))] ∧
    (∀ d, EntryReports (calls d) (entries d)) ∧
    ResponseReports (healthResponse (Dependency.all.map fun d => (d.name, entries d))
      (workersOf celeryCalls)) fun d => ∀ call ∈ calls d, WentWell call

/-- Everything answers but Ollama, whose probe is cancelled, and the workers. -/
def ollamaHangs : Unit → (op : ProbeOp) → Unit → Except Interrupt op.Res × Unit
  | _, .getSettings, _ => (.ok ⟨"postgresql://db", "redis://redis:6379", "http://ollama:11434",
      "chromadb", 8000, "http://es:9200"⟩, ())
  | _, .perfCounter, _ => (.ok (0 : ℚ), ())
  | _, .get _, _ => (.error .cancelled, ())
  | _, .inspectActive, _ => (.ok none, ())
  | _, .inspectReserved, _ => (.ok none, ())
  | _, .openClient _, _ => (.ok (), ())
  | _, .closeClient _, _ => (.ok (), ())
  | _, .execute _, _ => (.ok (), ())
  | _, .closeSession, _ => (.ok (), ())
  | _, .ping, _ => (.ok (), ())
  | _, .listCollections _ _, _ => (.ok (), ())
  | _, .clusterHealth, _ => (.ok (), ())

/-- Nine turns for each of the six tasks. -/
def nineTurns : List (ℕ × Unit) := (List.replicate 9 ((List.range 6).map fun i => (i, ()))).flatten

end ZubotIngestion
