import ZubotIngestion.Infrastructure.Session
import ZubotIngestion.System.Requests

/-!
# Executions in one worker process

A worker process executes tasks and retries one after the other, each on a new event loop, and the
terminal attempt of a task that fails marks its job `FAILED` on another one. The pool of the engine
outlives the loops. So the connection of the first loop that gets one is handed to every later
loop, and works on none of them.

## Main definitions

* `Execution`, `Execution.execute`, `worker`.
* `Process.OnOwnLoop`: every connection is used on the loop that has opened it.

## Main results

* `onOwnLoop_iff_refused`: this holds iff all loops but the last are refused a connection.
-/

namespace ZubotIngestion

open Effects

/-- One execution of the task, with the number of attempts before it, and what happens on its two
loops. -/
structure Execution where
  jobId : JobId
  retries : ℕ
  run : ℕ → Turn
  cleanup : ℕ → Turn

/-- `extract_document_task`, with its loops. -/
def Execution.execute (settings : Settings) (e : Execution) (s : Process) :
    Except PyException TaskReply × Process :=
  match asyncioRun (runExtractDocumentTask settings e.jobId) s e.run with
  | (.ok reply, s') => (.ok reply, s')
  | (.error exc, s') =>
    if maxRetries ≤ e.retries then
      (.error exc, (asyncioRun (markJobFailed e.jobId exc) s' e.cleanup).2)
    else (.error exc, s')

/-- A worker process after some executions. -/
def worker (settings : Settings) (w : World) (executions : List Execution) : Process :=
  executions.foldl (fun s e => (e.execute settings s).2) (.fresh w)

/-- Every connection that was checked out was opened on the loop that used it. -/
def Process.OnOwnLoop (s : Process) : Prop := s.pool.Local

/-- Between two loops, no session is open, and the pool is what the loops so far have made it. -/
structure Process.Tracked (s : Process) : Prop where
  held : s.held = none
  pool : s.pool = ResourcePool.enterAll (s.refusals.map Option.isNone)

theorem tracked_fresh (w : World) : (Process.fresh w).Tracked := ⟨rfl, rfl⟩

/-- A loop that starts with a statement. -/
theorem Process.Tracked.loop {s : Process} (h : s.Tracked) {α : Type} {op : Op}
    (hop : op.isStatement = true) (f : op.Res → Prog α) (turns : ℕ → Turn) :
    (asyncioRun (perform op >>= f) s turns).2.Tracked := by
  obtain ⟨hpool, hrefusals⟩ := pool_asyncioRun hop f h.held turns
  refine ⟨rfl, ?_⟩
  rw [hpool, hrefusals, h.pool, List.map_append, List.map_singleton, ResourcePool.enterAll_concat]

/-- The run of a task starts with `get_job`. -/
theorem runExtractDocumentTask_eq (settings : Settings) (jobId : JobId) :
    runExtractDocumentTask settings jobId = perform (.getJob jobId) >>= fun found =>
      extractFound settings jobId found >>= fun reply =>
        perform .sessionCommit >>= fun _ => return reply := by
  rw [runExtractDocumentTask, withSession, Program.bind_assoc]
  rfl

/-- The cleanup of a task starts with `update_job_status`. -/
theorem markJobFailed_eq (jobId : JobId) (exc : PyException) :
    markJobFailed jobId exc =
      perform (.updateJobStatus jobId .failed none (some (formatError exc))) >>= fun value =>
        perform .sessionCommit >>= fun _ => return value :=
  rfl

/-- One execution, with its one or two loops. -/
theorem Process.Tracked.execute {s : Process} (h : s.Tracked) (settings : Settings)
    (e : Execution) : (e.execute settings s).2.Tracked := by
  have hrun : (asyncioRun (runExtractDocumentTask settings e.jobId) s e.run).2.Tracked := by
    rw [runExtractDocumentTask_eq]
    exact h.loop rfl _ e.run
  rw [Execution.execute]
  cases hout : asyncioRun (runExtractDocumentTask settings e.jobId) s e.run with
  | mk outcome s' =>
    rw [hout] at hrun
    cases outcome with
    | ok reply => exact hrun
    | error exc =>
      dsimp only
      split_ifs
      · rw [markJobFailed_eq]
        exact hrun.loop rfl _ e.cleanup
      · exact hrun

theorem tracked_worker (settings : Settings) (w : World) (executions : List Execution) :
    (worker settings w executions).Tracked := by
  rw [worker]
  induction executions using List.reverseRecOn with
  | nil => exact tracked_fresh w
  | append_singleton executions e ih =>
    rw [List.foldl_append]
    exact ih.execute settings e

/-- In a worker process all connections are used on the loops that have opened them exactly if no
event loop but the last one is given a connection by the database. -/
theorem onOwnLoop_iff_refused (settings : Settings) (w : World) (executions : List Execution) :
    (worker settings w executions).OnOwnLoop ↔
      ∀ refusal ∈ (worker settings w executions).refusals.dropLast, refusal ≠ none := by
  rw [Process.OnOwnLoop, (tracked_worker settings w executions).pool,
    ResourcePool.local_enterAll_iff, ← List.map_dropLast, List.forall_mem_map]
  refine forall₂_congr fun refusal _ => ?_
  cases refusal <;> simp

/-- Answers without any failure. -/
def calmTurns (_ : ℕ) : Turn where
  env := .calm 0 .auto
  others := id
  refusal? := none
  foreign := .error "RuntimeError" "attached to a different loop"

/-- The second of two tasks gets the connection of the first one. -/
theorem not_onOwnLoop_two : ¬∀ (settings : Settings) (w : World) (executions : List Execution),
    (worker settings w executions).OnOwnLoop := by
  intro h
  have hlocal := h plainSettings (reached plainSettings oneDigest submittedPlan).state
    [⟨2, 0, calmTurns, calmTurns⟩, ⟨2, 0, calmTurns, calmTurns⟩]
  have huses : (worker plainSettings (reached plainSettings oneDigest submittedPlan).state
      [⟨2, 0, calmTurns, calmTurns⟩, ⟨2, 0, calmTurns, calmTurns⟩]).pool.uses =
        [(0, 0), (0, 1)] := rfl
  have hsecond := hlocal (0, 1) (by rw [huses]; simp)
  cases hsecond

end ZubotIngestion
