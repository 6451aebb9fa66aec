import ZubotIngestion.Effects.ResourcePool
import ZubotIngestion.Services.Environment

/-!
# Sessions and event loops

`infrastructure/database/session.py` keeps one engine for the process, with its pool of
connections. A session takes a connection from the pool at its first statement and gives it back
when it is closed; if the pool has none, the engine opens one. A connection works on the event loop
that has opened it only, and `asyncio.run` enters a new loop each time. The engine is made when it
is first needed, with an empty pool, and nothing in a worker disposes it.

## Main definitions

* `Process`: the state of a worker process.
* `answerOnLoop`: a call of a program on an event loop.
* `asyncioRun`: a program on a new event loop.

## Main results

* `pool_asyncioRun`: what a loop does to the pool.
* `runOnLoop_eq_run`: on a connection of its own, a program runs as without a pool.
-/

namespace ZubotIngestion

open Effects

/-- A worker process. An event loop is known by its number, and a connection by the loop that has
opened it. -/
structure Process where
  world : World
  /-- The connections that are idle, the number of loops that have ended, and all checkouts. -/
  pool : ResourcePool
  /-- The connection of the open session. -/
  held : Option ℕ
  /-- For each loop that has ended, what opening a connection would raise when it started. -/
  refusals : List (Option PyException)

/-- How one call of a process is answered. -/
structure Turn where
  env : Env
  /-- What other processes do before the call. -/
  others : World → World
  /-- What opening a connection raises, if the database refuses it. -/
  refusal? : Option PyException
  /-- What a connection of another loop raises. -/
  foreign : PyException

/-- Whether a call executes a statement, for which its session needs a connection. -/
def Op.isStatement : Op → Bool
  | .getJob _ | .getBatch _ | .getJobByFileHash _ | .createBatch .. | .updateJobStatus ..
  | .updateJobResult .. => true
  | _ => false

/-- Whether a call uses the connection of its session if there is one. -/
def Op.usesConnection : Op → Bool
  | .sessionCommit => true
  | op => op.isStatement

namespace Process

/-- A process that has not entered a loop. -/
def fresh (w : World) : Process := ⟨w, .empty, none, []⟩

/-- Take a connection from the pool, or open one. -/
def checkout (s : Process) (refusal? : Option PyException) : Except PyException Process :=
  match s.pool.idle with
  | connection :: idle =>
    .ok
      { s with
        pool := ⟨idle, s.pool.scopes, s.pool.uses ++ [(connection, s.pool.scopes)]⟩
        held := some connection }
  | [] =>
    match refusal? with
    | none =>
      .ok
        { s with
          pool := ⟨[], s.pool.scopes, s.pool.uses ++ [(s.pool.scopes, s.pool.scopes)]⟩
          held := some s.pool.scopes }
    | some exc => .error exc

/-- A session has a connection: the one it holds, or one that it checks out. -/
def connect (s : Process) (refusal? : Option PyException) : Except PyException Process :=
  match s.held with
  | some _ => .ok s
  | none => s.checkout refusal?

/-- The connection held is of another loop. -/
def HoldsForeign (s : Process) : Prop := ∃ connection ∈ s.held, connection ≠ s.pool.scopes

instance (s : Process) : Decidable s.HoldsForeign :=
  match h : s.held with
  | none => isFalse fun ⟨_, hmem, _⟩ => nomatch h.symm.trans hmem
  | some connection =>
    decidable_of_iff (connection ≠ s.pool.scopes) (by simp [HoldsForeign, h])

/-- A call on the connection held, if there is one. -/
def execute (s : Process) (turn : Turn) (op : Op) : Except PyException op.Res × Process :=
  if op.usesConnection = true ∧ s.HoldsForeign then (.error turn.foreign, s)
  else
    ((answer turn.env op (turn.others s.world)).1,
      { s with world := (answer turn.env op (turn.others s.world)).2 })

/-- The session is closed, and the loop ends. -/
def close (s : Process) (refusal? : Option PyException) : Process where
  world := s.world
  pool := ⟨s.pool.idle ++ s.held.toList, s.pool.scopes + 1, s.pool.uses⟩
  held := none
  refusals := s.refusals ++ [refusal?]

end Process

/-- A call of a program on the current loop. A statement connects first. -/
def answerOnLoop (turn : Turn) (op : Op) (s : Process) : Except PyException op.Res × Process :=
  if op.isStatement then
    match s.connect turn.refusal? with
    | .ok s' => s'.execute turn op
    | .error exc => (.error exc, s)
  else s.execute turn op

/-- A program on the current loop. -/
def runOnLoop {α : Type} (p : Prog α) (s : Process) (turns : ℕ → Turn) :
    Except PyException α × Process :=
  let ran := Program.run (S := services) (Program.each answerOnLoop) p (s, turns)
  (ran.1, ran.2.1)

/-- `asyncio.run`: a program with one session, on a new loop. -/
def asyncioRun {α : Type} (p : Prog α) (s : Process) (turns : ℕ → Turn) :
    Except PyException α × Process :=
  ((runOnLoop p s turns).1, (runOnLoop p s turns).2.close (turns 0).refusal?)

/-! ### What a loop does to the pool -/

/-- A call on a connection changes the world only. -/
theorem execute_keeps (s : Process) (turn : Turn) (op : Op) :
    (s.execute turn op).2.pool = s.pool ∧ (s.execute turn op).2.held = s.held ∧
      (s.execute turn op).2.refusals = s.refusals := by
  rw [Process.execute]
  split_ifs <;> exact ⟨rfl, rfl, rfl⟩

/-- A session that holds a connection keeps it. -/
theorem answerOnLoop_of_held {s : Process} {connection : ℕ} (h : s.held = some connection)
    (turn : Turn) (op : Op) : answerOnLoop turn op s = s.execute turn op := by
  simp only [answerOnLoop, Process.connect, h]
  split_ifs <;> rfl

theorem runOnLoop_call {α : Type} (op : Op) (next : Except PyException op.Res → Prog α)
    (s : Process) (turns : ℕ → Turn) : runOnLoop (.call op next) s turns =
      runOnLoop (next (answerOnLoop (turns 0) op s).1) (answerOnLoop (turns 0) op s).2
        fun n => turns (n + 1) :=
  rfl

/-- A program that runs on a connection keeps it. -/
theorem runOnLoop_of_held {α : Type} {p : Prog α} {s : Process} {connection : ℕ}
    (h : s.held = some connection) (turns : ℕ → Turn) :
    (runOnLoop p s turns).2.pool = s.pool ∧ (runOnLoop p s turns).2.held = some connection ∧
      (runOnLoop p s turns).2.refusals = s.refusals := by
  induction p generalizing s turns with
  | ret a => exact ⟨rfl, h, rfl⟩
  | raise e => exact ⟨rfl, h, rfl⟩
  | call op next ih =>
    obtain ⟨hpool, hheld, hrefusals⟩ := execute_keeps s (turns 0) op
    have hrest := ih (s.execute (turns 0) op).1 (hheld.trans h) fun n => turns (n + 1)
    rw [runOnLoop_call, answerOnLoop_of_held h]
    exact ⟨hrest.1.trans hpool, hrest.2.1, hrest.2.2.trans hrefusals⟩

/-- A program that starts with a call, and raises what the call raises. -/
theorem perform_bind_eq_call {α : Type} (op : Op) (f : op.Res → Prog α) :
    ∃ next : Except PyException op.Res → Prog α, perform op >>= f = .call op next ∧
      ∀ exc, next (.error exc) = .raise exc :=
  ⟨_, rfl, fun _ => rfl⟩

/-- What a loop does whose first statement gets a connection. -/
theorem asyncioRun_of_connect {α : Type} {op : Op} (hop : op.isStatement = true)
    (f : op.Res → Prog α) {s s' : Process} {turns : ℕ → Turn} {connection : ℕ}
    (h : s.connect (turns 0).refusal? = .ok s') (hheld : s'.held = some connection)
    (hrefusals : s'.refusals = s.refusals) :
    (asyncioRun (perform op >>= f) s turns).2.pool =
        ⟨s'.pool.idle ++ [connection], s'.pool.scopes + 1, s'.pool.uses⟩ ∧
      (asyncioRun (perform op >>= f) s turns).2.refusals =
        s.refusals ++ [(turns 0).refusal?] := by
  obtain ⟨next, hcall, -⟩ := perform_bind_eq_call op f
  obtain ⟨hpool, hkept, hsame⟩ := execute_keeps s' (turns 0) op
  have hanswer : answerOnLoop (turns 0) op s = s'.execute (turns 0) op := by
    simp only [answerOnLoop, hop, h]
    rfl
  have hrest := runOnLoop_of_held (p := next (s'.execute (turns 0) op).1) (hkept.trans hheld)
    fun n => turns (n + 1)
  rw [asyncioRun, hcall, runOnLoop_call, hanswer]
  constructor
  · rw [Process.close, hrest.1, hrest.2.1, hpool]
    rfl
  · rw [Process.close, hrest.2.2, hsame, hrefusals]

/-- A loop whose program starts with a statement enters the pool once, and closes its session. -/
theorem pool_asyncioRun {α : Type} {op : Op} (hop : op.isStatement = true) (f : op.Res → Prog α)
    {s : Process} (hs : s.held = none) (turns : ℕ → Turn) :
    (asyncioRun (perform op >>= f) s turns).2.pool =
        s.pool.enter (turns 0).refusal?.isNone ∧
      (asyncioRun (perform op >>= f) s turns).2.refusals =
        s.refusals ++ [(turns 0).refusal?] := by
  cases hidle : s.pool.idle with
  | cons connection idle =>
    have hconnect : s.connect (turns 0).refusal? = .ok { s with
        pool := ⟨idle, s.pool.scopes, s.pool.uses ++ [(connection, s.pool.scopes)]⟩
        held := some connection } := by
      simp only [Process.connect, hs, Process.checkout, hidle]
    obtain ⟨hpool, hrefusals⟩ := asyncioRun_of_connect hop f hconnect rfl rfl
    refine ⟨hpool.trans ?_, hrefusals⟩
    rw [ResourcePool.enter, hidle]
  | nil =>
    cases hrefusal : (turns 0).refusal? with
    | none =>
      have hconnect : s.connect (turns 0).refusal? = .ok { s with
          pool := ⟨[], s.pool.scopes, s.pool.uses ++ [(s.pool.scopes, s.pool.scopes)]⟩
          held := some s.pool.scopes } := by
        simp only [Process.connect, hs, Process.checkout, hidle, hrefusal]
      obtain ⟨hpool, hrefusals⟩ := asyncioRun_of_connect hop f hconnect rfl rfl
      refine ⟨hpool.trans ?_, hrefusal ▸ hrefusals⟩
      rw [ResourcePool.enter, hidle]
      rfl
    | some exc =>
      obtain ⟨next, hcall, hraise⟩ := perform_bind_eq_call op f
      have hanswer : answerOnLoop (turns 0) op s = (.error exc, s) := by
        simp only [answerOnLoop, hop, Process.connect, hs, Process.checkout, hidle, hrefusal]
        rfl
      rw [asyncioRun, hcall, runOnLoop_call, hanswer, hraise, hrefusal, ResourcePool.enter, hidle]
      exact ⟨by simp [runOnLoop, Process.close, hs, hidle], rfl⟩

/-- On a connection that it has opened itself, a program runs as it does without a pool. -/
theorem runOnLoop_eq_run {α : Type} {p : Prog α} {s : Process}
    (h : s.held = some s.pool.scopes) (turns : ℕ → Turn) (hothers : ∀ n, (turns n).others = id) :
    ((runOnLoop p s turns).1, (runOnLoop p s turns).2.world) =
      ((Program.run (S := services) (Program.each answer) p (s.world, fun n => (turns n).env)).1,
        (Program.run (S := services) (Program.each answer) p
          (s.world, fun n => (turns n).env)).2.1) := by
  induction p generalizing s turns with
  | ret a => rfl
  | raise e => rfl
  | call op next ih =>
    have hforeign : ¬s.HoldsForeign := by
      rintro ⟨connection, hmem, hne⟩
      exact hne (Option.some.inj (h.symm.trans hmem)).symm
    have hexecute : s.execute (turns 0) op = ((answer (turns 0).env op s.world).1,
        { s with world := (answer (turns 0).env op s.world).2 }) := by
      rw [Process.execute, if_neg fun hforeign' => hforeign hforeign'.2, hothers 0]
      rfl
    rw [runOnLoop_call, answerOnLoop_of_held h, hexecute]
    exact ih (answer (turns 0).env op s.world).1
      (s := { s with world := (answer (turns 0).env op s.world).2 }) h
      (fun n => turns (n + 1)) fun n => hothers (n + 1)

end ZubotIngestion
