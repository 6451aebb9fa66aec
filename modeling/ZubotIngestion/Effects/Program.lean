import Mathlib.Data.Nat.Notation
import Mathlib.Logic.Basic

/-!
# Programs that call their environment

A program runs as a sequence of calls on its environment: a database, a file system, a model
server. What it does next depends on the answer of each call, and every answer is either a value
or an exception. `Program S ε α` is the tree of all these continuations, for the operations of a
signature `S`, exceptions in `ε` and results in `α`. The tree is well founded, so every program
makes finitely many calls whatever the answers are.

* `Program.perform op` makes one call and raises the exception it is answered with.
* `Program.attempt p` is `try … except`: it runs `p` and returns its outcome as a value.
* `Program.run answer p s` runs `p` alone from the state `s`, every call answered by `answer`, and
  `Program.trace answer p s` lists the calls it makes on the way.

The state survives an exception: `run` returns it next to the outcome.

## Main definitions

* `Signature`, `Event`, `Program`, `Program.perform`, `Program.attempt`.
* `Program.run`, `Program.trace`, `Program.each`.

## Main results

* `Program.run_bind`, `Program.run_attempt`, `Program.run_perform`: how runs compose.
* `Program.trace_bind`: how traces do.
* `Program.forall_trace`: the calls of a run are answered as the environment answers.
-/

namespace ZubotIngestion.Effects

/-- The operations a program may call, each with the type of its normal answer. -/
structure Signature where
  /-- The operations, with their arguments. -/
  Op : Type
  /-- The values an operation returns when it does not raise. -/
  Res : Op → Type

/-- One call of a program and the answer it got. -/
abbrev Event (S : Signature) (ε : Type) : Type := (op : S.Op) × Except ε (S.Res op)

/-- A program over the operations of `S`: it returns a value, raises an exception, or makes one
call and continues with the answer. -/
inductive Program (S : Signature) (ε α : Type) : Type where
  /-- The program has returned `value`. -/
  | ret (value : α)
  /-- The program has raised `exc`. -/
  | raise (exc : ε)
  /-- The program calls `op` and goes on with `next` applied to the answer. -/
  | call (op : S.Op) (next : Except ε (S.Res op) → Program S ε α)

namespace Program

variable {S : Signature} {ε α β γ σ : Type}

/-- Run `p` and continue with its value; an exception of `p` ends the whole program. -/
def bind (p : Program S ε α) (f : α → Program S ε β) : Program S ε β :=
  match p with
  | ret a => f a
  | raise e => raise e
  | call op next => call op fun answer => (next answer).bind f

instance : Monad (Program S ε) where
  pure := ret
  bind := bind

/-- Call `op`: return its value, or raise the exception it is answered with. -/
def perform (op : S.Op) : Program S ε (S.Res op) :=
  call op fun
    | .ok value => ret value
    | .error e => raise e

/-- Run `p` and return its outcome, an exception included: the `try … except` of the source. -/
def attempt (p : Program S ε α) : Program S ε (Except ε α) :=
  match p with
  | ret a => ret (.ok a)
  | raise e => ret (.error e)
  | call op next => call op fun answer => (next answer).attempt

/-- Return a value, or raise. -/
def ofExcept : Except ε α → Program S ε α
  | .ok a => ret a
  | .error e => raise e

/-! ### The monad laws -/

@[simp] theorem pure_def (a : α) : (pure a : Program S ε α) = ret a := rfl

@[simp] theorem ret_bind (a : α) (f : α → Program S ε β) : ret a >>= f = f a := rfl

@[simp] theorem raise_bind (e : ε) (f : α → Program S ε β) : raise e >>= f = raise e := rfl

@[simp] theorem call_bind (op : S.Op) (next : Except ε (S.Res op) → Program S ε α)
    (f : α → Program S ε β) : call op next >>= f = call op fun answer => next answer >>= f := rfl

@[simp] theorem bind_ret (p : Program S ε α) : p >>= ret = p := by
  induction p with
  | ret a => rfl
  | raise e => rfl
  | call op next ih => exact congrArg (call op) (funext ih)

theorem bind_assoc (p : Program S ε α) (f : α → Program S ε β) (g : β → Program S ε γ) :
    p >>= f >>= g = p >>= fun a => f a >>= g := by
  induction p with
  | ret a => rfl
  | raise e => rfl
  | call op next ih => exact congrArg (call op) (funext ih)

instance : LawfulMonad (Program S ε) :=
  LawfulMonad.mk' _ bind_ret (fun _ _ => rfl) bind_assoc

@[simp] theorem attempt_ret (a : α) : (ret a : Program S ε α).attempt = ret (.ok a) := rfl

@[simp] theorem attempt_raise (e : ε) : (raise e : Program S ε α).attempt = ret (.error e) := rfl

@[simp] theorem attempt_call (op : S.Op) (next : Except ε (S.Res op) → Program S ε α) :
    (call op next).attempt = call op fun answer => (next answer).attempt := rfl

/-! ### Runs of one program alone -/

/-- Run `p` alone from the state `s`, every call answered by `answer`. The result is the outcome
of `p` together with the last state. -/
def run (answer : (op : S.Op) → σ → Except ε (S.Res op) × σ) :
    Program S ε α → σ → Except ε α × σ
  | ret a, s => (.ok a, s)
  | raise e, s => (.error e, s)
  | call op next, s => run answer (next (answer op s).1) (answer op s).2

/-- The calls `p` makes when it runs alone from the state `s`, with their answers. -/
def trace (answer : (op : S.Op) → σ → Except ε (S.Res op) × σ) :
    Program S ε α → σ → List (Event S ε)
  | ret _, _ => []
  | raise _, _ => []
  | call op next, s => ⟨op, (answer op s).1⟩ :: trace answer (next (answer op s).1) (answer op s).2

/-- Answers that use up one choice for each call. The state carries the choices not yet used. -/
def each {χ : Type} (answer : χ → (op : S.Op) → σ → Except ε (S.Res op) × σ) (op : S.Op)
    (s : σ × (ℕ → χ)) : Except ε (S.Res op) × σ × (ℕ → χ) :=
  ((answer (s.2 0) op s.1).1, (answer (s.2 0) op s.1).2, fun n => s.2 (n + 1))

variable (answer : (op : S.Op) → σ → Except ε (S.Res op) × σ)

@[simp] theorem run_ret (a : α) (s : σ) : run answer (ret a) s = (.ok a, s) := rfl

@[simp] theorem run_raise (e : ε) (s : σ) :
    run answer (raise e : Program S ε α) s = (.error e, s) := rfl

@[simp] theorem run_call (op : S.Op) (next : Except ε (S.Res op) → Program S ε α) (s : σ) :
    run answer (call op next) s = run answer (next (answer op s).1) (answer op s).2 := rfl

@[simp] theorem trace_ret (a : α) (s : σ) : trace answer (ret a : Program S ε α) s = [] := rfl

@[simp] theorem trace_raise (e : ε) (s : σ) :
    trace answer (raise e : Program S ε α) s = [] := rfl

@[simp] theorem trace_call (op : S.Op) (next : Except ε (S.Res op) → Program S ε α) (s : σ) :
    trace answer (call op next) s =
      ⟨op, (answer op s).1⟩ :: trace answer (next (answer op s).1) (answer op s).2 := rfl

/-- A sequence runs its first part, and its second part only if the first one returned. -/
theorem run_bind (p : Program S ε α) (f : α → Program S ε β) (s : σ) :
    run answer (p >>= f) s =
      match run answer p s with
      | (.ok a, s') => run answer (f a) s'
      | (.error e, s') => (.error e, s') := by
  induction p generalizing s with
  | ret a => rfl
  | raise e => rfl
  | call op next ih => exact ih (answer op s).1 (answer op s).2

/-- One call is answered by `answer`. -/
theorem run_map (f : α → β) (p : Program S ε α) (s : σ) :
    run answer (f <$> p) s = ((run answer p s).1.map f, (run answer p s).2) := by
  rw [map_eq_pure_bind, run_bind]
  rcases run answer p s with ⟨e | a, s'⟩ <;> rfl

@[simp] theorem run_perform (op : S.Op) (s : σ) : run answer (perform op) s = answer op s := by
  rcases h : answer op s with ⟨outcome, s'⟩
  cases outcome <;> simp [perform, h]

/-- `attempt` never raises: it returns the outcome and keeps the state. -/
@[simp] theorem run_attempt (p : Program S ε α) (s : σ) :
    run answer p.attempt s = (.ok (run answer p s).1, (run answer p s).2) := by
  induction p generalizing s with
  | ret a => rfl
  | raise e => rfl
  | call op next ih => exact ih (answer op s).1 (answer op s).2

/-- The calls of a sequence. -/
theorem trace_bind (p : Program S ε α) (f : α → Program S ε β) (s : σ) :
    trace answer (p >>= f) s = trace answer p s ++
      match run answer p s with
      | (.ok a, s') => trace answer (f a) s'
      | (.error _, _) => [] := by
  induction p generalizing s with
  | ret a => rfl
  | raise e => rfl
  | call op next ih => exact congrArg _ (ih (answer op s).1 (answer op s).2)

@[simp] theorem trace_perform (op : S.Op) (s : σ) :
    trace answer (perform op) s = [⟨op, (answer op s).1⟩] := by
  rw [perform, trace_call]
  cases (answer op s).1 <;> rfl

@[simp] theorem trace_attempt (p : Program S ε α) (s : σ) :
    trace answer p.attempt s = trace answer p s := by
  induction p generalizing s with
  | ret a => rfl
  | raise e => rfl
  | call op next ih => exact congrArg _ (ih (answer op s).1 (answer op s).2)

/-- What holds of every answer holds of every call of the trace. -/
theorem forall_trace {A : (op : S.Op) → Except ε (S.Res op) → Prop}
    (hA : ∀ op s, A op (answer op s).1) (p : Program S ε α) (s : σ) :
    ∀ c ∈ trace answer p s, A c.1 c.2 := by
  induction p generalizing s with
  | ret a => exact fun _ h => nomatch h
  | raise e => exact fun _ h => nomatch h
  | call op next ih =>
    intro c hc
    rcases List.mem_cons.mp hc with rfl | hc
    · exact hA op s
    · exact ih _ _ c hc

end Program

end ZubotIngestion.Effects
