import ZubotIngestion.Effects.Program

/-!
# Calls whose answers are known

Some calls have the same answer in every state and change nothing: a pure computation that a
program reaches through its environment. `resolve known p` is `p` with these answers filled in, and
calls the environment for the rest only. Two programs with one resolved form cannot be told apart
by an environment that gives the known answers: they end alike, in the same state, and they make
the same calls but for the known ones.

## Main definitions

* `Program.resolve`: the program without the calls that are known.
* `Program.Gives`: the environment gives the known answers.

## Main results

* `Program.resolve_bind`, `Program.resolve_attempt`: the resolved form of a composed program.
* `Program.run_resolve`, `Program.trace_resolve`: its runs.
* `Program.run_eq_of_resolve_eq`, `Program.trace_eq_of_resolve_eq`: programs with one resolved form.
-/

namespace ZubotIngestion.Effects.Program

variable {S : Signature} {ε α β σ : Type}

/-- The program in which every known call is replaced by its answer. -/
def resolve (known : (op : S.Op) → Option (Except ε (S.Res op))) :
    Program S ε α → Program S ε α
  | ret a => ret a
  | raise e => raise e
  | call op next =>
    match known op with
    | some r => (next r).resolve known
    | none => call op fun r => (next r).resolve known

variable {known : (op : S.Op) → Option (Except ε (S.Res op))}

@[simp] theorem resolve_ret (a : α) : (ret a : Program S ε α).resolve known = ret a := rfl

@[simp] theorem resolve_raise (e : ε) : (raise e : Program S ε α).resolve known = raise e := rfl

theorem resolve_call_of_known {op : S.Op} {r : Except ε (S.Res op)} (h : known op = some r)
    (next : Except ε (S.Res op) → Program S ε α) :
    (call op next).resolve known = (next r).resolve known := by
  rw [resolve, h]

theorem resolve_call_of_unknown {op : S.Op} (h : known op = none)
    (next : Except ε (S.Res op) → Program S ε α) :
    (call op next).resolve known = call op fun r => (next r).resolve known := by
  rw [resolve, h]

@[simp] theorem resolve_bind (p : Program S ε α) (f : α → Program S ε β) :
    (p >>= f).resolve known = p.resolve known >>= fun a => (f a).resolve known := by
  induction p with
  | ret a => rfl
  | raise e => rfl
  | call op next ih =>
    rw [call_bind]
    cases h : known op with
    | none =>
      rw [resolve_call_of_unknown h, resolve_call_of_unknown h, call_bind]
      exact congrArg (call op) (funext ih)
    | some r =>
      rw [resolve_call_of_known h, resolve_call_of_known h]
      exact ih r

@[simp] theorem resolve_attempt (p : Program S ε α) :
    p.attempt.resolve known = (p.resolve known).attempt := by
  induction p with
  | ret a => rfl
  | raise e => rfl
  | call op next ih =>
    rw [attempt_call]
    cases h : known op with
    | none =>
      rw [resolve_call_of_unknown h, resolve_call_of_unknown h, attempt_call]
      exact congrArg (call op) (funext ih)
    | some r =>
      rw [resolve_call_of_known h, resolve_call_of_known h]
      exact ih r

/-- A known call is its answer. -/
theorem resolve_perform {op : S.Op} {r : Except ε (S.Res op)} (h : known op = some r) :
    (perform op : Program S ε _).resolve known = ofExcept r := by
  rw [perform, resolve_call_of_known h]
  cases r <;> rfl

/-- A known call whose exception is caught. -/
theorem resolve_attempt_perform_bind {op : S.Op} {r : Except ε (S.Res op)} (h : known op = some r)
    (f : Except ε (S.Res op) → Program S ε β) :
    ((perform op).attempt >>= f).resolve known = (f r).resolve known := by
  rw [resolve_bind, resolve_attempt, resolve_perform h]
  cases r <;> rfl

/-! ### Runs -/

/-- The environment gives the known answers, and they change nothing. -/
def Gives (known : (op : S.Op) → Option (Except ε (S.Res op)))
    (answer : (op : S.Op) → σ → Except ε (S.Res op) × σ) : Prop :=
  ∀ ⦃op r⦄, known op = some r → ∀ s, answer op s = (r, s)

variable {answer : (op : S.Op) → σ → Except ε (S.Res op) × σ}

theorem run_resolve (h : Gives known answer) (p : Program S ε α) (s : σ) :
    run answer (p.resolve known) s = run answer p s := by
  induction p generalizing s with
  | ret a => rfl
  | raise e => rfl
  | call op next ih =>
    cases hop : known op with
    | none =>
      rw [resolve_call_of_unknown hop, run_call, run_call]
      exact ih _ _
    | some r =>
      rw [resolve_call_of_known hop, run_call, h hop s]
      exact ih r s

/-- The resolved program makes the calls that are not known. -/
theorem trace_resolve (h : Gives known answer) (p : Program S ε α) (s : σ) :
    trace answer (p.resolve known) s =
      (trace answer p s).filter fun event => (known event.1).isNone := by
  induction p generalizing s with
  | ret a => rfl
  | raise e => rfl
  | call op next ih =>
    cases hop : known op with
    | none =>
      rw [resolve_call_of_unknown hop, trace_call, trace_call,
        List.filter_cons_of_pos (by rw [hop]; rfl)]
      exact congrArg _ (ih _ _)
    | some r =>
      rw [resolve_call_of_known hop, trace_call, List.filter_cons_of_neg (by simp [hop]), h hop s]
      exact ih r s

theorem run_eq_of_resolve_eq (h : Gives known answer) {p q : Program S ε α}
    (hpq : p.resolve known = q.resolve known) (s : σ) : run answer p s = run answer q s := by
  rw [← run_resolve h p, hpq, run_resolve h q]

/-- A part of the trace that no known call belongs to. -/
theorem trace_eq_of_resolve_eq (h : Gives known answer) {p q : Program S ε α}
    (hpq : p.resolve known = q.resolve known) {keep : Event S ε → Bool}
    (hkeep : ∀ event, keep event → known event.1 = none) (s : σ) :
    (trace answer p s).filter keep = (trace answer q s).filter keep := by
  have hunknown (t : List (Event S ε)) :
      t.filter keep = (t.filter fun event => (known event.1).isNone).filter keep := by
    rw [List.filter_filter]
    refine List.filter_congr fun event _ => ?_
    cases hevent : keep event with
    | false => rfl
    | true => rw [hkeep event hevent]; rfl
  rw [hunknown, hunknown (trace answer q s), ← trace_resolve h, ← trace_resolve h, hpq]

end ZubotIngestion.Effects.Program
