import ZubotIngestion.Effects.Pool

/-!
# The traces of a program

`Runs p t r` says that `p` can make the calls of `t`, with the answers listed there, and end with
outcome `r`. It is independent of any state: whatever answers the calls, alone or among other
programs, a program that has ended has run in this sense. A trace that breaks off in a script of
answered calls follows the script up to one call, and ends with the exception of that call.

## Main definitions

* `Program.Runs`, `Program.Leads`: complete and partial traces.
* `Replays`: the trace, answered from one state to another.
* `BrokeOff`.

## Main results

* `Program.runs_bind`, `Program.runs_perform_bind`, `Program.runs_attempt`: inversion of a trace
  along the program.
* `Program.Safe.of_runs`: the postcondition of a safe program holds of its traces.
* `Program.runs_run`, `Pool.runs_exec`: programs that have ended, alone and in a pool.
-/

namespace ZubotIngestion.Effects

variable {S : Signature} {ε α β ρ σ χ : Type}

namespace Program

/-- The program can make the calls of the trace and end with the outcome. -/
inductive Runs : Program S ε α → List (Event S ε) → Except ε α → Prop
  | ret (a : α) : Runs (ret a) [] (.ok a)
  | raise (e : ε) : Runs (raise e) [] (.error e)
  | call {op : S.Op} {next : Except ε (S.Res op) → Program S ε α} {r : Except ε (S.Res op)}
      {t : List (Event S ε)} {o : Except ε α} (h : Runs (next r) t o) :
      Runs (call op next) (⟨op, r⟩ :: t) o

/-- The program can make the calls of the trace, and is left with another program. -/
inductive Leads (p : Program S ε α) : List (Event S ε) → Program S ε α → Prop
  | start : Leads p [] p
  | step {t : List (Event S ε)} {op : S.Op} {next : Except ε (S.Res op) → Program S ε α}
      (h : Leads p t (call op next)) (r : Except ε (S.Res op)) : Leads p (t ++ [⟨op, r⟩]) (next r)

/-- A complete trace of what is left completes the trace. -/
theorem Leads.runs {p p' : Program S ε α} {t u : List (Event S ε)} {o : Except ε α}
    (h : Leads p t p') (h' : Runs p' u o) : Runs p (t ++ u) o := by
  induction h generalizing u with
  | start => exact h'
  | step _ r ih =>
    rw [List.append_assoc]
    exact ih (.call h')

@[simp] theorem runs_ret {a : α} {t : List (Event S ε)} {o : Except ε α} :
    Runs (ret a) t o ↔ t = [] ∧ o = .ok a := by
  constructor
  · rintro ⟨⟩
    exact ⟨rfl, rfl⟩
  · rintro ⟨rfl, rfl⟩
    exact .ret a

@[simp] theorem runs_raise {e : ε} {t : List (Event S ε)} {o : Except ε α} :
    Runs (raise e : Program S ε α) t o ↔ t = [] ∧ o = .error e := by
  constructor
  · rintro ⟨⟩
    exact ⟨rfl, rfl⟩
  · rintro ⟨rfl, rfl⟩
    exact .raise e

/-- A call is the first of its trace. -/
theorem runs_call {op : S.Op} {next : Except ε (S.Res op) → Program S ε α}
    {t : List (Event S ε)} {o : Except ε α} :
    Runs (call op next) t o ↔ ∃ r t', t = ⟨op, r⟩ :: t' ∧ Runs (next r) t' o := by
  constructor
  · rintro ⟨⟩
    exact ⟨_, _, rfl, ‹_›⟩
  · rintro ⟨r, t', rfl, h⟩
    exact .call h

/-- A sequence runs its first part to the end and then its second part, or the first part
raises. -/
theorem runs_bind {p : Program S ε α} {f : α → Program S ε β} {t : List (Event S ε)}
    {o : Except ε β} :
    Runs (p >>= f) t o ↔
      (∃ t₁ t₂ a, t = t₁ ++ t₂ ∧ Runs p t₁ (.ok a) ∧ Runs (f a) t₂ o) ∨
        ∃ e, Runs p t (.error e) ∧ o = .error e := by
  induction p generalizing t with
  | ret a =>
    simp only [ret_bind, runs_ret, reduceCtorEq, and_false, false_and, exists_false, or_false,
      Except.ok.injEq]
    constructor
    · exact fun h => ⟨[], t, a, rfl, ⟨rfl, rfl⟩, h⟩
    · rintro ⟨t₁, t₂, a', rfl, ⟨rfl, rfl⟩, h⟩
      exact h
  | raise e =>
    simp only [raise_bind, runs_raise, reduceCtorEq, and_false, false_and, exists_false, false_or,
      Except.error.injEq]
    constructor
    · rintro ⟨rfl, rfl⟩
      exact ⟨e, ⟨rfl, rfl⟩, rfl⟩
    · rintro ⟨e', ⟨rfl, rfl⟩, rfl⟩
      exact ⟨rfl, rfl⟩
  | call op next ih =>
    simp only [call_bind, runs_call, ih]
    constructor
    · rintro ⟨r, t', rfl, ⟨t₁, t₂, a, rfl, h₁, h₂⟩ | ⟨e, h, rfl⟩⟩
      · exact Or.inl ⟨⟨op, r⟩ :: t₁, t₂, a, rfl, ⟨r, t₁, rfl, h₁⟩, h₂⟩
      · exact Or.inr ⟨e, ⟨r, t', rfl, h⟩, rfl⟩
    · rintro (⟨_, t₂, a, rfl, ⟨r, t₁, rfl, h₁⟩, h₂⟩ | ⟨e, ⟨r, t', rfl, h⟩, rfl⟩)
      · exact ⟨r, t₁ ++ t₂, rfl, Or.inl ⟨t₁, t₂, a, rfl, h₁, h₂⟩⟩
      · exact ⟨r, t', rfl, Or.inr ⟨e, h, rfl⟩⟩

/-- A call that raises what it is answered with. -/
theorem runs_perform {op : S.Op} {t : List (Event S ε)} {o : Except ε (S.Res op)} :
    Runs (perform op) t o ↔ t = [⟨op, o⟩] := by
  rw [perform, runs_call]
  constructor
  · rintro ⟨r, t', rfl, h⟩
    cases r with
    | ok v =>
      obtain ⟨rfl, rfl⟩ := runs_ret.mp h
      rfl
    | error e =>
      obtain ⟨rfl, rfl⟩ := runs_raise.mp h
      rfl
  · rintro rfl
    cases o with
    | ok v => exact ⟨.ok v, [], rfl, .ret v⟩
    | error e => exact ⟨.error e, [], rfl, .raise e⟩

/-- A call whose exception ends the program. -/
theorem runs_perform_bind {op : S.Op} {f : S.Res op → Program S ε β} {t : List (Event S ε)}
    {o : Except ε β} :
    Runs (perform op >>= f) t o ↔
      (∃ v t', t = ⟨op, .ok v⟩ :: t' ∧ Runs (f v) t' o) ∨
        ∃ e, t = [⟨op, .error e⟩] ∧ o = .error e := by
  simp only [runs_bind, runs_perform]
  refine or_congr_left ?_
  constructor
  · rintro ⟨_, t₂, v, rfl, rfl, h⟩
    exact ⟨v, t₂, rfl, h⟩
  · rintro ⟨v, t', rfl, h⟩
    exact ⟨_, t', v, rfl, rfl, h⟩

/-- `attempt` returns the outcome, and makes the same calls. -/
theorem runs_attempt {p : Program S ε α} {t : List (Event S ε)} {o : Except ε (Except ε α)} :
    Runs p.attempt t o ↔ ∃ r, Runs p t r ∧ o = .ok r := by
  induction p generalizing t with
  | ret a =>
    simp only [attempt_ret, runs_ret]
    constructor
    · rintro ⟨rfl, rfl⟩
      exact ⟨.ok a, ⟨rfl, rfl⟩, rfl⟩
    · rintro ⟨_, ⟨rfl, rfl⟩, rfl⟩
      exact ⟨rfl, rfl⟩
  | raise e =>
    simp only [attempt_raise, runs_ret, runs_raise]
    constructor
    · rintro ⟨rfl, rfl⟩
      exact ⟨.error e, ⟨rfl, rfl⟩, rfl⟩
    · rintro ⟨_, ⟨rfl, rfl⟩, rfl⟩
      exact ⟨rfl, rfl⟩
  | call op next ih =>
    simp only [attempt_call, runs_call, ih]
    constructor
    · rintro ⟨r, t', rfl, o', h, rfl⟩
      exact ⟨o', ⟨r, t', rfl, h⟩, rfl⟩
    · rintro ⟨o', ⟨r, t', rfl, h⟩, rfl⟩
      exact ⟨r, t', rfl, o', h, rfl⟩

/-- A value that is returned or raised. -/
theorem runs_ofExcept {r : Except ε α} {t : List (Event S ε)} {o : Except ε α} :
    Runs (ofExcept r : Program S ε α) t o ↔ t = [] ∧ o = r := by
  cases r with
  | ok a => exact runs_ret
  | error e => exact runs_raise

/-- What is returned of a value that is returned or raised. -/
theorem runs_ofExcept_ret {r : Except ε α} {f : α → β} {t : List (Event S ε)} {o : Except ε β} :
    Runs (ofExcept r >>= fun a => ret (f a)) t o ↔ t = [] ∧ o = r.map f := by
  cases r with
  | ok a => exact runs_ret
  | error e => exact runs_raise

/-- A call whose exception is caught. -/
theorem runs_attempt_perform_bind {op : S.Op} {f : Except ε (S.Res op) → Program S ε β}
    {t : List (Event S ε)} {o : Except ε β} :
    Runs ((perform op).attempt >>= f) t o ↔ ∃ r t', t = ⟨op, r⟩ :: t' ∧ Runs (f r) t' o := by
  simp only [runs_bind, runs_attempt, runs_perform]
  constructor
  · rintro (⟨_, t', r, rfl, ⟨r', rfl, hr⟩, h⟩ | ⟨e, ⟨r, -, hr⟩, -⟩)
    · obtain rfl := Except.ok.inj hr
      exact ⟨r, t', rfl, h⟩
    · cases hr
  · rintro ⟨r, t', rfl, h⟩
    exact Or.inl ⟨[⟨op, r⟩], t', r, rfl, ⟨r, rfl, rfl⟩, h⟩

/-- A wrapped value. -/
theorem runs_map {p : Program S ε α} {f : α → β} {t : List (Event S ε)} {o : Except ε β} :
    Runs (f <$> p) t o ↔ ∃ r, Runs p t r ∧ o = r.map f := by
  rw [map_eq_pure_bind, runs_bind]
  constructor
  · rintro (⟨t₁, t₂, a, rfl, h, h'⟩ | ⟨e, h, rfl⟩)
    · obtain ⟨rfl, rfl⟩ := runs_ret.mp h'
      exact ⟨.ok a, by rwa [List.append_nil], rfl⟩
    · exact ⟨.error e, h, rfl⟩
  · rintro ⟨r, h, rfl⟩
    cases r with
    | ok a => exact Or.inl ⟨t, [], a, (List.append_nil t).symm, h, .ret (f a)⟩
    | error e => exact Or.inr ⟨e, h, rfl⟩

/-- Whatever calls a safe program makes, it ends in its postcondition. -/
theorem Safe.of_runs {A : (op : S.Op) → Except ε (S.Res op) → Prop}
    {G : List (Event S ε) → S.Op → Prop} {Q : List (Event S ε) → Except ε α → Prop}
    {p : Program S ε α} {t u : List (Event S ε)} {r : Except ε α} (h : Safe A G Q p t)
    (hr : Runs p u r) (hA : ∀ c ∈ u, A c.1 c.2) : Q (t ++ u) r := by
  induction hr generalizing t with
  | ret a =>
    rw [List.append_nil]
    exact h
  | raise e =>
    rw [List.append_nil]
    exact h
  | call hr ih =>
    obtain ⟨hfirst, hrest⟩ := List.forall_mem_cons.mp hA
    rw [List.append_cons]
    exact ih (h.2 _ hfirst) hrest

/-- A program that runs alone makes the calls of its trace. -/
theorem runs_run (answer : (op : S.Op) → σ → Except ε (S.Res op) × σ) (p : Program S ε α)
    (s : σ) : Runs p (trace answer p s) (run answer p s).1 := by
  induction p generalizing s with
  | ret a => exact .ret a
  | raise e => exact .raise e
  | call op next ih => exact .call (ih _ _)

end Program

/-! ### Traces and states -/

/-- The calls of the trace are answered one after the other, by choices satisfying `J`, and nothing
else happens in between. -/
inductive Replays (answer : χ → (op : S.Op) → σ → Except ε (S.Res op) × σ) (J : χ → Prop) :
    σ → List (Event S ε) → σ → Prop
  | nil (s : σ) : Replays answer J s [] s
  | cons {choice : χ} {op : S.Op} {s s' : σ} {t : List (Event S ε)} (hchoice : J choice)
      (h : Replays answer J (answer choice op s).2 t s') :
      Replays answer J s (⟨op, (answer choice op s).1⟩ :: t) s'

section Replays

variable {answer : χ → (op : S.Op) → σ → Except ε (S.Res op) × σ} {J : χ → Prop}

theorem replays_nil {s s' : σ} : Replays answer J s [] s' ↔ s' = s := by
  constructor
  · rintro ⟨⟩
    rfl
  · rintro rfl
    exact .nil s'

/-- The first call is answered in the first state. -/
theorem replays_cons {s s' : σ} {op : S.Op} {r : Except ε (S.Res op)} {t : List (Event S ε)} :
    Replays answer J s (⟨op, r⟩ :: t) s' ↔
      ∃ choice, J choice ∧ (answer choice op s).1 = r ∧
        Replays answer J (answer choice op s).2 t s' := by
  constructor
  · intro h
    cases h with
    | cons hchoice h => exact ⟨_, hchoice, rfl, h⟩
  · rintro ⟨choice, hchoice, rfl, h⟩
    exact .cons hchoice h

theorem replays_append {s s' : σ} {t u : List (Event S ε)} :
    Replays answer J s (t ++ u) s' ↔ ∃ m, Replays answer J s t m ∧ Replays answer J m u s' := by
  induction t generalizing s with
  | nil => simp [replays_nil]
  | cons c t ih =>
    obtain ⟨op, r⟩ := c
    simp only [List.cons_append, replays_cons, ih]
    constructor
    · rintro ⟨choice, hchoice, hr, m, ht, hu⟩
      exact ⟨m, ⟨choice, hchoice, hr, ht⟩, hu⟩
    · rintro ⟨m, ⟨choice, hchoice, hr, ht⟩, hu⟩
      exact ⟨choice, hchoice, hr, m, ht, hu⟩

/-- A program that runs alone has its calls answered by the choices it uses up. -/
theorem replays_each {p : Program S ε α} {s : σ} {choices : ℕ → χ} (h : ∀ n, J (choices n)) :
    Replays answer J s (p.trace (Program.each answer) (s, choices))
      (p.run (Program.each answer) (s, choices)).2.1 := by
  induction p generalizing s choices with
  | ret a => exact .nil s
  | raise e => exact .nil s
  | call op next ih => exact .cons (h 0) (ih _ fun n => h (n + 1))

end Replays

/-! ### Scripts -/

/-- The trace follows the script up to one of its calls, which raised. -/
def BrokeOff (script t : List (Event S ε)) (e : ε) : Prop :=
  ∃ pre op v post, script = pre ++ ⟨op, .ok v⟩ :: post ∧ t = pre ++ [⟨op, .error e⟩]

namespace BrokeOff

variable {script t : List (Event S ε)} {e : ε}

/-- The first call raised. -/
theorem head (op : S.Op) (v : S.Res op) (post : List (Event S ε)) (e : ε) :
    BrokeOff (⟨op, .ok v⟩ :: post) [⟨op, .error e⟩] e :=
  ⟨[], op, v, post, rfl, rfl⟩

/-- A script may go on. -/
theorem append (h : BrokeOff script t e) (post : List (Event S ε)) :
    BrokeOff (script ++ post) t e := by
  obtain ⟨pre, op, v, post', rfl, rfl⟩ := h
  exact ⟨pre, op, v, post' ++ post, by simp, rfl⟩

/-- Calls that were answered come first. -/
theorem prepend (h : BrokeOff script t e) (pre : List (Event S ε)) :
    BrokeOff (pre ++ script) (pre ++ t) e := by
  obtain ⟨pre', op, v, post, rfl, rfl⟩ := h
  exact ⟨pre ++ pre', op, v, post, by simp, by simp⟩

theorem cons (h : BrokeOff script t e) (c : Event S ε) : BrokeOff (c :: script) (c :: t) e :=
  h.prepend [c]

/-- In a script of two parts, the trace breaks off in the first part or completes it. -/
theorem append_cases {script' : List (Event S ε)} (h : BrokeOff (script ++ script') t e) :
    BrokeOff script t e ∨ ∃ t', t = script ++ t' ∧ BrokeOff script' t' e := by
  obtain ⟨pre, op, v, post, hscript, rfl⟩ := h
  rcases List.append_eq_append_iff.mp hscript with ⟨pre', rfl, hpost⟩ | ⟨post', rfl, hpost⟩
  · exact Or.inr ⟨pre' ++ [⟨op, .error e⟩], by simp, pre', op, v, post, hpost, rfl⟩
  · cases post' with
    | nil => exact Or.inr ⟨[⟨op, .error e⟩], by simp, [], op, v, post, hpost.symm, rfl⟩
    | cons c post' =>
      obtain ⟨rfl, rfl⟩ := List.cons.inj hpost
      exact Or.inl ⟨pre, op, v, post', rfl, rfl⟩

/-- The first call raised, or was answered. -/
theorem cons_cases {op : S.Op} {v : S.Res op} (h : BrokeOff (⟨op, .ok v⟩ :: script) t e) :
    t = [⟨op, .error e⟩] ∨ ∃ t', t = ⟨op, .ok v⟩ :: t' ∧ BrokeOff script t' e := by
  obtain ⟨pre, op', v', post, hscript, rfl⟩ := h
  cases pre with
  | nil =>
    obtain ⟨hc, -⟩ := List.cons.inj hscript
    cases hc
    exact Or.inl rfl
  | cons c pre =>
    obtain ⟨rfl, hrest⟩ := List.cons.inj hscript
    exact Or.inr ⟨pre ++ [⟨op', .error e⟩], rfl, pre, op', v', post, hrest, rfl⟩

/-- Every call of the trace is one of the script, with its answer or with the exception. -/
theorem mem (h : BrokeOff script t e) {c : Event S ε} (hc : c ∈ t) :
    c ∈ script ∨ c.2 = .error e ∧ ∃ v, ⟨c.1, .ok v⟩ ∈ script := by
  obtain ⟨pre, op, v, post, rfl, rfl⟩ := h
  rcases List.mem_append.mp hc with hc | hc
  · exact Or.inl (List.mem_append_left _ hc)
  · rw [List.mem_singleton.mp hc]
    exact Or.inr ⟨rfl, v, by simp⟩

end BrokeOff

/-! ### Programs in a pool -/

namespace Pool

variable {launch : ρ → Program S ε α} {answer : χ → (op : S.Op) → σ → Except ε (S.Res op) × σ}

/-- Every thread has been led where it stands by the calls it has made. -/
theorem leads_exec {P : Pool S ε α ρ σ}
    (hP : ∀ th ∈ P.threads, (launch th.request).Leads th.trace th.program)
    (moves : List (Move ρ χ)) :
    ∀ th ∈ (P.exec launch answer moves).threads, (launch th.request).Leads th.trace th.program := by
  refine exec_induction (motive := fun P => ∀ th ∈ P.threads,
    (launch th.request).Leads th.trace th.program) (fun P m hP => ?_) hP moves
  rcases P.move_cases launch answer m with
    ⟨request, rfl⟩ | hsame | ⟨i, choice, request, op, next, trace, -, hi, hcall⟩
  · intro th hth
    rcases List.mem_append.mp hth with hth | hth
    · exact hP th hth
    · rw [List.mem_singleton.mp hth]
      exact .start
  · rwa [hsame]
  · rw [hcall]
    intro th hth
    rcases List.mem_or_eq_of_mem_set hth with hth | rfl
    · exact hP th hth
    · exact (hP _ (List.mem_of_getElem? hi)).step _

/-- A thread that has ended has run. -/
theorem runs_exec {P : Pool S ε α ρ σ}
    (hP : ∀ th ∈ P.threads, (launch th.request).Leads th.trace th.program)
    (moves : List (Move ρ χ)) {th : Thread S ε α ρ}
    (hth : th ∈ (P.exec launch answer moves).threads)
    {outcome : Except ε α} (ho : th.outcome? = some outcome) :
    (launch th.request).Runs th.trace outcome := by
  have hleads : (launch th.request).Leads th.trace th.program := leads_exec hP moves th hth
  rcases th with ⟨request, program, trace⟩
  have hend : program.Runs [] outcome := by
    cases program with
    | ret a =>
      obtain rfl := Option.some.inj ho
      exact .ret a
    | raise e =>
      obtain rfl := Option.some.inj ho
      exact .raise e
    | call op next => cases ho
  simpa using hleads.runs hend

end Pool

end ZubotIngestion.Effects
