import Mathlib.Data.List.Induction
import ZubotIngestion.Effects.Logic

/-!
# Pools of interleaved programs

A pool is a shared state together with the programs that run on it, each with the request it was
started for and the calls it has made. A move starts a program for a new request, or lets one
program make its next call, atomically, the environment choosing how the call is answered. A run
of the pool is any sequence of moves, so it is any interleaving of the programs at their calls;
a program that crashes is one that no later move steps again.

## Main definitions

* `Thread`, `Pool`, `Move`, `Pool.move`, `Pool.exec`.
* `Pool.Sound`: the state satisfies its invariant and every thread its specification.

## Main results

* `Pool.move_cases`: what a move can do.
* `Pool.state_exec`: a property of the shared state.
* `Pool.Sound.exec`, `Pool.Sound.exec_while`: the invariant rule. If the answers given in states
  satisfying `I` are the assumed ones, guaranteed calls keep `I`, and every launched program is
  safe, then `I` holds in every reachable state and every thread is safe from where it stands.
* `Pool.Sound.outcome`: a finished thread satisfies the postcondition of its request.
* `Pool.traces_exec_of_invariant`, `Pool.traces_exec`: a relation between the calls of a thread and
  the shared state; `Pool.state_exec_of_sound`: the invariant rule that uses such a relation.
* `Pool.answered_exec`: the calls of a run are answered as the choices of its moves promise.
* `Pool.explained_exec`: what the shared state holds goes back to calls of the threads.
* `Pool.exec_soloMoves`: a thread that goes on alone comes to its end.
-/

namespace ZubotIngestion.Effects

/-- A running program: the request it serves, what is left of it, and the calls it has made. -/
structure Thread (S : Signature) (ε α ρ : Type) where
  /-- The request the thread was started for. -/
  request : ρ
  /-- What is left to run. -/
  program : Program S ε α
  /-- The calls made so far, with their answers. -/
  trace : List (Event S ε)

/-- A shared state and the programs running on it, in the order they were started. -/
structure Pool (S : Signature) (ε α ρ σ : Type) where
  /-- The state all threads share. -/
  state : σ
  /-- The threads, finished ones included. -/
  threads : List (Thread S ε α ρ)

/-- One move of a pool: a request arrives, or one thread makes its next call. -/
inductive Move (ρ χ : Type) : Type where
  /-- A thread is started for `request`. -/
  | start (request : ρ)
  /-- Thread `i` makes its next call, answered as `choice` says. -/
  | step (i : ℕ) (choice : χ)

variable {S : Signature} {ε α ρ σ χ : Type}

namespace Thread

/-- The thread after its next call: what it is left with, and the state behind the call. A thread
that has returned or raised stays as it is. -/
def advance (answer : (op : S.Op) → σ → Except ε (S.Res op) × σ) (th : Thread S ε α ρ) (s : σ) :
    Thread S ε α ρ × σ :=
  match th.program with
  | .call op next =>
    ({ th with
        program := next (answer op s).1
        trace := th.trace ++ [⟨op, (answer op s).1⟩] }, (answer op s).2)
  | _ => (th, s)

/-- The outcome of a thread that has returned or raised. -/
def outcome? (th : Thread S ε α ρ) : Option (Except ε α) :=
  match th.program with
  | .ret a => some (.ok a)
  | .raise e => some (.error e)
  | .call _ _ => none

end Thread

namespace Pool

variable (launch : ρ → Program S ε α) (answer : χ → (op : S.Op) → σ → Except ε (S.Res op) × σ)

/-- One move of the pool. A step of a thread that does not exist changes nothing. -/
def move (P : Pool S ε α ρ σ) : Move ρ χ → Pool S ε α ρ σ
  | .start request => { P with threads := P.threads ++ [⟨request, launch request, []⟩] }
  | .step i choice =>
    match P.threads[i]? with
    | none => P
    | some th =>
      { state := (th.advance (answer choice) P.state).2
        threads := P.threads.set i (th.advance (answer choice) P.state).1 }

theorem set_self {threads : List (Thread S ε α ρ)} {i : ℕ} {th : Thread S ε α ρ}
    (h : threads[i]? = some th) : threads.set i th = threads := by
  obtain ⟨hlength, rfl⟩ := List.getElem?_eq_some_iff.mp h
  exact List.set_getElem_self hlength

/-- A step of a thread that has not ended is its next call. -/
theorem move_call {P : Pool S ε α ρ σ} {i : ℕ} {request : ρ} {op : S.Op}
    {next : Except ε (S.Res op) → Program S ε α} {trace : List (Event S ε)}
    (hi : P.threads[i]? = some ⟨request, .call op next, trace⟩) (choice : χ) :
    P.move launch answer (.step i choice) =
      { state := (answer choice op P.state).2
        threads := P.threads.set i ⟨request, next (answer choice op P.state).1,
          trace ++ [⟨op, (answer choice op P.state).1⟩]⟩ } := by
  simp only [move, hi, Thread.advance]

/-- A move starts a thread, or changes nothing, or is one call of a thread that has not ended. -/
theorem move_cases (P : Pool S ε α ρ σ) (m : Move ρ χ) :
    (∃ request, m = .start request) ∨ P.move launch answer m = P ∨
      ∃ i choice request op next trace, m = .step i choice ∧
        P.threads[i]? = some ⟨request, .call op next, trace⟩ ∧
        P.move launch answer m =
          { state := (answer choice op P.state).2
            threads := P.threads.set i ⟨request, next (answer choice op P.state).1,
              trace ++ [⟨op, (answer choice op P.state).1⟩]⟩ } := by
  cases m with
  | start request => exact .inl ⟨request, rfl⟩
  | step i choice =>
    right
    cases hi : P.threads[i]? with
    | none => exact .inl (by simp only [move, hi])
    | some th =>
      rcases th with ⟨request, program, trace⟩
      cases program with
      | ret a => exact .inl (by simp only [move, hi, Thread.advance, set_self hi])
      | raise e => exact .inl (by simp only [move, hi, Thread.advance, set_self hi])
      | call op next =>
        exact .inr ⟨i, choice, request, op, next, trace, rfl, hi, move_call launch answer hi choice⟩

/-- A move leaves the shared state alone, or changes it by one call. -/
theorem state_move (P : Pool S ε α ρ σ) (m : Move ρ χ) :
    (P.move launch answer m).state = P.state ∨
      ∃ c op, (P.move launch answer m).state = (answer c op P.state).2 := by
  rcases P.move_cases launch answer m with
    ⟨request, rfl⟩ | hsame | ⟨i, choice, request, op, next, trace, -, -, hcall⟩
  · exact .inl rfl
  · exact .inl (congrArg Pool.state hsame)
  · exact .inr ⟨choice, op, congrArg Pool.state hcall⟩

/-- The pool after a sequence of moves. -/
def exec (P : Pool S ε α ρ σ) (moves : List (Move ρ χ)) : Pool S ε α ρ σ :=
  moves.foldl (move launch answer) P

@[simp] theorem exec_nil (P : Pool S ε α ρ σ) : P.exec launch answer [] = P := rfl

@[simp] theorem exec_cons (P : Pool S ε α ρ σ) (m : Move ρ χ) (moves : List (Move ρ χ)) :
    P.exec launch answer (m :: moves) = (P.move launch answer m).exec launch answer moves := rfl

theorem exec_append (P : Pool S ε α ρ σ) (moves moves' : List (Move ρ χ)) :
    P.exec launch answer (moves ++ moves') =
      (P.exec launch answer moves).exec launch answer moves' :=
  List.foldl_append

@[simp] theorem exec_concat (P : Pool S ε α ρ σ) (moves : List (Move ρ χ)) (m : Move ρ χ) :
    P.exec launch answer (moves ++ [m]) = (P.exec launch answer moves).move launch answer m := by
  rw [exec_append]
  rfl

variable {launch answer}

/-- A property of pools that every move keeps holds after every run. -/
theorem exec_induction {motive : Pool S ε α ρ σ → Prop}
    (hmove : ∀ P m, motive P → motive (P.move launch answer m)) {P : Pool S ε α ρ σ}
    (hP : motive P) (moves : List (Move ρ χ)) : motive (P.exec launch answer moves) := by
  induction moves generalizing P with
  | nil => exact hP
  | cons m moves ih => exact ih (hmove P m hP)

/-- A property of the shared state that every call keeps holds after every run. -/
theorem state_exec {H : σ → Prop} (hstep : ∀ c op s, H s → H (answer c op s).2)
    {P : Pool S ε α ρ σ} (hP : H P.state) (moves : List (Move ρ χ)) :
    H (P.exec launch answer moves).state := by
  refine exec_induction (motive := fun P => H P.state) (fun P m hP => ?_) hP moves
  rcases P.state_move launch answer m with hsame | ⟨c, op, hcall⟩
  · rwa [hsame]
  · rw [hcall]
    exact hstep c op P.state hP

/-! ### The invariant rule -/

/-- The state satisfies `I`, and every thread has kept the specification of its request and is
safe for it from where it stands. -/
structure Sound (I : σ → Prop) (A : (op : S.Op) → Except ε (S.Res op) → Prop)
    (G : ρ → List (Event S ε) → S.Op → Prop) (Q : ρ → List (Event S ε) → Except ε α → Prop)
    (P : Pool S ε α ρ σ) : Prop where
  /-- The invariant holds of the shared state. -/
  state : I P.state
  /-- Every thread is safe from where it stands. -/
  threads : ∀ th ∈ P.threads, th.program.Safe A (G th.request) (Q th.request) th.trace
  /-- Every call a thread has made was guaranteed. -/
  calls : ∀ th ∈ P.threads, Program.Kept A (G th.request) th.trace

variable {I : σ → Prop} {A : (op : S.Op) → Except ε (S.Res op) → Prop}
  {G : ρ → List (Event S ε) → S.Op → Prop} {Q : ρ → List (Event S ε) → Except ε α → Prop}

/-- One move keeps soundness, if the answer given in this state is an assumed one and the call
made keeps `I`. -/
theorem Sound.move {P : Pool S ε α ρ σ} (hP : P.Sound I A G Q) (m : Move ρ χ)
    (hA : ∀ c op, A op (answer c op P.state).1)
    (hG : ∀ i c th op next, m = .step i c → P.threads[i]? = some th →
      th.program = .call op next → G th.request th.trace op → I (answer c op P.state).2)
    (hlaunch : ∀ r, (launch r).Safe A (G r) (Q r) []) :
    (P.move launch answer m).Sound I A G Q := by
  rcases P.move_cases launch answer m with
    ⟨request, rfl⟩ | hsame | ⟨i, choice, request, op, next, trace, hm, hi, hcall⟩
  · refine ⟨hP.state, fun th hth => ?_, fun th hth => ?_⟩ <;>
      rcases List.mem_append.mp hth with hth | hth
    · exact hP.threads th hth
    · rw [List.mem_singleton.mp hth]
      exact hlaunch request
    · exact hP.calls th hth
    · rw [List.mem_singleton.mp hth]
      exact Program.Kept.nil
  · rwa [hsame]
  · have hmem := List.mem_of_getElem? hi
    obtain ⟨hop, hnext⟩ := hP.threads _ hmem
    rw [hcall]
    refine ⟨hG i choice _ op next hm hi rfl hop, fun th hth => ?_, fun th hth => ?_⟩ <;>
      rcases List.mem_or_eq_of_mem_set hth with hth | rfl
    · exact hP.threads th hth
    · exact hnext _ (hA choice op)
    · exact hP.calls th hth
    · exact (hP.calls _ hmem).concat hop (hA choice op)

/-- **The invariant rule**, for runs all of whose moves are made under a condition `J`. -/
theorem Sound.exec_while {J : Pool S ε α ρ σ → Move ρ χ → Prop} {P : Pool S ε α ρ σ}
    (hP : P.Sound I A G Q)
    (hA : ∀ P m c op, I P.state → J P m → A op (answer c op P.state).1)
    (hG : ∀ P i c th op next, P.Sound I A G Q → J P (.step i c) → P.threads[i]? = some th →
      th.program = .call op next → G th.request th.trace op → I (answer c op P.state).2)
    (hlaunch : ∀ r, (launch r).Safe A (G r) (Q r) []) (moves : List (Move ρ χ))
    (hJ : ∀ pre m post, moves = pre ++ m :: post → J (P.exec launch answer pre) m) :
    (P.exec launch answer moves).Sound I A G Q := by
  induction moves generalizing P with
  | nil => exact hP
  | cons m moves ih =>
    have hm := hJ [] m moves rfl
    refine ih (hP.move m (fun c op => hA P m c op hP.state hm) ?_ hlaunch) fun pre m' post h => ?_
    · rintro i c th op next rfl hi hop
      exact hG P i c th op next hP hm hi hop
    · exact hJ (m :: pre) m' post (congrArg (m :: ·) h)

/-- **The invariant rule.** If the answers given in states satisfying `I` are the assumed ones,
guaranteed calls keep `I` and every launched program is safe, then soundness survives every
run. -/
theorem Sound.exec {P : Pool S ε α ρ σ} (hP : P.Sound I A G Q)
    (hA : ∀ c op s, I s → A op (answer c op s).1)
    (hG : ∀ c r t op s, I s → G r t op → I (answer c op s).2)
    (hlaunch : ∀ r, (launch r).Safe A (G r) (Q r) []) (moves : List (Move ρ χ)) :
    (P.exec launch answer moves).Sound I A G Q := by
  refine hP.exec_while (J := fun _ _ => True) (fun P _ c op hI _ => hA c op P.state hI)
    (fun P _ c th op _ hP _ _ _ hop => hG c th.request th.trace op P.state hP.state hop) hlaunch
    moves fun _ _ _ _ => trivial

/-- The outcome of a finished thread satisfies the postcondition of its request. -/
theorem Sound.outcome {P : Pool S ε α ρ σ} (hP : P.Sound I A G Q) {th : Thread S ε α ρ}
    (hth : th ∈ P.threads) {outcome : Except ε α} (ho : th.outcome? = some outcome) :
    Q th.request th.trace outcome := by
  have hsafe := hP.threads th hth
  rcases th with ⟨request, program, trace⟩
  cases program <;> simp only [Thread.outcome?, Option.some.injEq, reduceCtorEq] at ho
  all_goals subst ho; exact hsafe

/-! ### Calls and states -/

/-- A relation between the calls of a thread and the shared state holds after every run, if in the
states satisfying an invariant each call establishes it for the thread that makes it and keeps it
for the others. -/
theorem traces_exec_of_invariant {I : σ → Prop} {R : List (Event S ε) → σ → Prop}
    (hI : ∀ c op s, I s → I (answer c op s).2) (hnil : ∀ s, I s → R [] s)
    (hown : ∀ c op t s, I s → R t s → R (t ++ [⟨op, (answer c op s).1⟩]) (answer c op s).2)
    (hother : ∀ c op t s, I s → R t s → R t (answer c op s).2) {P : Pool S ε α ρ σ}
    (hP : I P.state ∧ ∀ th ∈ P.threads, R th.trace P.state) (moves : List (Move ρ χ)) :
    I (P.exec launch answer moves).state ∧ ∀ th ∈ (P.exec launch answer moves).threads,
      R th.trace (P.exec launch answer moves).state := by
  refine exec_induction (motive := fun P => I P.state ∧ ∀ th ∈ P.threads, R th.trace P.state)
    (fun P m hP => ?_) hP moves
  obtain ⟨hstate, hP⟩ := hP
  rcases P.move_cases launch answer m with
    ⟨request, rfl⟩ | hsame | ⟨i, choice, request, op, next, trace, -, hi, hcall⟩
  · refine ⟨hstate, fun th hth => ?_⟩
    rcases List.mem_append.mp hth with hth | hth
    · exact hP th hth
    · rw [List.mem_singleton.mp hth]
      exact hnil _ hstate
  · rw [hsame]
    exact ⟨hstate, hP⟩
  · rw [hcall]
    refine ⟨hI choice op _ hstate, fun th hth => ?_⟩
    rcases List.mem_or_eq_of_mem_set hth with hth | rfl
    · exact hother choice op _ _ hstate (hP th hth)
    · exact hown choice op _ _ hstate (hP _ (List.mem_of_getElem? hi))

/-- A relation between the calls of a thread and the shared state holds after every run, if each
call establishes it for the thread that makes it and keeps it for the others. -/
theorem traces_exec {R : List (Event S ε) → σ → Prop} (hnil : ∀ s, R [] s)
    (hown : ∀ c op t s, R t s → R (t ++ [⟨op, (answer c op s).1⟩]) (answer c op s).2)
    (hother : ∀ c op t s, R t s → R t (answer c op s).2) {P : Pool S ε α ρ σ}
    (hP : ∀ th ∈ P.threads, R th.trace P.state) (moves : List (Move ρ χ)) :
    ∀ th ∈ (P.exec launch answer moves).threads,
      R th.trace (P.exec launch answer moves).state :=
  (traces_exec_of_invariant (I := fun _ => True) (fun _ _ _ _ => trivial) (fun s _ => hnil s)
    (fun c op t s _ => hown c op t s) (fun c op t s _ => hother c op t s) ⟨trivial, hP⟩ moves).2

/-- The invariant rule for a property of the state that a call keeps in the states its thread's
earlier calls are related to. -/
theorem state_exec_of_sound {I H : σ → Prop} {A : (op : S.Op) → Except ε (S.Res op) → Prop}
    {G : ρ → List (Event S ε) → S.Op → Prop} {Q : ρ → List (Event S ε) → Except ε α → Prop}
    {R : List (Event S ε) → σ → Prop} {P : Pool S ε α ρ σ}
    (hsound : ∀ moves : List (Move ρ χ), (P.exec launch answer moves).Sound I A G Q)
    (hR : ∀ moves : List (Move ρ χ), ∀ th ∈ (P.exec launch answer moves).threads,
      R th.trace (P.exec launch answer moves).state)
    (hstep : ∀ c r t op s, H s → R t s → G r t op → H (answer c op s).2) (hP : H P.state)
    (moves : List (Move ρ χ)) : H (P.exec launch answer moves).state := by
  induction moves using List.reverseRecOn with
  | nil => exact hP
  | append_singleton moves m ih =>
    rw [exec_concat]
    rcases (P.exec launch answer moves).move_cases launch answer m with
      ⟨request, rfl⟩ | hsame | ⟨i, choice, request, op, next, trace, -, hi, hcall⟩
    · exact ih
    · rwa [hsame]
    · have hth := List.mem_of_getElem? hi
      rw [hcall]
      exact hstep choice request trace op _ ih (hR moves _ hth) ((hsound moves).threads _ hth).1

/-- If all moves of a run are made under a condition `J` on the choices, all its calls are answered
as `J` promises. -/
theorem answered_exec {J : χ → Prop} {A : (op : S.Op) → Except ε (S.Res op) → Prop}
    (hA : ∀ c op s, J c → A op (answer c op s).1) {P : Pool S ε α ρ σ}
    (hP : ∀ th ∈ P.threads, ∀ c ∈ th.trace, A c.1 c.2) {moves : List (Move ρ χ)}
    (hJ : ∀ i c, .step i c ∈ moves → J c) :
    ∀ th ∈ (P.exec launch answer moves).threads, ∀ c ∈ th.trace, A c.1 c.2 := by
  induction moves generalizing P with
  | nil => exact hP
  | cons m moves ih =>
    refine ih ?_ fun i c hmem => hJ i c (List.mem_cons_of_mem m hmem)
    rcases P.move_cases launch answer m with
      ⟨request, rfl⟩ | hsame | ⟨i, choice, request, op, next, trace, rfl, hi, hcall⟩
    · intro th hth
      rcases List.mem_append.mp hth with hth | hth
      · exact hP th hth
      · rw [List.mem_singleton.mp hth]
        exact fun _ h => absurd h List.not_mem_nil
    · rwa [hsame]
    · rw [hcall]
      intro th hth
      rcases List.mem_or_eq_of_mem_set hth with hth | rfl
      · exact hP th hth
      · intro c hc
        rcases List.mem_append.mp hc with hc | hc
        · exact hP _ (List.mem_of_getElem? hi) c hc
        · rw [List.mem_singleton.mp hc]
          exact hA choice op P.state (hJ i choice List.mem_cons_self)

/-- Some thread has made a call that explains the item. -/
def Explained {ι : Type} (E : Event S ε → ι → Prop) (P : Pool S ε α ρ σ) (i : ι) : Prop :=
  ∃ th ∈ P.threads, ∃ c ∈ th.trace, E c i

/-- What is explained stays explained: threads are kept, and their traces grow. -/
theorem Explained.move {ι : Type} {E : Event S ε → ι → Prop} {P : Pool S ε α ρ σ} {i : ι}
    (h : P.Explained E i) (m : Move ρ χ) : (P.move launch answer m).Explained E i := by
  obtain ⟨th, hth, c, hc, hE⟩ := h
  rcases P.move_cases launch answer m with
    ⟨request, rfl⟩ | hsame | ⟨i, choice, request, op, next, trace, -, hi, hcall⟩
  · exact ⟨th, List.mem_append_left _ hth, c, hc, hE⟩
  · rw [hsame]
    exact ⟨th, hth, c, hc, hE⟩
  · rw [hcall]
    obtain ⟨hlength, -⟩ := List.getElem?_eq_some_iff.mp hi
    obtain ⟨k, hk⟩ := List.mem_iff_getElem?.mp hth
    by_cases hik : i = k
    · -- the thread that makes the call keeps its earlier calls
      subst hik
      obtain rfl := Option.some.inj (hi.symm.trans hk)
      exact ⟨_, List.mem_set hlength _, c, List.mem_append_left _ hc, hE⟩
    · refine ⟨th, List.mem_iff_getElem?.mpr ⟨k, ?_⟩, c, hc, hE⟩
      rw [List.getElem?_set_ne hik]
      exact hk

/-- If every call explains what it adds to the state, all that the state holds after a run is
explained. -/
theorem explained_exec {ι : Type} {H : σ → ι → Prop} {E : Event S ε → ι → Prop}
    (hstep : ∀ c op s i, H (answer c op s).2 i → H s i ∨ E ⟨op, (answer c op s).1⟩ i)
    {P : Pool S ε α ρ σ} (hP : ∀ i, H P.state i → P.Explained E i) (moves : List (Move ρ χ)) :
    ∀ i, H (P.exec launch answer moves).state i →
      (P.exec launch answer moves).Explained E i := by
  refine exec_induction (motive := fun P => ∀ i, H P.state i → P.Explained E i)
    (fun P m hP i hi => ?_) hP moves
  have hold : H P.state i → (P.move launch answer m).Explained E i := fun h => (hP i h).move m
  rcases P.move_cases launch answer m with
    ⟨request, rfl⟩ | hsame | ⟨j, choice, request, op, next, trace, -, hj, hcall⟩
  · exact hold hi
  · rw [hsame] at hi
    exact hold hi
  · obtain ⟨hlength, -⟩ := List.getElem?_eq_some_iff.mp hj
    rw [hcall] at hi hold ⊢
    rcases hstep choice op P.state i hi with hi | hi
    · exact hold hi
    · exact ⟨_, List.mem_set hlength _, _, List.mem_append_right _ List.mem_cons_self, hi⟩

/-! ### One thread alone -/

/-- The moves that let one thread go on, `n` calls far. -/
def soloMoves (i : ℕ) (choices : ℕ → χ) (n : ℕ) : List (Move ρ χ) :=
  (List.range n).map fun k => .step i (choices k)

variable (launch answer) in
/-- A thread that goes on alone comes to its end, as its program does when it runs alone. -/
theorem exec_soloMoves (program : Program S ε α) {P : Pool S ε α ρ σ} {i : ℕ} {request : ρ}
    {trace : List (Event S ε)} (hi : P.threads[i]? = some ⟨request, program, trace⟩)
    (choices : ℕ → χ) :
    ∃ n, P.exec launch answer (soloMoves i choices n) =
      { state := (program.run (Program.each answer) (P.state, choices)).2.1
        threads := P.threads.set i ⟨request,
          .ofExcept (program.run (Program.each answer) (P.state, choices)).1,
          trace ++ program.trace (Program.each answer) (P.state, choices)⟩ } := by
  induction program generalizing P trace choices with
  | ret a => exact ⟨0, by simp [soloMoves, Program.ofExcept, set_self hi]⟩
  | raise e => exact ⟨0, by simp [soloMoves, Program.ofExcept, set_self hi]⟩
  | call op next ih =>
    obtain ⟨hlength, -⟩ := List.getElem?_eq_some_iff.mp hi
    have hmove := move_call launch answer hi (choices 0)
    have hnext : (P.move launch answer (.step i (choices 0))).threads[i]? = some ⟨request,
        next (answer (choices 0) op P.state).1,
        trace ++ [⟨op, (answer (choices 0) op P.state).1⟩]⟩ := by
      rw [hmove]
      exact List.getElem?_set_self hlength
    obtain ⟨n, hn⟩ := ih (answer (choices 0) op P.state).1 hnext fun k => choices (k + 1)
    refine ⟨n + 1, ?_⟩
    have hmoves : (soloMoves i choices (n + 1) : List (Move ρ χ)) =
        .step i (choices 0) :: soloMoves i (fun k => choices (k + 1)) n := by
      rw [soloMoves, List.range_succ_eq_map, List.map_cons, List.map_map]
      rfl
    rw [hmoves, exec_cons, hn, hmove]
    simp only [List.set_set, Program.run_call, Program.trace_call, Program.each, List.append_assoc,
      List.singleton_append]
end Pool

end ZubotIngestion.Effects
