import ZubotIngestion.Effects.Trace

/-!
# Programs whose outcome does not depend on their answers

Some calls may be answered in several ways that a program does not tell apart: a cache answers
where the source itself would, or a failure is remembered in another form. A program is determined
if every run with allowed answers has the outcome of the run in which each call gets its reference
answer. Determined programs that share a state can be interleaved in any way: each of them ends
as it would alone.

## Main definitions

* `Program.alone`: the outcome under the reference answers.
* `Program.Determined`.

## Main results

* `Program.Determined.bind`, `Program.Determined.attempt_bind`: the rules for programs.
* `Pool.outcome_of_determined`: every thread that has ended has the outcome of its program alone.
* `Pool.exists_ended`: every run can be continued until all threads have ended.
-/

namespace ZubotIngestion.Effects

variable {S : Signature} {ε α β ρ σ χ : Type}

namespace Program

/-- The outcome of the program if each call gets its reference answer. -/
def alone (ref : (op : S.Op) → Except ε (S.Res op)) : Program S ε α → Except ε α
  | ret a => .ok a
  | raise e => .error e
  | call op next => alone ref (next (ref op))

variable {ref : (op : S.Op) → Except ε (S.Res op)}

@[simp] theorem alone_ret (a : α) : alone ref (ret a : Program S ε α) = .ok a := rfl

@[simp] theorem alone_raise (e : ε) : alone ref (raise e : Program S ε α) = .error e := rfl

@[simp] theorem alone_perform (op : S.Op) : alone ref (perform op : Program S ε _) = ref op := by
  rw [perform, alone]
  cases ref op <;> rfl

@[simp] theorem alone_ofExcept (r : Except ε α) : alone ref (ofExcept r : Program S ε α) = r := by
  cases r <;> rfl

@[simp] theorem alone_bind (p : Program S ε α) (f : α → Program S ε β) :
    alone ref (p >>= f) = alone ref p >>= fun a => alone ref (f a) := by
  induction p with
  | ret a => rfl
  | raise e => rfl
  | call op next ih => exact ih (ref op)

@[simp] theorem alone_attempt (p : Program S ε α) :
    alone ref p.attempt = .ok (alone ref p) := by
  induction p with
  | ret a => rfl
  | raise e => rfl
  | call op next ih => exact ih (ref op)

@[simp] theorem alone_map (p : Program S ε α) (f : α → β) :
    alone ref (f <$> p) = (alone ref p).map f := by
  rw [map_eq_pure_bind, alone_bind]
  cases alone ref p <;> rfl

/-- Every run with answers allowed by `A` makes calls permitted by `G` only, and ends as it would
with the reference answers. -/
def Determined (ref : (op : S.Op) → Except ε (S.Res op))
    (A : (op : S.Op) → Except ε (S.Res op) → Prop) (G : S.Op → Prop) (p : Program S ε α) : Prop :=
  ∀ t : List (Event S ε), p.Safe A (fun _ => G) (fun _ r => r = alone ref p) t

variable {A : (op : S.Op) → Except ε (S.Res op) → Prop} {G : S.Op → Prop}

theorem determined_ret (a : α) : (ret a : Program S ε α).Determined ref A G := fun _ => rfl

theorem determined_ofExcept (r : Except ε α) :
    (ofExcept r : Program S ε α).Determined ref A G := fun t =>
  (safe_ofExcept r t).mpr (alone_ofExcept r).symm

/-- A call with one allowed answer. -/
theorem determined_perform {op : S.Op} (hop : G op) (h : ∀ r, A op r → r = ref op) :
    (perform op : Program S ε _).Determined ref A G := fun t =>
  (safe_perform op t).mpr ⟨hop, fun r hr => (h r hr).trans (alone_perform op).symm⟩

/-- A sequence of determined programs. -/
theorem Determined.bind {p : Program S ε α} {f : α → Program S ε β}
    (hp : p.Determined ref A G) (hf : ∀ a, (f a).Determined ref A G) :
    (p >>= f).Determined ref A G := by
  intro t
  rw [alone_bind]
  refine (hp t).bind (fun t' a ha => ?_) fun t' e he => ?_
  · rw [← ha]
    exact hf a t'
  · rw [← he]
    rfl

/-- The outcome of a determined program, taken as a value. -/
theorem Determined.attempt {p : Program S ε α} (hp : p.Determined ref A G) :
    p.attempt.Determined ref A G := by
  intro t
  rw [alone_attempt]
  exact (safe_attempt p t).mpr ((hp t).mono (fun _ _ h => h) (fun _ _ h => h)
    fun _ _ h => congrArg Except.ok h)

/-- A wrapped value. -/
theorem Determined.map {p : Program S ε α} (hp : p.Determined ref A G) (f : α → β) :
    (f <$> p).Determined ref A G := by
  rw [map_eq_pure_bind]
  exact hp.bind fun a => determined_ret (f a)

/-- A call with one allowed answer whose exception is caught. -/
theorem Determined.attempt_bind {op : S.Op} {f : Except ε (S.Res op) → Program S ε β} (hop : G op)
    (h : ∀ r, A op r → r = ref op) (hf : ∀ r, (f r).Determined ref A G) :
    ((perform op).attempt >>= f).Determined ref A G :=
  (determined_perform hop h).attempt.bind hf

end Program

namespace Pool

variable {launch : ρ → Program S ε α} {answer : χ → (op : S.Op) → σ → Except ε (S.Res op) × σ}

/-- Determined programs that share a state end as they would alone, however they are interleaved,
and keep every invariant of the state under which the answers are allowed. -/
theorem outcome_of_determined {ref : (op : S.Op) → Except ε (S.Res op)}
    {A : (op : S.Op) → Except ε (S.Res op) → Prop} {G : S.Op → Prop} {I : σ → Prop}
    (hA : ∀ c op s, I s → A op (answer c op s).1)
    (hG : ∀ c op s, I s → G op → I (answer c op s).2)
    (hlaunch : ∀ r, (launch r).Determined ref A G) {s : σ} (hs : I s) (requests : List ρ)
    (moves : List (Move ρ χ)) :
    I ((⟨s, requests.map fun r => ⟨r, launch r, []⟩⟩ : Pool S ε α ρ σ).exec launch answer
        moves).state ∧
      ∀ th ∈ ((⟨s, requests.map fun r => ⟨r, launch r, []⟩⟩ : Pool S ε α ρ σ).exec launch answer
        moves).threads, ∀ o, th.outcome? = some o → o = (launch th.request).alone ref := by
  have hstart : Sound I A (fun _ _ => G) (fun r _ o => o = (launch r).alone ref)
      (⟨s, requests.map fun r => ⟨r, launch r, []⟩⟩ : Pool S ε α ρ σ) := by
    refine ⟨hs, fun th hth => ?_, fun th hth => ?_⟩ <;>
      obtain ⟨r, -, rfl⟩ := List.mem_map.mp hth
    · exact hlaunch r []
    · exact Program.Kept.nil
  have hsound := hstart.exec hA (fun c _ _ op s hs hop => hG c op s hs hop)
    (fun r => hlaunch r []) moves
  exact ⟨hsound.state, fun th hth o ho => hsound.outcome hth ho⟩

/-! ### Runs to the end -/

/-- Steps start no thread. -/
theorem requests_exec (choice : χ) (P : Pool S ε α ρ σ) (steps : List ℕ) :
    (P.exec launch answer (steps.map fun i => .step i choice)).threads.map Thread.request =
      P.threads.map Thread.request := by
  induction steps generalizing P with
  | nil => rfl
  | cons i steps ih =>
    rw [List.map_cons, exec_cons, ih]
    rcases P.move_cases launch answer (.step i choice) with
      ⟨_, hm⟩ | hsame | ⟨j, choice, request, op, next, trace, -, hj, hcall⟩
    · cases hm
    · rw [hsame]
    · rw [hcall]
      calc (P.threads.set j ⟨request, next (answer choice op P.state).1,
              trace ++ [⟨op, (answer choice op P.state).1⟩]⟩).map Thread.request
          = (P.threads.set j ⟨request, .call op next, trace⟩).map Thread.request := by
            rw [List.map_set, List.map_set]
        _ = P.threads.map Thread.request := by rw [set_self hj]

theorem length_exec (choice : χ) (P : Pool S ε α ρ σ) (steps : List ℕ) :
    (P.exec launch answer (steps.map fun i => .step i choice)).threads.length =
      P.threads.length := by
  have hrequests : (P.exec launch answer (steps.map fun i => .step i choice)).threads.map
      Thread.request = P.threads.map Thread.request := requests_exec choice P steps
  simpa using congrArg List.length hrequests

/-- A thread that is stepped often enough ends, and the other threads stay as they are. -/
theorem exists_outcome (choice : χ) {P : Pool S ε α ρ σ} {i : ℕ} {th : Thread S ε α ρ}
    (hi : P.threads[i]? = some th) : ∃ n, ∃ th' : Thread S ε α ρ,
      (P.exec launch answer (List.replicate n (.step i choice))).threads =
        P.threads.set i th' ∧ th'.outcome? ≠ none := by
  obtain ⟨request, program, trace⟩ := th
  induction program generalizing P trace with
  | ret a => exact ⟨0, _, (set_self hi).symm, Option.some_ne_none _⟩
  | raise e => exact ⟨0, _, (set_self hi).symm, Option.some_ne_none _⟩
  | call op next ih =>
    have hmove := move_call launch answer hi choice
    have hi' : (P.move launch answer (.step i choice)).threads[i]? = some
        ⟨request, next (answer choice op P.state).1,
          trace ++ [⟨op, (answer choice op P.state).1⟩]⟩ := by
      rw [hmove]
      exact List.getElem?_set_self (List.getElem?_eq_some_iff.mp hi).1
    obtain ⟨n, th', hthreads, hended⟩ := ih _ _ hi'
    refine ⟨n + 1, th', ?_, hended⟩
    rw [List.replicate_succ, exec_cons, hthreads, hmove]
    exact List.set_set _

/-- Every run can be continued until all threads have ended. -/
theorem exists_ended (choice : χ) (P : Pool S ε α ρ σ) : ∃ steps : List ℕ,
    ∀ th ∈ (P.exec launch answer (steps.map fun i => .step i choice)).threads,
      th.outcome? ≠ none := by
  suffices hupto : ∀ k ≤ P.threads.length, ∃ steps : List ℕ, ∀ j < k, ∀ th,
      (P.exec launch answer (steps.map fun i => .step i choice)).threads[j]? = some th →
        th.outcome? ≠ none by
    obtain ⟨steps, hended⟩ := hupto P.threads.length (Nat.le_refl _)
    refine ⟨steps, fun th hth => ?_⟩
    obtain ⟨j, hj⟩ := List.mem_iff_getElem?.mp hth
    refine hended j ?_ th hj
    rw [← length_exec choice P steps]
    exact (List.getElem?_eq_some_iff.mp hj).1
  intro k
  induction k with
  | zero => exact fun _ => ⟨[], fun j hj => absurd hj (Nat.not_lt_zero j)⟩
  | succ k ih =>
    intro hk
    obtain ⟨steps, hended⟩ := ih (Nat.le_of_succ_le hk)
    obtain ⟨th, hth⟩ : ∃ th, (P.exec launch answer
        (steps.map fun i => .step i choice)).threads[k]? = some th :=
      ⟨_, List.getElem?_eq_getElem ((length_exec choice P steps).symm ▸ hk)⟩
    obtain ⟨n, th', hthreads, hended'⟩ : ∃ n, ∃ th' : Thread S ε α ρ,
        ((P.exec launch answer (steps.map fun i => .step i choice)).exec launch answer
          (List.replicate n (.step k choice))).threads =
            (P.exec launch answer (steps.map fun i => .step i choice)).threads.set k th' ∧
          th'.outcome? ≠ none :=
      exists_outcome choice hth
    refine ⟨steps ++ List.replicate n k, fun j hj th'' hth'' => ?_⟩
    rw [List.map_append, List.map_replicate, exec_append, hthreads] at hth''
    by_cases hjk : j = k
    · subst hjk
      rw [List.getElem?_set_self (List.getElem?_eq_some_iff.mp hth).1] at hth''
      obtain rfl := Option.some.inj hth''
      exact hended'
    · rw [List.getElem?_set_ne (Ne.symm hjk)] at hth''
      exact hended j (Nat.lt_of_le_of_ne (Nat.le_of_lt_succ hj) hjk) th'' hth''

end Pool

end ZubotIngestion.Effects
