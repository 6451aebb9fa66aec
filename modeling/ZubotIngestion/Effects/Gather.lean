import Mathlib.Data.List.Forall2
import ZubotIngestion.Effects.Trace

/-!
# Gathered programs

`gather` runs one program for each of some requests, concurrently on a shared state: every step
lets one of them make its next call. When all have ended, each has run by itself, with the answers
that the steps gave it.

## Main definitions

* `Pool.gather`.

## Main results

* `Pool.gather_outcomes`: what holds of every run of each program holds of the gathered outcomes.
-/

namespace ZubotIngestion.Effects.Pool

variable {S : Signature} {ε α ρ σ χ : Type} {launch : ρ → Program S ε α}
  {answer : χ → (op : S.Op) → σ → Except ε (S.Res op) × σ}

/-- The programs of the requests on a shared state, after some steps. -/
def gather (launch : ρ → Program S ε α) (answer : χ → (op : S.Op) → σ → Except ε (S.Res op) × σ)
    (requests : List ρ) (s : σ) (steps : List (ℕ × χ)) : Pool S ε α ρ σ :=
  (⟨s, requests.map fun request => ⟨request, launch request, []⟩⟩ : Pool S ε α ρ σ).exec launch
    answer (steps.map fun step => .step step.1 step.2)

variable (launch answer) in
/-- No step starts or replaces a thread. -/
theorem requests_gather (requests : List ρ) (s : σ) (steps : List (ℕ × χ)) :
    (gather launch answer requests s steps).threads.map Thread.request = requests := by
  have hsteps (P : Pool S ε α ρ σ) (i : ℕ) (choice : χ) :
      (P.move launch answer (.step i choice)).threads.map Thread.request =
        P.threads.map Thread.request := by
    rcases P.move_cases launch answer (.step i choice) with
      ⟨_, hm⟩ | hsame | ⟨j, choice', request, op, next, trace, -, hj, hcall⟩
    · cases hm
    · rw [hsame]
    · have hset := congrArg (List.map Thread.request) (set_self hj)
      rw [List.map_set] at hset
      rw [hcall, List.map_set]
      exact hset
  have hexec (P : Pool S ε α ρ σ) :
      (P.exec launch answer (steps.map fun step => .step step.1 step.2)).threads.map
        Thread.request = P.threads.map Thread.request := by
    induction steps generalizing P with
    | nil => rfl
    | cons step steps ih => rw [List.map_cons, exec_cons, ih, hsteps]
  rw [gather, hexec, List.map_map]
  exact List.map_id requests

/-- When all programs have ended, what holds of the runs of each holds of what it has ended with. -/
theorem gather_outcomes {A : (op : S.Op) → Except ε (S.Res op) → Prop}
    {Q : ρ → List (Event S ε) → Except ε α → Prop} (hA : ∀ c op s, A op (answer c op s).1)
    {requests : List ρ} (hruns : ∀ request ∈ requests, ∀ t o, (launch request).Runs t o →
      (∀ c ∈ t, A c.1 c.2) → Q request t o) {s : σ} {steps : List (ℕ × χ)}
    (hended : ∀ th ∈ (gather launch answer requests s steps).threads, th.outcome? ≠ none) :
    List.Forall₂ (fun request (th : Thread S ε α ρ) =>
      ∃ o, th.outcome? = some o ∧ Q request th.trace o) requests
        (gather launch answer requests s steps).threads := by
  have hthread : ∀ th ∈ (gather launch answer requests s steps).threads,
      ∃ o, th.outcome? = some o ∧ Q th.request th.trace o := by
    intro th hth
    obtain ⟨o, ho⟩ := Option.ne_none_iff_exists'.mp (hended th hth)
    have hrequest : th.request ∈ requests := by
      have hmem := List.mem_map_of_mem (f := Thread.request) hth
      rwa [requests_gather] at hmem
    refine ⟨o, ho, hruns _ hrequest _ o (runs_exec (fun th' hth' => ?_) _ hth ho)
      (answered_exec (J := fun _ => True) (fun c op s _ => hA c op s) (fun th' hth' => ?_)
        (fun _ _ _ => trivial) th hth)⟩
    · obtain ⟨request, -, rfl⟩ := List.mem_map.mp hth'
      exact .start
    · obtain ⟨request, -, rfl⟩ := List.mem_map.mp hth'
      exact fun _ hc => absurd hc List.not_mem_nil
  have hmap : List.Forall₂ (fun request (th : Thread S ε α ρ) =>
      ∃ o, th.outcome? = some o ∧ Q request th.trace o)
        ((gather launch answer requests s steps).threads.map Thread.request)
          (gather launch answer requests s steps).threads :=
    List.forall₂_map_left_iff.mpr (List.forall₂_same.mpr hthread)
  rwa [requests_gather] at hmap

end ZubotIngestion.Effects.Pool
