import Mathlib.Data.List.Flatten
import Mathlib.Data.Nat.Find
import ZubotIngestion.Effects.Program

/-!
# Attempts with a pause between them

`retry attempt pause n` makes up to `n` attempts. An attempt that is not final is followed by a
pause and the next attempt, unless it was the last one allowed. Both may raise, which ends the
loop. Seen against the outcomes of all attempts that could be made, the loop has one of four
endings; how often it attempts follows from where the first attempt stands that does not pass.

## Main definitions

* `IsFirst`, `IsAttemptCount`: the first final outcome, and how many attempts it allows.
* `Verdict`, `Program.retry`.
* `RetryRuns`: what the attempts and the pauses do in an environment.
* `RetryRuns.Ends`: the four endings.

## Main results

* `RetryRuns.exists_ends`: every run of the loop has one of them.
-/

namespace ZubotIngestion.Effects

/-- What an attempt says: it is final, or another one may follow. -/
inductive Verdict (ρ ω : Type) : Type where
  | final (result : ρ)
  | again (reason : ω)

/-! ### Positions -/

/-- The position of the first outcome that is final. -/
def IsFirst (final : ℕ → Prop) (i : ℕ) : Prop := final i ∧ ∀ j < i, ¬ final j

/-- `m` is how many attempts are made if at most `n` are allowed and none follows a final one. -/
structure IsAttemptCount (n : ℕ) (final : ℕ → Prop) (m : ℕ) : Prop where
  first : ∀ i, IsFirst final i → m = min n (i + 1)
  none : (∀ i, ¬ final i) → m = n

theorem IsFirst.unique {final : ℕ → Prop} {i j : ℕ} (hi : IsFirst final i)
    (hj : IsFirst final j) : i = j := by
  rcases lt_trichotomy i j with h | h | h
  · exact absurd hi.1 (hj.2 i h)
  · exact h
  · exact absurd hj.1 (hi.2 j h)

/-- As many attempts as are allowed, or as it takes until the first final one. -/
theorem isAttemptCount_succ {n m : ℕ} {final : ℕ → Prop} (hm : m < n)
    (hbefore : ∀ k < m, ¬ final k) (h : final m ∨ m + 1 = n) :
    IsAttemptCount n final (m + 1) where
  first i hi := by
    rcases lt_or_ge i m with him | hmi
    · exact absurd hi.1 (hbefore i him)
    · rcases h with hfinal | hlast
      · obtain rfl := hi.unique ⟨hfinal, hbefore⟩
        omega
      · omega
  none hnone := h.resolve_left (hnone m)

/-- A loop that breaks off between two attempts has made too few. -/
theorem not_isAttemptCount_succ {n m : ℕ} {final : ℕ → Prop} (hm : m + 1 < n)
    (hbefore : ∀ k ≤ m, ¬ final k) : ¬ IsAttemptCount n final (m + 1) := by
  classical
  intro h
  by_cases hsome : ∃ i, final i
  · have hfirst : IsFirst final (Nat.find hsome) :=
      ⟨Nat.find_spec hsome, fun j hj => Nat.find_min hsome hj⟩
    have hcount := h.first _ hfirst
    have hlater : ¬ Nat.find hsome ≤ m := fun hle => hbefore _ hle hfirst.1
    omega
  · have hcount := h.none (not_exists.mp hsome)
    omega

/-- Rounds of which each has `c` calls of a kind. -/
theorem countP_flatMap_range {α : Type} {p : α → Bool} {f : ℕ → List α} {n c : ℕ}
    (h : ∀ k < n, (f k).countP p = c) : ((List.range n).flatMap f).countP p = n * c := by
  induction n with
  | zero => rw [List.range_zero, List.flatMap_nil, List.countP_nil, Nat.zero_mul]
  | succ n ih =>
    rw [List.range_succ, List.flatMap_append, List.flatMap_singleton, List.countP_append,
      ih fun k hk => h k (Nat.lt_succ_of_lt hk), h n n.lt_succ_self, Nat.succ_mul]

/-! ### The loop -/

variable {S : Signature} {ε ρ ω σ : Type}

/-- The loop, with `n` attempts left from the one numbered `k` on. Without a final attempt it
returns the reason of its last attempt, if it made any. -/
def Program.retry (attempt : Program S ε (Verdict ρ ω)) (pause : ℕ → Program S ε Unit) :
    ℕ → ℕ → Program S ε (Verdict ρ (Option ω))
  | 0, _ => .ret (.again none)
  | n + 1, k => attempt >>= fun
    | .final result => .ret (.final result)
    | .again reason =>
      if n = 0 then .ret (.again (some reason))
      else pause k >>= fun _ => Program.retry attempt pause n (k + 1)

/-- What the attempts and the pauses of a loop do in an environment: `state k` is the state before
the attempt numbered `k`, and a pause does not change it. -/
structure RetryRuns (attempt : Program S ε (Verdict ρ ω)) (pause : ℕ → Program S ε Unit)
    (answer : (op : S.Op) → σ → Except ε (S.Res op) × σ) where
  state : ℕ → σ
  outcome : ℕ → Except ε (Verdict ρ ω)
  paused : ℕ → Except ε Unit
  run_attempt : ∀ k, attempt.run answer (state k) = (outcome k, state (k + 1))
  run_pause : ∀ k, (pause k).run answer (state (k + 1)) = (paused k, state (k + 1))

namespace RetryRuns

variable {attempt : Program S ε (Verdict ρ ω)} {pause : ℕ → Program S ε Unit}
  {answer : (op : S.Op) → σ → Except ε (S.Res op) × σ} (R : RetryRuns attempt pause answer)

/-- The calls of an attempt. -/
def attemptCalls (k : ℕ) : List (Event S ε) := attempt.trace answer (R.state k)

/-- The calls of a pause. -/
def pauseCalls (k : ℕ) : List (Event S ε) := (pause k).trace answer (R.state (k + 1))

/-- An attempt and the pause behind it leave the loop where it was. -/
def Passes (k : ℕ) : Prop := (∃ reason, R.outcome k = .ok (.again reason)) ∧ R.paused k = .ok ()

/-- The calls of the first `m` attempts and the pauses behind them. -/
def rounds (m : ℕ) : List (Event S ε) :=
  (List.range m).flatMap fun k => R.attemptCalls k ++ R.pauseCalls k

/-- The ways in which the loop can end at the attempt numbered `m`, of `n` in all: with an outcome,
and with calls that come after those of the attempt. -/
inductive Ends (n m : ℕ) : Except ε (Verdict ρ (Option ω)) → List (Event S ε) → Prop
  /-- The attempt is final. -/
  | stopped (result : ρ) (h : R.outcome m = .ok (.final result)) : Ends n m (.ok (.final result)) []
  /-- The attempt raises. -/
  | raised (e : ε) (h : R.outcome m = .error e) : Ends n m (.error e) []
  /-- The attempt is the last one. -/
  | exhausted (reason : ω) (h : R.outcome m = .ok (.again reason)) (hlast : m + 1 = n) :
      Ends n m (.ok (.again (some reason))) []
  /-- The pause behind the attempt raises. -/
  | broke (reason : ω) (e : ε) (h : R.outcome m = .ok (.again reason)) (hmore : m + 1 < n)
      (hpause : R.paused m = .error e) : Ends n m (.error e) (R.pauseCalls m)

variable {R}

theorem rounds_succ (m : ℕ) :
    R.rounds (m + 1) = R.rounds m ++ (R.attemptCalls m ++ R.pauseCalls m) := by
  rw [rounds, List.range_succ, List.flatMap_append, List.flatMap_singleton, rounds]

/-- One round that passes. -/
theorem run_retry_of_passes {k : ℕ} (h : R.Passes k) (n : ℕ) :
    (Program.retry attempt pause (n + 2) k).run answer (R.state k) =
      (Program.retry attempt pause (n + 1) (k + 1)).run answer (R.state (k + 1)) := by
  obtain ⟨⟨reason, hagain⟩, hpaused⟩ := h
  rw [Program.retry, Program.run_bind, R.run_attempt, hagain]
  dsimp only
  rw [if_neg n.succ_ne_zero, Program.run_bind, R.run_pause, hpaused]

theorem trace_retry_of_passes {k : ℕ} (h : R.Passes k) (n : ℕ) :
    (Program.retry attempt pause (n + 2) k).trace answer (R.state k) =
      R.attemptCalls k ++ R.pauseCalls k ++
        (Program.retry attempt pause (n + 1) (k + 1)).trace answer (R.state (k + 1)) := by
  obtain ⟨⟨reason, hagain⟩, hpaused⟩ := h
  rw [Program.retry, Program.trace_bind, R.run_attempt, hagain]
  dsimp only
  rw [if_neg n.succ_ne_zero, Program.trace_bind, R.run_pause, hpaused, List.append_assoc]
  rfl

/-- The rounds before the attempt numbered `m` pass, and then the loop goes on from there. -/
theorem retry_of_passes {m : ℕ} (h : ∀ k < m, R.Passes k) (n : ℕ) :
    (Program.retry attempt pause (m + n + 1) 0).run answer (R.state 0) =
        (Program.retry attempt pause (n + 1) m).run answer (R.state m) ∧
      (Program.retry attempt pause (m + n + 1) 0).trace answer (R.state 0) =
        R.rounds m ++ (Program.retry attempt pause (n + 1) m).trace answer (R.state m) := by
  induction m generalizing n with
  | zero =>
    rw [Nat.zero_add]
    exact ⟨rfl, rfl⟩
  | succ m ih =>
    obtain ⟨hrun, htrace⟩ := ih (fun k hk => h k (Nat.lt_succ_of_lt hk)) (n + 1)
    have hlength : m + 1 + n + 1 = m + (n + 1) + 1 := by omega
    have hpasses := h m m.lt_succ_self
    rw [hlength, hrun, htrace, run_retry_of_passes hpasses, trace_retry_of_passes hpasses,
      rounds_succ, List.append_assoc (R.rounds m)]
    exact ⟨rfl, rfl⟩

/-- What the loop does from an attempt on that does not pass or is the last one. -/
theorem exists_ends_at {m n : ℕ} (h : n = 0 ∨ ¬ R.Passes m) : ∃ r t, R.Ends (m + n + 1) m r t ∧
    (Program.retry attempt pause (n + 1) m).run answer (R.state m) = (r, R.state (m + 1)) ∧
    (Program.retry attempt pause (n + 1) m).trace answer (R.state m) = R.attemptCalls m ++ t := by
  rw [Program.retry, Program.run_bind, Program.trace_bind, R.run_attempt]
  rcases houtcome : R.outcome m with e | result | reason
  · exact ⟨_, _, .raised e houtcome, rfl, rfl⟩
  · exact ⟨_, _, .stopped result houtcome, rfl, rfl⟩
  · rcases n with _ | n
    · exact ⟨_, _, .exhausted reason houtcome rfl, rfl, rfl⟩
    · have hpasses := h.resolve_left n.succ_ne_zero
      rcases hpaused : R.paused m with e | ⟨⟩
      · refine ⟨_, _, .broke reason e houtcome (by omega) hpaused, ?_, ?_⟩
        · dsimp only
          rw [if_neg n.succ_ne_zero, Program.run_bind, R.run_pause, hpaused]
        · dsimp only
          rw [if_neg n.succ_ne_zero, Program.trace_bind, R.run_pause, hpaused, List.append_nil]
          rfl
      · exact absurd ⟨⟨reason, houtcome⟩, hpaused⟩ hpasses

/-- Every run of the loop ends at some attempt, and all attempts before it pass. -/
theorem exists_ends (R : RetryRuns attempt pause answer) {n : ℕ} (hn : 0 < n) :
    ∃ m r t, m < n ∧ (∀ k < m, R.Passes k) ∧ R.Ends n m r t ∧
      (Program.retry attempt pause n 0).run answer (R.state 0) = (r, R.state (m + 1)) ∧
      (Program.retry attempt pause n 0).trace answer (R.state 0) =
        R.rounds m ++ (R.attemptCalls m ++ t) := by
  classical
  have hsome : ∃ m, n ≤ m + 1 ∨ ¬ R.Passes m := ⟨n, Or.inl n.le_succ⟩
  obtain ⟨m, hm, hleast⟩ : ∃ m, (n ≤ m + 1 ∨ ¬ R.Passes m) ∧
      ∀ k < m, ¬ (n ≤ k + 1 ∨ ¬ R.Passes k) :=
    ⟨Nat.find hsome, Nat.find_spec hsome, fun k hk => Nat.find_min hsome hk⟩
  have hbefore : ∀ k < m, R.Passes k := fun k hk =>
    not_not.mp (not_or.mp (hleast k hk)).2
  have hmn : m < n := by
    rcases m with _ | m
    · exact hn
    · exact not_le.mp (not_or.mp (hleast m m.lt_succ_self)).1
  obtain ⟨j, rfl⟩ : ∃ j, n = m + j + 1 := ⟨n - m - 1, by omega⟩
  obtain ⟨r, t, hends, hrun, htrace⟩ := exists_ends_at (R := R) (m := m) (n := j)
    (hm.imp_left fun h => by omega)
  obtain ⟨hadvance, hrounds⟩ := retry_of_passes hbefore j
  exact ⟨m, r, t, hmn, hbefore, hends, hadvance.trans hrun, hrounds.trans (htrace ▸ rfl)⟩

end RetryRuns

end ZubotIngestion.Effects
