import ZubotIngestion.Services.Journaling

/-!
# Programs run alone

A program run alone from some state of the world, each of its calls answered by an environment of
its own, so that any call may fail in any way.

## Main definitions

* `runEach`, `traceEach`: the run, and its calls.
* `Commits`: an entry of the journal that records an update.

## Main results

* `runEach_journal`: the journal grows by entries of the calls.
* `safe_runEach`: a safe program satisfies its postcondition.
* `commits_of_journalsAll`: the writes to a row are those of the updates
  asked for, in order.
-/

namespace ZubotIngestion

open Effects Store

/-- A program run alone from `w`, each call answered by its own environment. -/
def runEach {α : Type} (p : Prog α) (w : World) (envs : ℕ → Env) :
    Except PyException α × World × (ℕ → Env) :=
  Program.run (S := services) (Program.each answer) p (w, envs)

/-- The calls of such a run. -/
def traceEach {α : Type} (p : Prog α) (w : World) (envs : ℕ → Env) : List Call :=
  Program.trace (S := services) (Program.each answer) p (w, envs)

/-! ### How runs compose -/

section Compose

variable {α β : Type} {w w' : World} {envs envs' : ℕ → Env}

/-- One call uses up one environment. -/
theorem runEach_perform (op : Op) (w : World) (envs : ℕ → Env) :
    runEach (perform op) w envs =
      ((answer (envs 0) op w).1, (answer (envs 0) op w).2, fun n => envs (n + 1)) :=
  Program.run_perform (S := services) (Program.each answer) op (w, envs)

/-- A sequence whose first part returns goes on with its second part. -/
theorem runEach_bind_ok {p : Prog α} {a : α} (h : runEach p w envs = (.ok a, w', envs'))
    (f : α → Prog β) : runEach (p >>= f) w envs = runEach (f a) w' envs' := by
  have hbind := Program.run_bind (S := services) (Program.each answer) p f (w, envs)
  rw [show Program.run (S := services) (Program.each answer) p (w, envs) = _ from h] at hbind
  exact hbind

/-- A sequence whose first part raises ends there. -/
theorem runEach_bind_error {p : Prog α} {e : PyException}
    (h : runEach p w envs = (.error e, w', envs')) (f : α → Prog β) :
    runEach (p >>= f) w envs = (.error e, w', envs') := by
  have hbind := Program.run_bind (S := services) (Program.each answer) p f (w, envs)
  rw [show Program.run (S := services) (Program.each answer) p (w, envs) = _ from h] at hbind
  exact hbind

/-- `attempt` returns the outcome. -/
theorem runEach_attempt (p : Prog α) (w : World) (envs : ℕ → Env) :
    runEach p.attempt w envs =
      (.ok (runEach p w envs).1, (runEach p w envs).2) :=
  Program.run_attempt (S := services) (Program.each answer) p (w, envs)

theorem runEach_attempt_of {p : Prog α} {r : Except PyException α}
    (h : runEach p w envs = (r, w', envs')) : runEach p.attempt w envs = (.ok r, w', envs') := by
  rw [runEach_attempt, h]

end Compose

/-- The journal of a run grows by entries of its calls. -/
theorem runEach_journal {α : Type} (p : Prog α) (w : World) (envs : ℕ → Env) :
    ∃ es, (runEach p w envs).2.1.jobs.journal = w.jobs.journal ++ es ∧
      JournalsAll w.Present (traceEach p w envs) es := by
  have hrun : ∀ (w₀ w : World) (envs : ℕ → Env), (∀ jobId, w₀.Present jobId → w.Present jobId) →
      ∃ es, (runEach p w envs).2.1.jobs.journal = w.jobs.journal ++ es ∧
        JournalsAll w₀.Present (traceEach p w envs) es := by
    intro w₀
    induction p with
    | ret a => exact fun w envs _ => ⟨[], (List.append_nil _).symm, rfl⟩
    | raise e => exact fun w envs _ => ⟨[], (List.append_nil _).symm, rfl⟩
    | call op next ih =>
      intro w envs hw
      obtain ⟨es₁, hes₁, hjournals⟩ := journal_answer (envs 0) op w
      obtain ⟨es₂, hes₂, hall⟩ := ih (answer (envs 0) op w).1 (answer (envs 0) op w).2
        (fun n => envs (n + 1)) fun jobId h => (hw jobId h).mono hes₁
      exact ⟨es₁ ++ es₂, hes₂.trans (by rw [hes₁, List.append_assoc]),
        es₁, es₂, rfl, hjournals.mono hw, hall⟩
  exact hrun w w envs fun _ h => h

/-- A safe program keeps its specification in such a run. -/
theorem safe_runEach {α : Type} {G : List Call → Op → Prop}
    {Q : List Call → Except PyException α → Prop} {p : Prog α}
    (h : Program.Safe Sensible G Q p []) (w : World) (envs : ℕ → Env) :
    Q (traceEach p w envs) (runEach p w envs).1 := by
  have hA : ∀ op (s : World × (ℕ → Env)), True →
      Sensible op (Program.each (S := services) answer op s).1 :=
    fun op s _ => sensible_answer (s.2 0) op s.1
  have hrun := h.run hA (fun _ _ _ _ _ => trivial) (s := (w, envs)) trivial
  rw [List.nil_append] at hrun
  exact hrun.2

/-- A safe program keeps its specification in every call of such a run, also under further
assumptions on answers that every environment of the run meets. -/
theorem kept_runEach {α : Type} {G : List Call → Op → Prop}
    {A : (op : Op) → Except PyException op.Res → Prop}
    {Q : List Call → Except PyException α → Prop} {p : Prog α}
    (h : Program.Safe Sensible G Q p []) (w : World) (envs : ℕ → Env)
    (hA : ∀ n op w, A op (answer (envs n) op w).1) :
    Program.Kept (S := services) (fun op r => Sensible op r ∧ A op r) G (traceEach p w envs) := by
  have hsafe : Program.Safe (S := services) (fun op r => Sensible op r ∧ A op r) G Q p [] :=
    h.mono (fun _ _ h => h.1) (fun _ _ h => h) (fun _ _ h => h)
  have hkept : Program.Kept (S := services) (fun op r => Sensible op r ∧ A op r) G
      ([] ++ traceEach p w envs) :=
    hsafe.kept (I := fun s : World × (ℕ → Env) => ∀ n op w, A op (answer (s.2 n) op w).1)
      (fun op s hs => ⟨sensible_answer (s.2 0) op s.1, hs 0 op s.1⟩)
      (fun op s hs n => hs (n + 1)) Program.Kept.nil (s := (w, envs)) hA
  rwa [List.nil_append] at hkept

/-- A run uses up the first environments. -/
theorem runEach_shift {α : Type} (p : Prog α) (w : World) (envs : ℕ → Env) :
    ∃ k, (runEach p w envs).2.2 = fun n => envs (n + k) := by
  induction p generalizing w envs with
  | ret a => exact ⟨0, rfl⟩
  | raise e => exact ⟨0, rfl⟩
  | call op next ih =>
    obtain ⟨k, hk⟩ := ih (answer (envs 0) op w).1 (answer (envs 0) op w).2 fun n => envs (n + 1)
    exact ⟨k + 1, hk⟩

/-- An entry of a run was added by one of its calls. -/
theorem mem_of_journalsAll {present : JobId → Prop} {trace : List Call} {es : List JobEntry}
    (h : JournalsAll present trace es) {e : JobEntry} (he : e ∈ es) :
    ∃ c ∈ trace, ∃ es', Journals present c es' ∧ e ∈ es' := by
  induction trace generalizing es with
  | nil =>
    obtain rfl : es = [] := h
    cases he
  | cons c trace ih =>
    obtain ⟨es₁, es₂, rfl, hc, htrace⟩ := h
    rcases List.mem_append.mp he with he | he
    · exact ⟨c, List.mem_cons_self, es₁, hc, he⟩
    · obtain ⟨c', hc', hes'⟩ := ih htrace he
      exact ⟨c', List.mem_cons_of_mem _ hc', hes'⟩

/-! ### The writes of a run -/

/-- The updates of a job row among some entries. -/
abbrev writesToJob (jobId : JobId) (es : List JobEntry) : List JobUpdate :=
  writesTo (D := jobSchema) jobId es

/-- `u` records the update `op` of the row `jobId`. -/
def Commits (jobId : JobId) (op : Op) (u : JobUpdate) : Prop :=
  ∃ f now, op.update? = some (jobId, f) ∧ u = f now

theorem Op.isUpdate_of_update? {op : Op} {update : JobId × (Timestamp → JobUpdate)}
    (h : op.update? = some update) : op.isUpdate = true := by
  rw [Op.isUpdate, h, Option.isSome_some]

theorem Op.update?_of_note? {op : Op} {n : Note} (h : op.note? = some n) : op.update? = none := by
  cases op <;> first
    | rfl
    | cases h

theorem writesTo_inserted_map {α : Type} (jobId : JobId) (rows : List α) (row : α → JobRow) :
    writesToJob jobId (rows.map fun a => insertedEntry (row a)) = [] :=
  List.filterMap_eq_nil_iff.mpr fun e he => by
    obtain ⟨a, -, rfl⟩ := List.mem_map.mp he
    rfl

/-- A call that is no update writes to no row. -/
theorem writesTo_of_not_isUpdate {present : JobId → Prop} {c : Call} {es : List JobEntry}
    (h : Journals present c es) (hc : c.1.isUpdate = false) (jobId : JobId) :
    writesToJob jobId es = [] := by
  rcases h.cases with ⟨k, u, now, hu, -⟩ | ⟨batch, jobs, -, rfl⟩ | ⟨n, -, rfl⟩ | ⟨rfl, -⟩
  · exact absurd ((Op.isUpdate_of_update? hu).symm.trans hc) Bool.true_eq_false_eq_False
  · exact writesTo_inserted_map jobId jobs (newRow batch)
  · rfl
  · rfl

/-- An update records itself, or nothing at all: then it was answered with an exception, or its row
is missing. -/
theorem writesTo_of_update {present : JobId → Prop} {c : Call} {es : List JobEntry}
    (h : Journals present c es) {jobId : JobId} {f : Timestamp → JobUpdate}
    (hc : c.1.update? = some (jobId, f)) :
    (∃ u, writesToJob jobId es = [u] ∧ Commits jobId c.1 u) ∨
      writesToJob jobId es = [] ∧ (present jobId → Raised c.2) := by
  rcases h.cases with ⟨k, u, now, hu, rfl⟩ | ⟨batch, jobs, hop, rfl⟩ | ⟨n, hn, rfl⟩ | ⟨rfl, hr, -⟩
  · obtain ⟨rfl, rfl⟩ := Prod.mk.inj (Option.some.inj (hc.symm.trans hu))
    have hwrites : writesToJob jobId [.wrote jobId (f now)] = [f now] :=
      (writesTo_wrote (D := jobSchema) jobId jobId (f now)).trans (if_pos rfl)
    exact Or.inl ⟨f now, hwrites, f, now, hc, rfl⟩
  · rw [hop] at hc
    cases hc
  · exact absurd ((Op.update?_of_note? hn).symm.trans hc) (Option.some_ne_none _).symm
  · exact Or.inr ⟨rfl, hr jobId f hc⟩

/-- The writes to a row come from updates of the run, in their order, and if the row exists and no
update raised, every update is written. -/
theorem commits_of_journalsAll {present : JobId → Prop} {jobId : JobId} {trace : List Call}
    {es : List JobEntry} (h : JournalsAll present trace es)
    (hjob : ∀ op ∈ updatesOf trace, ∃ f, op.update? = some (jobId, f)) :
    ∃ ops, ops.Sublist (updatesOf trace) ∧
      List.Forall₂ (Commits jobId) ops (writesToJob jobId es) ∧
      (present jobId → (∀ c ∈ trace, c.1.isUpdate = true → ¬ Raised c.2) →
        ops = updatesOf trace) := by
  induction trace generalizing es with
  | nil =>
    obtain rfl : es = [] := h
    exact ⟨[], List.Sublist.slnil, .nil, fun _ _ => rfl⟩
  | cons c trace ih =>
    obtain ⟨es₁, es₂, rfl, hc, htrace⟩ := h
    have hwrites : writesToJob jobId (es₁ ++ es₂) =
        writesToJob jobId es₁ ++ writesToJob jobId es₂ :=
      writesTo_append _ _ _
    have hsplit : updatesOf (c :: trace) = updatesOf [c] ++ updatesOf trace :=
      updatesOf_append [c] trace
    rw [hsplit] at hjob ⊢
    obtain ⟨ops, hsub, hcommits, hall⟩ :=
      ih htrace fun op hop => hjob op (List.mem_append_right _ hop)
    cases hu : c.1.isUpdate with
    | false =>
      have hone : updatesOf [c] = [] :=
        List.filter_cons_of_neg (by rw [hu]; exact Bool.false_ne_true)
      rw [hwrites, writesTo_of_not_isUpdate hc hu, hone]
      refine ⟨ops, hsub, hcommits, fun hp hok => ?_⟩
      exact hall hp fun c' hc' => hok c' (List.mem_cons_of_mem _ hc')
    | true =>
      have hone : updatesOf [c] = [c.1] := List.filter_cons_of_pos hu
      rw [hone] at hjob ⊢
      obtain ⟨f, hf⟩ := hjob c.1 (List.mem_append_left _ (List.mem_singleton_self _))
      rcases writesTo_of_update hc hf with ⟨u, hes, hcommit⟩ | ⟨hes, hraised⟩
      · rw [hwrites, hes]
        refine ⟨c.1 :: ops, hsub.cons_cons c.1, .cons hcommit hcommits, fun hp hok => ?_⟩
        rw [hall hp fun c' hc' => hok c' (List.mem_cons_of_mem _ hc')]
        rfl
      · rw [hwrites, hes]
        refine ⟨ops, hsub.cons c.1, hcommits, fun hp hok => ?_⟩
        exact absurd (hraised hp) (hok c List.mem_cons_self hu)

end ZubotIngestion
