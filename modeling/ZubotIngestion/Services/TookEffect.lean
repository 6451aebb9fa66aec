import ZubotIngestion.Services.SoloRun

/-!
# Calls that took effect

A call may raise although it took effect, so its answer alone does not tell what the database and
the other systems have kept. Its environment does. The calls of a run that took effect, in their
order, determine what the run leaves in the journal.

## Main definitions

* `Env.takesEffect`: the environment lets a call take effect.
* `tookEffect`: the calls of a run that took effect.

## Main results

* `runEach_entries`: the journal of a run that submits nothing grows by the entries of these calls.
* `filterMap_entriesOf`: what is read off the entries can be read off the calls.
* `mem_tookEffect`: an update or a counter increment that was confirmed took effect.
-/

namespace ZubotIngestion

open Effects Store

/-- The writer and the indexer may decline. -/
def Env.accepts (env : Env) : Op → Bool
  | .writeMetadata .. => env.wrote
  | .indexCompanion .. => env.indexed
  | _ => true

/-- The call does not fail beforehand, and is not declined. -/
def Env.takesEffect (env : Env) (op : Op) : Bool :=
  env.accepts op && (op.infallible || match env.fault? op with
    | some (.before _) => false
    | _ => true)

/-- The calls of a run that took effect, the environment of each at its position. -/
def tookEffect : List Call → (ℕ → Env) → List Op
  | [], _ => []
  | c :: trace, envs =>
    (if (envs 0).takesEffect c.1 then [c.1] else []) ++ tookEffect trace fun n => envs (n + 1)

/-- The entry of a call that takes effect. -/
def Op.journalEntry (op : Op) (now : Timestamp) : Option JobEntry :=
  match op.update?, op.note? with
  | some (jobId, u), _ => some (.wrote jobId (u now))
  | none, some n => some (.noted n)
  | none, none => none

/-- The entries of these calls. -/
def entriesOf : List Call → (ℕ → Env) → List JobEntry
  | [], _ => []
  | c :: trace, envs =>
    (if (envs 0).takesEffect c.1 then (c.1.journalEntry (envs 0).now).toList else []) ++
      entriesOf trace fun n => envs (n + 1)

theorem tookEffect_subset (trace : List Call) (envs : ℕ → Env) :
    (tookEffect trace envs).Sublist (trace.map Sigma.fst) := by
  induction trace generalizing envs with
  | nil => exact List.Sublist.slnil
  | cons c trace ih =>
    rw [tookEffect]
    split_ifs
    · exact (ih fun n => envs (n + 1)).cons_cons c.1
    · exact (ih fun n => envs (n + 1)).cons c.1

/-- What is read off the entries can be read off the calls. -/
theorem filterMap_entriesOf {β : Type} {f : JobEntry → Option β} {g : Op → Option β}
    (h : ∀ op now, (op.journalEntry now).bind f = g op) (trace : List Call) (envs : ℕ → Env) :
    (entriesOf trace envs).filterMap f = (tookEffect trace envs).filterMap g := by
  induction trace generalizing envs with
  | nil => rfl
  | cons c trace ih =>
    rw [entriesOf, tookEffect, List.filterMap_append, List.filterMap_append, ih]
    congr 1
    split_ifs
    · rw [List.filterMap_cons, ← h c.1 (envs 0).now]
      cases c.1.journalEntry (envs 0).now with
      | none => rfl
      | some e =>
        simp only [Option.toList_some, List.filterMap_cons, List.filterMap_nil, Option.bind_some]
    · rfl

/-! ### The journal -/

/-- What a call that does not fail adds to the journal. -/
theorem journal_effect_eq (env : Env) {op : Op} {w : World} (hsubmission : op.isSubmission = false)
    (hpresent : ∀ jobId u, op.update? = some (jobId, u) → w.Present jobId) :
    (effect env op w).2.jobs.journal =
      w.jobs.journal ++ if env.accepts op then (op.journalEntry env.now).toList else [] := by
  have hwrite : ∀ jobId u, w.Present jobId →
      (w.update jobId u).jobs.journal = w.jobs.journal ++ [.wrote jobId u] := by
    intro jobId u h
    exact (w.jobs.journal_write jobId u).trans (if_pos h)
  cases op with
  | updateJobStatus jobId status result errorMessage =>
    exact hwrite jobId _ (hpresent jobId _ rfl)
  | updateJobResult jobId result tier score processingTimeMs otelTraceId trace =>
    exact hwrite jobId _ (hpresent jobId _ rfl)
  | readBytes path =>
    simp only [effect]
    cases w.readFile? path <;> exact (List.append_nil _).symm
  | writeMetadata documentId sidecar deploymentId nodeId =>
    have haccepts : env.accepts (.writeMetadata documentId sidecar deploymentId nodeId) =
        env.wrote := rfl
    rw [haccepts]
    simp only [effect]
    split_ifs
    · rfl
    · exact (List.append_nil _).symm
  | indexCompanion documentId extraction companion deploymentId =>
    have haccepts : env.accepts (.indexCompanion documentId extraction companion deploymentId) =
        env.indexed := rfl
    rw [haccepts]
    simp only [effect]
    split_ifs
    · rfl
    · exact (List.append_nil _).symm
  | notifyCompletion callbackUrl job apiKey => rfl
  | countExtraction status => rfl
  | createBatch | enqueueExtraction => cases hsubmission
  | _ => exact (List.append_nil _).symm

/-- What a call adds to the journal, faults included. -/
theorem journal_answer_eq (env : Env) {op : Op} {w : World} (hsubmission : op.isSubmission = false)
    (hpresent : ∀ jobId u, op.update? = some (jobId, u) → w.Present jobId) :
    (answer env op w).2.jobs.journal =
      w.jobs.journal ++ if env.takesEffect op then (op.journalEntry env.now).toList else [] := by
  have heffect := journal_effect_eq env hsubmission hpresent
  unfold answer
  by_cases hop : op.infallible = true
  · rw [if_pos hop, heffect, Env.takesEffect, hop, Bool.true_or, Bool.and_true]
  · rw [if_neg hop, Env.takesEffect, Bool.eq_false_iff.mpr hop, Bool.false_or]
    cases env.fault? op with
    | none =>
      rw [Bool.and_true]
      exact heffect
    | some fault =>
      cases fault with
      | before exc =>
        rw [Bool.and_false]
        exact (List.append_nil _).symm
      | after exc =>
        rw [Bool.and_true]
        exact heffect

/-- The journal of a run that submits nothing and updates rows that exist. -/
theorem runEach_entries {α : Type} {p : Prog α} {w : World} {envs : ℕ → Env}
    (hsubmission : ∀ c ∈ traceEach p w envs, c.1.isSubmission = false)
    (hpresent : ∀ c ∈ traceEach p w envs, ∀ jobId u, c.1.update? = some (jobId, u) →
      w.Present jobId) :
    (runEach p w envs).2.1.jobs.journal =
      w.jobs.journal ++ entriesOf (traceEach p w envs) envs := by
  induction p generalizing w envs with
  | ret a => exact (List.append_nil _).symm
  | raise e => exact (List.append_nil _).symm
  | call op next ih =>
    have hhead := journal_answer_eq (envs 0) (w := w)
      (hsubmission ⟨op, _⟩ List.mem_cons_self) (hpresent ⟨op, _⟩ List.mem_cons_self)
    have htail := @ih (answer (envs 0) op w).1 (answer (envs 0) op w).2 (fun n => envs (n + 1))
      (fun c hc => hsubmission c (List.mem_cons_of_mem _ hc))
      (fun c hc jobId u hu => (hpresent c (List.mem_cons_of_mem _ hc) jobId u hu).mono hhead)
    refine htail.trans ?_
    rw [hhead, List.append_assoc]
    rfl

/-! ### Confirmed calls -/

/-- A call that cannot be declined and was confirmed takes effect. -/
theorem takesEffect_of_answer {env : Env} {op : Op} {w : World} (haccepts : env.accepts op = true)
    (hok : ¬ Raised (answer env op w).1) : env.takesEffect op = true := by
  rw [Env.takesEffect, haccepts, Bool.true_and]
  by_cases hop : op.infallible = true
  · rw [hop, Bool.true_or]
  · rw [Bool.eq_false_iff.mpr hop, Bool.false_or]
    cases hfault : env.fault? op with
    | none => rfl
    | some fault =>
      cases fault with
      | before exc =>
        refine absurd ⟨exc, ?_⟩ hok
        rw [answer, if_neg hop, hfault]
      | after exc => rfl

/-- A confirmed call that cannot be declined is among those that took effect. -/
theorem mem_tookEffect {α : Type} {p : Prog α} {w : World} {envs : ℕ → Env} {c : Call}
    (hc : c ∈ traceEach p w envs) (haccepts : ∀ env : Env, env.accepts c.1 = true)
    (hok : ¬ Raised c.2) : c.1 ∈ tookEffect (traceEach p w envs) envs := by
  induction p generalizing w envs with
  | ret a => cases hc
  | raise e => cases hc
  | call op next ih =>
    rcases List.mem_cons.mp hc with rfl | hc
    · have heffect : (envs 0).takesEffect op = true :=
        takesEffect_of_answer (haccepts (envs 0)) hok
      refine List.mem_append_left _ ?_
      rw [if_pos heffect]
      exact List.mem_singleton_self op
    · exact List.mem_append_right _ (ih (answer (envs 0) op w).1 hc)

end ZubotIngestion
