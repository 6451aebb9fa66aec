import ZubotIngestion.Services.SoloRun
import ZubotIngestion.System.Requests

/-!
# What a request knows to be committed

A request that has loaded a job, and whose update of it was answered normally, finds its update in
the history of the row from then on, whatever runs next to it.

## Main definitions

* `Recorded`: the calls of one request against the state of the database.
* `RecordedInOrder`: all updates of one request, in the order in which it has made them.

## Main results

* `recorded_reached`, `recordedInOrder_reached`: all requests of a run are recorded.
* `Decides.mem_history`: a decision that was answered with success is in the history of its row.
-/

namespace ZubotIngestion

open Effects Store

/-- What the calls of a request say about the histories. -/
structure Recorded (t : List Call) (w : World) : Prop where
  /-- A job that was loaded has a row. -/
  present : ∀ jobId job, ⟨.getJob jobId, .ok (some job)⟩ ∈ t →
    ∃ h, w.jobs.history? jobId = some h
  /-- An update of a loaded job that did not raise is in its history. -/
  committed : ∀ pre c post jobId f job, t = pre ++ c :: post → c.1.update? = some (jobId, f) →
    ¬ Raised c.2 → ⟨.getJob jobId, .ok (some job)⟩ ∈ pre →
      ∃ h now, w.jobs.history? jobId = some h ∧ f now ∈ h.writes

theorem Recorded.nil (w : World) : Recorded [] w where
  present _ _ h := nomatch h
  committed _ _ _ _ _ _ h :=
    absurd h.symm (List.append_ne_nil_of_right_ne_nil _ (List.cons_ne_nil _ _))

/-- What is recorded stays recorded. -/
theorem Recorded.extend {t : List Call} {w w' : World} (h : Recorded t w)
    (hw : w.jobs.Extends w'.jobs) : Recorded t w' where
  present jobId job hjob := by
    obtain ⟨hist, hhist⟩ := h.present jobId job hjob
    obtain ⟨ws, hws⟩ := hw jobId hist hhist
    exact ⟨_, hws⟩
  committed pre c post jobId f job ht hu hok hread := by
    obtain ⟨hist, now, hhist, hmem⟩ := h.committed pre c post jobId f job ht hu hok hread
    obtain ⟨ws, hws⟩ := hw jobId hist hhist
    exact ⟨_, now, hws, List.mem_append_left ws hmem⟩

/-- A call of the request itself is recorded. -/
theorem Recorded.concat {t : List Call} {w : World} (h : Recorded t w) (env : Env) (op : Op) :
    Recorded (t ++ [⟨op, (answer env op w).1⟩]) (answer env op w).2 := by
  have hextends := extends_answer env op w
  have hext := h.extend hextends
  refine ⟨fun jobId job hjob => ?_, fun pre c post jobId f job ht hu hok hread => ?_⟩
  · rcases List.mem_append.mp hjob with hjob | hjob
    · exact hext.present jobId job hjob
    · have hcall := List.mem_singleton.mp hjob
      obtain ⟨rfl, hanswer⟩ := Sigma.mk.inj hcall
      obtain ⟨hist, hhist⟩ := history?_of_getJob (eq_of_heq hanswer).symm
      obtain ⟨ws, hws⟩ := hextends jobId hist hhist
      exact ⟨_, hws⟩
  · rcases List.eq_nil_or_concat post with rfl | ⟨post', e, rfl⟩
    · obtain ⟨rfl, hc⟩ := List.append_inj' ht rfl
      obtain rfl := List.head_eq_of_cons_eq hc
      obtain ⟨hist, hhist⟩ := h.present jobId job hread
      have hafter := history?_answer hu hok
      rw [hhist] at hafter
      exact ⟨_, env.now, hafter, List.mem_append_right _ (List.mem_singleton_self _)⟩
    · rw [List.concat_eq_append, ← List.cons_append, ← List.append_assoc] at ht
      exact hext.committed pre c post' jobId f job (List.append_inj' ht rfl).1 hu hok hread

/-- All requests of a run are recorded. -/
theorem recorded_reached (settings : Settings) (sha256 : Bytes → FileHash)
    (moves : List SystemMove) : ∀ th ∈ (reached settings sha256 moves).threads,
      Recorded th.trace (reached settings sha256 moves).state := by
  refine Pool.traces_exec Recorded.nil (fun env op _ _ h => h.concat env op)
    (fun env op _ w h => h.extend (extends_answer env op w)) (fun th hth => ?_) moves
  cases hth

/-! ### In order -/

/-- A request that starts by loading a job, updates this job only and has all its updates confirmed
finds them in the history, in its own order. -/
def RecordedInOrder (t : List Call) (w : World) : Prop :=
  ∀ (jobId : JobId) (job : Job) (t' : List Call), t = ⟨.getJob jobId, .ok (some job)⟩ :: t' →
    (∀ op ∈ updatesOf t', ∃ f, op.update? = some (jobId, f)) →
    (∀ c ∈ t', c.1.isUpdate = true → ¬ Raised c.2) →
      ∃ h us, w.jobs.history? jobId = some h ∧ List.Forall₂ (Commits jobId) (updatesOf t') us ∧
        us.Sublist h.writes

theorem RecordedInOrder.nil (w : World) : RecordedInOrder [] w := by
  intro jobId job t' ht
  cases ht

theorem RecordedInOrder.extend {t : List Call} {w w' : World} (h : RecordedInOrder t w)
    (hw : w.jobs.Extends w'.jobs) : RecordedInOrder t w' := by
  intro jobId job t' ht hjob hok
  obtain ⟨hist, us, hhist, hcommits, hsub⟩ := h jobId job t' ht hjob hok
  obtain ⟨ws, hws⟩ := hw jobId hist hhist
  exact ⟨_, us, hws, hcommits, hsub.trans (List.sublist_append_left _ ws)⟩

/-- A call of the request itself comes last. -/
theorem RecordedInOrder.concat {t : List Call} {w : World} (h : RecordedInOrder t w) (env : Env)
    (op : Op) : RecordedInOrder (t ++ [⟨op, (answer env op w).1⟩]) (answer env op w).2 := by
  intro jobId job t' ht hjob hok
  cases t with
  | nil =>
    obtain ⟨hcall, rfl⟩ := List.cons.inj ht
    obtain ⟨rfl, hanswer⟩ := Sigma.mk.inj hcall
    obtain ⟨hist, hhist⟩ := history?_of_getJob (eq_of_heq hanswer)
    obtain ⟨ws, hws⟩ := extends_answer env _ w jobId hist hhist
    exact ⟨_, [], hws, .nil, List.nil_sublist _⟩
  | cons c t =>
    rw [List.cons_append] at ht
    obtain ⟨rfl, rfl⟩ := List.cons.inj ht
    rw [updatesOf_append] at hjob ⊢
    obtain ⟨hist, us, hhist, hcommits, hsub⟩ := h jobId job t rfl
      (fun op' hop' => hjob op' (List.mem_append_left _ hop'))
      fun c hc => hok c (List.mem_append_left _ hc)
    cases hu : op.isUpdate with
    | false =>
      have hone : updatesOf [⟨op, (answer env op w).1⟩] = [] :=
        List.filter_cons_of_neg (by rw [hu]; exact Bool.false_ne_true)
      obtain ⟨ws, hws⟩ := extends_answer env op w jobId hist hhist
      rw [hone, List.append_nil]
      exact ⟨_, us, hws, hcommits, hsub.trans (List.sublist_append_left _ ws)⟩
    | true =>
      have hone : updatesOf [⟨op, (answer env op w).1⟩] = [op] := List.filter_cons_of_pos hu
      rw [hone] at hjob ⊢
      obtain ⟨f, hf⟩ := hjob op (List.mem_append_right _ List.mem_cons_self)
      have hafter := history?_answer hf (hok _ (List.mem_append_right _ List.mem_cons_self) hu)
      rw [hhist] at hafter
      have hlast : List.Forall₂ (Commits jobId) [op] [f env.now] :=
        .cons ⟨f, env.now, hf, rfl⟩ .nil
      exact ⟨_, us ++ [f env.now], hafter, List.rel_append hcommits hlast,
        hsub.append (List.Sublist.refl _)⟩

/-- All requests of a run are recorded in order. -/
theorem recordedInOrder_reached (settings : Settings) (sha256 : Bytes → FileHash)
    (moves : List SystemMove) : ∀ th ∈ (reached settings sha256 moves).threads,
      RecordedInOrder th.trace (reached settings sha256 moves).state := by
  refine Pool.traces_exec RecordedInOrder.nil (fun env op _ _ h => h.concat env op)
    (fun env op _ w h => h.extend (extends_answer env op w)) (fun th hth => ?_) moves
  cases hth

/-! ### Decisions -/

/-- A decision that was answered with success is in the history of its row. -/
theorem Decides.mem_history {jobId : PathJobId} {d : Decision} {t : List Call} {w : World}
    (hd : Decides jobId d t) (hw : Recorded t w) : ∃ parsedId job reviewedAt h now,
      jobId.uuid? = some parsedId ∧ w.jobs.history? parsedId = some h ∧
        .updateStatus d.status (d.blob? job reviewedAt) d.message? now ∈ h.writes := by
  obtain ⟨parsedId, job, reviewedAt, pre, post, hid, -, hread, ht, -, -⟩ := hd
  obtain ⟨h, now, hh, hmem⟩ := hw.committed pre _ post parsedId _ job ht rfl
    (fun hraised => by obtain ⟨e, he⟩ := hraised; cases he) hread
  exact ⟨parsedId, job, reviewedAt, h, now, hid, hh, hmem⟩

end ZubotIngestion
