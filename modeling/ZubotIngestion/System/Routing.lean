import ZubotIngestion.System.Calls
import ZubotIngestion.System.Stores

/-!
# Where the outcome of a job goes

An attempt takes the deployment, the node and the callback URL from the batch of the job it has
loaded, and it loads the batch in the same session. So whatever requests run next to each other, a
document is upserted only to the collection of the batch of a job with its file, and a webhook is
posted only to the callback URL of the batch of the job it reports. An attempt that could not load
the batch goes on with the default routing: the default collection, and no webhook.

## Main definitions

* `RoutedBy`: the identifiers an outcome of the job may be stored under.
* `WellRouted`: every delivery goes where the batch of its job says.

## Main results

* `wellRouted_reached`: every run delivers so.
-/

namespace ZubotIngestion

open Effects Store

/-- The deployment and the node are those of the batch of the row, or the default ones because an
attempt could not load the batch. -/
def RoutedBy (P : System) (row : JobRow) (deploymentId nodeId : Option ℤ) : Prop :=
  (∃ batch ∈ P.state.batches, batch.batchId = row.batchId ∧ batch.deploymentId = deploymentId ∧
    batch.nodeId = nodeId) ∨
  BatchUnknown P row ∧ deploymentId = none ∧ nodeId = none

/-- Every delivery goes where the batch of its job says. -/
structure WellRouted (P : System) : Prop where
  /-- A document is one of a job, in a collection the job is routed to. -/
  collections : ∀ collection, ∀ record ∈ P.state.collections collection,
    ∃ row ∈ P.state.jobs.table.rows, record.documentId = row.fileHash ∧
      ∃ deploymentId nodeId, RoutedBy P row deploymentId nodeId ∧
        collection = collectionOf deploymentId nodeId
  /-- A companion is indexed for a job, under the deployment the job is routed to. -/
  companions : ∀ documentId extraction companion deploymentId,
    .noted (.indexed documentId extraction companion deploymentId) ∈ P.state.jobs.journal →
      ∃ row ∈ P.state.jobs.table.rows, documentId = row.fileHash ∧
        ∃ nodeId, RoutedBy P row deploymentId nodeId
  /-- A webhook reports a job to the callback URL of its batch. -/
  webhooks : ∀ callbackUrl payload, .noted (.posted callbackUrl payload) ∈ P.state.jobs.journal →
    ∃ row ∈ P.state.jobs.table.rows, ∃ batch ∈ P.state.batches, batch.batchId = row.batchId ∧
      batch.callbackUrl = some callbackUrl ∧
        (payload.jobId, payload.batchId, payload.filename, payload.fileHash) = row.identity

section Runs

variable {settings : Settings} {sha256 : Bytes → FileHash} {moves : List SystemMove}

/-- A delivery goes back to an attempt, behind what the attempt has loaded. -/
theorem loaded_of_note {n : Note}
    (hn : .noted n ∈ (reached settings sha256 moves).state.jobs.journal)
    (hdelivery : ∀ op : Op, op.note? = some n → op.isPipeline = true ∧ op ≠ .elapsedMs) :
    ∃ th ∈ (reached settings sha256 moves).threads, ∃ retries, ∃ l : Loaded, ∃ op,
      th.request = .extract l.job.jobId retries ∧ l.prelude <+: th.trace ∧
        op.note? = some n ∧ FromInput (l.input settings) op := by
  obtain ⟨th, hth, c, hc, hadds⟩ := explained_reached _ hn
  obtain ⟨pre, post, htrace, hcall⟩ := requestCall_of_mem hth hc
  obtain ⟨hpipeline, hclock⟩ := hdelivery c.1 hadds.note?
  obtain ⟨jobId, retries, l, u, hrequest, rfl, rfl, hfrom⟩ := hcall.pipeline hpipeline hclock
  exact ⟨th, hth, retries, l, c.1, hrequest, ⟨u ++ c :: post, by rw [htrace, List.append_assoc]⟩,
    hadds.note?, hfrom⟩

/-- The row of a job that an attempt has loaded, and where its batch routes it to. -/
theorem row_of_loaded {th : Serving} (hth : th ∈ (reached settings sha256 moves).threads)
    {retries : ℕ} {l : Loaded} (hrequest : th.request = .extract l.job.jobId retries)
    (hpre : l.prelude <+: th.trace) :
    ∃ row ∈ (reached settings sha256 moves).state.jobs.table.rows,
      row.identity = l.job.identity ∧
        ((∃ batch ∈ (reached settings sha256 moves).state.batches, batch.batchId = row.batchId ∧
            l.batch = .ok (some batch)) ∨
          BatchUnknown (reached settings sha256 moves) row ∧ ∃ exc, l.batch = .error exc) := by
  have hgrounded := grounded_reached.2 th hth
  have hmem : (⟨.getJob l.job.jobId, .ok (some l.job)⟩ : Call) ∈ th.trace :=
    hpre.subset List.mem_cons_self
  obtain ⟨row, hrow, hidentity⟩ := List.mem_map.mp (hgrounded.byId _ _ hmem)
  have hid : row.id = l.job.jobId := congrArg Prod.fst hidentity
  have hbatchId : row.batchId = l.job.batchId := congrArg (fun i => i.2.1) hidentity
  refine ⟨row, hrow, hidentity, ?_⟩
  obtain ⟨post, hpost⟩ := hpre
  have hlookup : th.trace = [⟨.getJob l.job.jobId, .ok (some l.job)⟩] ++
      ⟨.getBatch l.job.batchId, l.batch⟩ :: (l.prelude.drop 2 ++ post) := hpost.symm
  cases hbatch : l.batch with
  | error exc =>
    refine Or.inr ⟨⟨th, hth, ⟨retries, by rw [hrequest, hid]⟩, exc, ?_⟩, exc, rfl⟩
    rw [hlookup, hbatch, hbatchId]
    exact List.mem_append_right _ List.mem_cons_self
  | ok found =>
    rw [hbatch] at hlookup
    obtain ⟨batch, rfl, hfound⟩ := hgrounded.batch _ _ _ _ _ hlookup List.mem_cons_self
    have hfoundId : decide (batch.batchId = l.job.batchId) = true :=
      List.find?_some (p := fun b : Batch => decide (b.batchId = l.job.batchId)) hfound
    exact Or.inl ⟨batch, List.mem_of_find?_eq_some hfound,
      (of_decide_eq_true hfoundId).trans hbatchId.symm, rfl⟩

/-- What an attempt takes from the batch is where its row is routed to. -/
theorem routedBy_of_loaded {row : JobRow} {l : Loaded}
    (h : (∃ batch ∈ (reached settings sha256 moves).state.batches, batch.batchId = row.batchId ∧
        l.batch = .ok (some batch)) ∨
      BatchUnknown (reached settings sha256 moves) row ∧ ∃ exc, l.batch = .error exc) :
    RoutedBy (reached settings sha256 moves) row (routingOf l.batch).deploymentId
      (routingOf l.batch).nodeId := by
  rcases h with ⟨batch, hmem, hid, hbatch⟩ | ⟨hunknown, exc, hbatch⟩
  · rw [hbatch]
    exact Or.inl ⟨batch, hmem, hid, rfl, rfl⟩
  · rw [hbatch]
    exact Or.inr ⟨hunknown, rfl, rfl⟩

/-- **Every run delivers where the batches say.** In every reachable state a document stands in a
collection the batch of a job with this file is routed to, a companion has been indexed under such
a deployment, and a webhook has been posted to the callback URL of the batch of the job it
reports; the default collection stands for a batch that an attempt could not load. -/
theorem wellRouted_reached (settings : Settings) (sha256 : Bytes → FileHash)
    (moves : List SystemMove) : WellRouted (reached settings sha256 moves) := by
  refine ⟨fun collection record hrecord => ?_, fun documentId extraction companion deploymentId hn
    => ?_, fun callbackUrl payload hn => ?_⟩
  · have hdocument : (reached settings sha256 moves).state.HasDocument collection
        record.documentId := ⟨record, hrecord, rfl⟩
    obtain ⟨sidecar, deploymentId, nodeId, rfl, hn⟩ := World.hasDocument_iff.mp hdocument
    obtain ⟨th, hth, retries, l, op, hrequest, hpre, hnote, hfrom⟩ := loaded_of_note hn
      fun op hop => by cases op <;> cases hop; exact ⟨rfl, Op.noConfusion⟩
    cases op <;> cases hnote
    obtain ⟨hhash, rfl, rfl⟩ := hfrom
    obtain ⟨row, hrow, hidentity, hbatch⟩ := row_of_loaded hth hrequest hpre
    exact ⟨row, hrow, hhash.trans (congrArg (fun i => i.2.2.2) hidentity).symm, _, _,
      routedBy_of_loaded hbatch, rfl⟩
  · obtain ⟨th, hth, retries, l, op, hrequest, hpre, hnote, hfrom⟩ := loaded_of_note hn
      fun op hop => by cases op <;> cases hop; exact ⟨rfl, Op.noConfusion⟩
    cases op <;> cases hnote
    obtain ⟨hhash, rfl⟩ := hfrom
    obtain ⟨row, hrow, hidentity, hbatch⟩ := row_of_loaded hth hrequest hpre
    exact ⟨row, hrow, hhash.trans (congrArg (fun i => i.2.2.2) hidentity).symm, _,
      routedBy_of_loaded hbatch⟩
  · obtain ⟨th, hth, retries, l, op, hrequest, hpre, hnote, hfrom⟩ := loaded_of_note hn
      fun op hop => by cases op <;> cases hop; exact ⟨rfl, Op.noConfusion⟩
    cases op <;> cases hnote
    obtain ⟨hurl, rfl, -⟩ := hfrom
    obtain ⟨row, hrow, hidentity, hbatch⟩ := row_of_loaded hth hrequest hpre
    rcases hbatch with ⟨batch, hmem, hid, hbatch⟩ | ⟨-, exc, hbatch⟩
    · have hcallback : (routingOf l.batch).callbackUrl = some callbackUrl := hurl
      rw [hbatch] at hcallback
      exact ⟨row, hrow, batch, hmem, hid, hcallback, hidentity.symm⟩
    · -- without a batch there is no URL to post to
      have hcallback : (routingOf l.batch).callbackUrl = some callbackUrl := hurl
      rw [hbatch] at hcallback
      cases hcallback

end Runs

end ZubotIngestion
