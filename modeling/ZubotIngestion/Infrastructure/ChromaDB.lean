import Mathlib.Data.List.Basic
import Mathlib.Data.List.Induction
import Mathlib.Logic.Function.Basic
import ZubotIngestion.Domain.Entities

/-!
# The metadata writer

`ChromaDBMetadataWriter.write_metadata` of `infrastructure/chromadb/writer.py`. A sidecar is
upserted into the collection of its deployment and node, whose name is made of the two identifiers
and an underscore between them. The ChromaDB client is open: an upsert may take effect or not, and
may raise.

## Main definitions

* `chromaCollectionName`, `coerceIdToStr`, `collectionOf`, `writeMetadata`.
* `MetadataWrite`, `writeAll`: a sequence of calls and what the collections hold after it.

## Main results

* `collectionOf_injective`: different pairs of identifiers have different collections.
* `writeAll_collectionOf`: a collection holds what the writes of its own pair have put there.
-/

namespace ZubotIngestion

/-- `CHROMA_COLLECTION_PREFIX`. -/
def chromaCollectionPrefix : String := "zubot_metadata_"

/-- `CHROMA_COLLECTION_DEFAULT_DEPLOYMENT` and `CHROMA_COLLECTION_DEFAULT_NODE`. -/
def chromaCollectionDefault : String := "default"

/-- `PROVENANCE_INGESTION_SERVICE`. -/
def provenanceIngestionService : String := "zubot-ingestion"

/-- `text or "default"`. -/
def orDefault : Option String → String
  | some text => if text = "" then chromaCollectionDefault else text
  | none => chromaCollectionDefault

/-- `chroma_collection_name`. -/
def chromaCollectionName (deploymentId nodeId : Option String) : String :=
  s!"{chromaCollectionPrefix}{orDefault deploymentId}_{orDefault nodeId}"

/-- `_coerce_id_to_str`, on the identifiers a batch stores. -/
def coerceIdToStr : Option ℤ → Option String
  | some value => some (toString value)
  | none => none

/-- The collection `write_metadata` picks for a deployment and a node. -/
def collectionOf (deploymentId nodeId : Option ℤ) : String :=
  chromaCollectionName (coerceIdToStr deploymentId) (coerceIdToStr nodeId)

/-- What is upserted: one document with its body and its metadata. -/
structure ChromaRecord where
  documentId : String
  documentBody : String
  metadata : Dict

/-- The record of a sidecar. -/
def chromaRecord (documentId : String) (sidecar : SidecarDocument) : ChromaRecord where
  documentId := documentId
  documentBody := sidecar.companionText.getD ""
  metadata := Dict.insert sidecar.metadataAttributes "ingestion_service"
    (.str provenanceIngestionService)

/-- `write_metadata`, for a client whose `_upsert_sync` is `upsert` and whose state is `s`: whether
the upsert succeeded, and the state behind the call. Nothing is raised. -/
def writeMetadata {σ : Type} (upsert : String → ChromaRecord → σ → Except PyException Unit × σ)
    (documentId : String) (sidecar : SidecarDocument) (deploymentId nodeId : Option ℤ) (s : σ) :
    Bool × σ :=
  match upsert (collectionOf deploymentId nodeId) (chromaRecord documentId sidecar) s with
  | (.ok (), s') => (true, s')
  | (.error _, s') => (false, s')

/-! ### The names of collections -/

/-- An identifier as it enters the name of a collection. -/
def idText (value : Option ℤ) : List Char := (orDefault (coerceIdToStr value)).toList

theorem toList_int (i : ℤ) :
    0 ≤ i ∧ i.repr.toList = Nat.toDigits 10 i.natAbs ∨
      i < 0 ∧ i.repr.toList = '-' :: Nat.toDigits 10 i.natAbs := by
  rw [Int.repr_eq_if]
  split_ifs with h
  · left
    rw [Nat.toList_repr, show i.toNat = i.natAbs by omega]
    exact ⟨h, rfl⟩
  · right
    rw [String.toList_append, Nat.toList_repr, show (-i).toNat = i.natAbs by omega]
    exact ⟨by omega, rfl⟩

theorem idText_some (i : ℤ) : idText (some i) = i.repr.toList := by
  have hne : i.repr ≠ "" := by
    intro h
    have hdigits : Nat.toDigits 10 i.natAbs ≠ [] := by
      rw [← Nat.toList_repr]
      simp
    rcases toList_int i with ⟨-, hi⟩ | ⟨-, hi⟩ <;> rw [h] at hi
    · exact hdigits hi.symm
    · cases hi
  simp [idText, coerceIdToStr, orDefault, hne]

/-- No decimal rendering of an integer contains a given character other than `-` and the digits. -/
theorem notMem_repr (i : ℤ) {c : Char} (hdash : c ≠ '-') (hdigit : c.isDigit = false) :
    c ∉ i.repr.toList := by
  have hnat : c ∉ Nat.toDigits 10 i.natAbs := by
    intro hmem
    rw [Nat.isDigit_of_mem_toDigits (by decide) (by decide) hmem] at hdigit
    cases hdigit
  rcases toList_int i with ⟨-, hi⟩ | ⟨-, hi⟩ <;> rw [hi]
  · exact hnat
  · simp [hdash, hnat]

/-- The decimal rendering of an integer determines it. -/
theorem toList_repr_injective {i j : ℤ} (h : i.repr.toList = j.repr.toList) : i = j := by
  have hdigits : ∀ m n : ℕ, Nat.toDigits 10 m = Nat.toDigits 10 n → m = n := fun m n h => by
    rw [← Nat.ofDigitChars_ten_toDigits (n := m), h, Nat.ofDigitChars_ten_toDigits]
  have hsign : ∀ m n : ℕ, Nat.toDigits 10 m ≠ '-' :: Nat.toDigits 10 n := fun m n h => by
    have hdash : '-' ∈ Nat.toDigits 10 m := by simp [h]
    exact absurd (Nat.isDigit_of_mem_toDigits (by omega) (by omega) hdash) Bool.false_ne_true
  rcases toList_int i with ⟨hi, hi'⟩ | ⟨hi, hi'⟩ <;>
    rcases toList_int j with ⟨hj, hj'⟩ | ⟨hj, hj'⟩ <;> rw [hi', hj'] at h
  · have habs := hdigits _ _ h
    omega
  · exact absurd h (hsign _ _)
  · exact absurd h.symm (hsign _ _)
  · have habs := hdigits _ _ (List.cons.inj h).2
    omega

/-- An identifier does not bring an underscore into the name. -/
theorem underscore_notMem_idText (value : Option ℤ) : '_' ∉ idText value := by
  cases value with
  | none => decide
  | some i =>
    rw [idText_some]
    exact notMem_repr i (by decide) (by decide)

/-- Different identifiers are rendered differently: integers as decimals, and a missing one as a
word. -/
theorem idText_injective : Function.Injective idText := by
  have hdefault : ∀ i : ℤ, idText none ≠ idText (some i) := by
    intro i h
    have hletter : 'd' ∈ idText none := by decide
    rw [h, idText_some] at hletter
    exact notMem_repr i (by decide) (by decide) hletter
  intro value value' h
  cases value with
  | none =>
    cases value' with
    | none => rfl
    | some j => exact absurd h (hdefault j)
  | some i =>
    cases value' with
    | none => exact absurd h.symm (hdefault i)
    | some j =>
      rw [idText_some, idText_some] at h
      rw [toList_repr_injective h]

theorem toList_collectionOf (deploymentId nodeId : Option ℤ) :
    (collectionOf deploymentId nodeId).toList =
      chromaCollectionPrefix.toList ++ (idText deploymentId ++ '_' :: idText nodeId) := by
  have hparts : collectionOf deploymentId nodeId = chromaCollectionPrefix ++
      (orDefault (coerceIdToStr deploymentId) ++ ("_" ++ orDefault (coerceIdToStr nodeId))) := by
    simp only [collectionOf, chromaCollectionName, String.append_assoc]
    rfl
  rw [hparts, String.toList_append, String.toList_append, String.toList_append]
  rfl

/-- Different pairs of identifiers have different collections. -/
theorem collectionOf_injective {deploymentId nodeId deploymentId' nodeId' : Option ℤ}
    (h : collectionOf deploymentId nodeId = collectionOf deploymentId' nodeId') :
    deploymentId = deploymentId' ∧ nodeId = nodeId' := by
  have hlist := congrArg String.toList h
  rw [toList_collectionOf, toList_collectionOf, List.append_cancel_left_eq,
    List.append_cons_inj_of_notMem (underscore_notMem_idText _) (underscore_notMem_idText _)]
    at hlist
  exact ⟨idText_injective hlist.1, idText_injective hlist.2.2⟩

/-! ### Sequences of calls -/

/-- The collections, each with the records upserted into it, the last one at the end. -/
abbrev Collections : Type := String → List ChromaRecord

/-- How one upsert ends: whether it takes effect, and what the client gets back. -/
structure UpsertAnswer where
  stored : Bool
  response : Except PyException Unit

/-- An upsert on the collections. -/
def UpsertAnswer.upsert (answer : UpsertAnswer) (collection : String) (record : ChromaRecord)
    (collections : Collections) : Except PyException Unit × Collections :=
  (answer.response,
    if answer.stored then
      Function.update collections collection (collections collection ++ [record])
    else collections)

/-- One call of `write_metadata`, and how its upsert ends. -/
structure MetadataWrite where
  documentId : String
  sidecar : SidecarDocument
  deploymentId : Option ℤ
  nodeId : Option ℤ
  answer : UpsertAnswer

/-- The call on the collections. -/
def MetadataWrite.run (write : MetadataWrite) (collections : Collections) : Bool × Collections :=
  writeMetadata write.answer.upsert write.documentId write.sidecar write.deploymentId write.nodeId
    collections

/-- What the collections hold after a sequence of calls. -/
def writeAll (writes : List MetadataWrite) : Collections :=
  writes.foldl (fun collections write => (write.run collections).2) fun _ => []

theorem writeAll_concat (writes : List MetadataWrite) (write : MetadataWrite) :
    writeAll (writes ++ [write]) = (write.run (writeAll writes)).2 := by
  simp [writeAll]

/-- A call adds its record to the collection of its pair, if the upsert is stored. -/
theorem run_eq (write : MetadataWrite) (collections : Collections) :
    (write.run collections).2 = if write.answer.stored then
      Function.update collections (collectionOf write.deploymentId write.nodeId)
        (collections (collectionOf write.deploymentId write.nodeId) ++
          [chromaRecord write.documentId write.sidecar])
    else collections := by
  obtain ⟨documentId, sidecar, deploymentId, nodeId, ⟨stored, response⟩⟩ := write
  cases response <;> rfl

/-- A collection holds the records of the stored upserts into it. -/
theorem mem_writeAll {writes : List MetadataWrite} {collection : String} {record : ChromaRecord} :
    record ∈ writeAll writes collection ↔ ∃ write ∈ writes, write.answer.stored = true ∧
      collectionOf write.deploymentId write.nodeId = collection ∧
      chromaRecord write.documentId write.sidecar = record := by
  induction writes using List.reverseRecOn with
  | nil => simp [writeAll]
  | append_singleton writes write ih =>
    have hadded : record ∈ writeAll (writes ++ [write]) collection ↔
        record ∈ writeAll writes collection ∨ write.answer.stored = true ∧
          collectionOf write.deploymentId write.nodeId = collection ∧
          chromaRecord write.documentId write.sidecar = record := by
      rw [writeAll_concat, run_eq]
      by_cases hstored : write.answer.stored = true
      · rw [if_pos hstored]
        by_cases hname : collectionOf write.deploymentId write.nodeId = collection
        · subst hname
          rw [Function.update_self, List.mem_append, List.mem_singleton]
          exact or_congr_right ⟨fun h => ⟨hstored, rfl, h.symm⟩, fun h => h.2.2.symm⟩
        · rw [Function.update_of_ne (Ne.symm hname)]
          exact (or_iff_left fun h => hname h.2.1).symm
      · rw [if_neg hstored]
        exact (or_iff_left fun h => hstored h.1).symm
    simp only [hadded, ih, List.mem_append, List.mem_singleton, or_and_right, exists_or,
      exists_eq_left]

/-- What a call does to one collection: nothing, unless it is the one of its own pair. -/
theorem run_collectionOf (write : MetadataWrite) (collections : Collections)
    (deploymentId nodeId : Option ℤ) :
    (write.run collections).2 (collectionOf deploymentId nodeId) =
      collections (collectionOf deploymentId nodeId) ++
        if write.deploymentId = deploymentId ∧ write.nodeId = nodeId ∧ write.answer.stored then
          [chromaRecord write.documentId write.sidecar]
        else [] := by
  rw [run_eq]
  by_cases hpair : write.deploymentId = deploymentId ∧ write.nodeId = nodeId
  · obtain ⟨rfl, rfl⟩ := hpair
    by_cases hstored : write.answer.stored = true <;> simp [hstored]
  · have hname : collectionOf deploymentId nodeId ≠
        collectionOf write.deploymentId write.nodeId := by
      intro h
      obtain ⟨hdeployment, hnode⟩ := collectionOf_injective h
      exact hpair ⟨hdeployment.symm, hnode.symm⟩
    have hother : ¬(write.deploymentId = deploymentId ∧ write.nodeId = nodeId ∧
        write.answer.stored = true) :=
      fun h => hpair ⟨h.1, h.2.1⟩
    rw [if_neg hother, List.append_nil]
    by_cases hstored : write.answer.stored = true <;> simp [hstored, Function.update_of_ne hname]

/-- The writes of one pair. -/
def writesOf (deploymentId nodeId : Option ℤ) (writes : List MetadataWrite) :
    List MetadataWrite :=
  writes.filter fun write => decide (write.deploymentId = deploymentId ∧ write.nodeId = nodeId)

/-- A collection holds what the writes of its own pair have put there. -/
theorem writeAll_collectionOf (writes : List MetadataWrite) (deploymentId nodeId : Option ℤ) :
    writeAll writes (collectionOf deploymentId nodeId) =
      writeAll (writesOf deploymentId nodeId writes) (collectionOf deploymentId nodeId) := by
  induction writes using List.reverseRecOn with
  | nil => rfl
  | append_singleton writes write ih =>
    have hsplit : writesOf deploymentId nodeId (writes ++ [write]) =
        writesOf deploymentId nodeId writes ++ writesOf deploymentId nodeId [write] :=
      List.filter_append _ _
    rw [writeAll_concat, run_collectionOf, ih, hsplit]
    by_cases hpair : write.deploymentId = deploymentId ∧ write.nodeId = nodeId
    · have hone : writesOf deploymentId nodeId [write] = [write] := by simp [writesOf, hpair]
      rw [hone, writeAll_concat, run_collectionOf]
    · have hnone : writesOf deploymentId nodeId [write] = [] := by simp [writesOf, hpair]
      have hother : ¬(write.deploymentId = deploymentId ∧ write.nodeId = nodeId ∧
          write.answer.stored = true) := fun h => hpair ⟨h.1, h.2.1⟩
      rw [hnone, List.append_nil, if_neg hother, List.append_nil]

/-- Two pairs of identifiers with one collection are equal, so no write reaches the collection of
another pair. -/
theorem collections_isolated :
    (Function.Injective fun pair : Option ℤ × Option ℤ => collectionOf pair.1 pair.2) ∧
      ∀ (writes : List MetadataWrite) (deploymentId nodeId : Option ℤ),
        writeAll writes (collectionOf deploymentId nodeId) =
          writeAll (writesOf deploymentId nodeId writes) (collectionOf deploymentId nodeId) := by
  refine ⟨fun pair pair' h => ?_, writeAll_collectionOf⟩
  obtain ⟨hdeployment, hnode⟩ := collectionOf_injective h
  exact Prod.ext hdeployment hnode

end ZubotIngestion
