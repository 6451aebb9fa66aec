import Mathlib.Data.List.DropRight
import ZubotIngestion.Domain.Entities
import ZubotIngestion.Store.Addressed

/-!
# The search indexer

`ElasticsearchSearchIndexer.index_companion` of `infrastructure/elasticsearch/indexer.py`. A
companion is PUT to a URL, and the cluster keeps one body for each URL. The HTTP client is open: it
may store the body or not, and answer with a status or an exception.

The URL is made of the base URL and the document identifier. The deployment enters the body only,
so the index is the same for all deployments.

## Main definitions

* `ElasticsearchSearchIndexer`, `documentUrl`, `buildDocument`, `indexCompanion`.
* `IndexRequest`, `indexAll`: a sequence of calls and what the cluster holds after it.
* `KeepsDeployments`: no call changes a document of another deployment.

## Main results

* `keepsDeployments_iff`: this holds exactly when no two deployments index the same identifier.
-/

namespace ZubotIngestion

open Store

/-- `text.rstrip("/")`. -/
def rstripSlash (text : String) : String := String.ofList (text.toList.rdropWhile fun c => c == '/')

/-- The indexer, seen through its base URL. -/
structure ElasticsearchSearchIndexer where
  baseUrl : String

namespace ElasticsearchSearchIndexer

/-- `__init__` strips trailing slashes. -/
def new (baseUrl : String) : ElasticsearchSearchIndexer := ⟨rstripSlash baseUrl⟩

/-- The URL a companion is PUT to. -/
def documentUrl (indexer : ElasticsearchSearchIndexer) (documentId : String) : String :=
  s!"{indexer.baseUrl}/companions/_doc/{documentId}"

end ElasticsearchSearchIndexer

/-- `None` or an integer, as a value. -/
def PyVal.ofOptionInt : Option ℤ → PyVal
  | .some i => .int i
  | .none => .none

/-- `None` or a float, as a value. -/
def PyVal.ofOptionFloat : Option PyFloat → PyVal
  | .some f => .float f
  | .none => .none

/-- `_build_document`. -/
def buildDocument (documentId : String) (extraction : ExtractionResult)
    (companion : CompanionResult) (deploymentId : Option ℤ) : Dict :=
  [("document_id", .str documentId),
    ("deployment_id", .ofOptionInt deploymentId),
    ("companion_text", .str companion.companionText),
    ("pages_described", .int companion.pagesDescribed),
    ("companion_generated", .bool companion.companionGenerated),
    ("extraction", .dict
      [("drawing_number", .ofOptionStr extraction.drawingNumber),
        ("drawing_number_confidence", .float extraction.drawingNumberConfidence),
        ("title", .ofOptionStr extraction.title),
        ("title_confidence", .float extraction.titleConfidence),
        ("document_type", .ofOptionStr (extraction.documentType.map DocumentType.value)),
        ("document_type_confidence", .float extraction.documentTypeConfidence),
        ("discipline", .ofOptionStr (extraction.discipline.map Discipline.value)),
        ("revision", .ofOptionStr extraction.revision),
        ("building_zone", .ofOptionStr extraction.buildingZone),
        ("project", .ofOptionStr extraction.project)]),
    ("tier", .ofOptionStr (extraction.confidenceTier.map ConfidenceTier.value)),
    ("confidence_score", .ofOptionFloat extraction.confidenceScore)]

/-- `index_companion`, for an HTTP client `put` with state `s`: whether the response was a 2xx,
and the state behind the call. Nothing is raised. -/
def indexCompanion {σ : Type} (put : String → Dict → σ → Except PyException ℤ × σ)
    (indexer : ElasticsearchSearchIndexer) (documentId : String) (extraction : ExtractionResult)
    (companion : CompanionResult) (deploymentId : Option ℤ) (s : σ) : Bool × σ :=
  match put (indexer.documentUrl documentId)
      (buildDocument documentId extraction companion deploymentId) s with
  | (.ok status, s') => (decide (200 ≤ status ∧ status < 300), s')
  | (.error _, s') => (false, s')

/-! ### Sequences of calls -/

/-- The cluster: one body for each URL. -/
abbrev Cluster : Type := String → Option Dict

/-- How one PUT ends: whether the cluster stores the body, and what the client gets back. -/
structure PutAnswer where
  stored : Bool
  response : Except PyException ℤ

/-- A PUT on the cluster. -/
def PutAnswer.put (answer : PutAnswer) (url : String) (body : Dict) (cluster : Cluster) :
    Except PyException ℤ × Cluster :=
  (answer.response, if answer.stored then Function.update cluster url (some body) else cluster)

/-- One call of `index_companion`, and how its PUT ends. -/
structure IndexRequest where
  documentId : String
  extraction : ExtractionResult
  companion : CompanionResult
  deploymentId : Option ℤ
  answer : PutAnswer

/-- The document of a call. -/
def IndexRequest.document (request : IndexRequest) : Dict :=
  buildDocument request.documentId request.extraction request.companion request.deploymentId

/-- The call on a cluster. -/
def IndexRequest.run (indexer : ElasticsearchSearchIndexer) (request : IndexRequest)
    (cluster : Cluster) : Bool × Cluster :=
  indexCompanion request.answer.put indexer request.documentId request.extraction
    request.companion request.deploymentId cluster

/-- What the cluster holds after a sequence of calls. -/
def indexAll (indexer : ElasticsearchSearchIndexer) (requests : List IndexRequest) : Cluster :=
  requests.foldl (fun cluster request => (request.run indexer cluster).2) fun _ => none

/-- No call changes the document that a call of another deployment has indexed. -/
def KeepsDeployments (indexer : ElasticsearchSearchIndexer) (requests : List IndexRequest) : Prop :=
  ∀ pre request post, requests = pre ++ request :: post → ∀ earlier ∈ pre,
    earlier.answer.stored = true → earlier.deploymentId ≠ request.deploymentId →
    indexAll indexer (pre ++ [request]) (indexer.documentUrl earlier.documentId) =
      indexAll indexer pre (indexer.documentUrl earlier.documentId)

/-- The calls as requests to a store with one owner for each deployment. -/
def companionLayout (indexer : ElasticsearchSearchIndexer) :
    Layout IndexRequest String Dict (Option ℤ) where
  applied := fun request => request.answer.stored
  address := fun request => indexer.documentUrl request.documentId
  body := IndexRequest.document
  owner := IndexRequest.deploymentId

/-- A call puts its document at its URL, if the PUT is stored. -/
theorem run_eq_put (indexer : ElasticsearchSearchIndexer) (request : IndexRequest)
    (cluster : Cluster) :
    (request.run indexer cluster).2 = (companionLayout indexer).put cluster request := by
  obtain ⟨documentId, extraction, companion, deploymentId, ⟨stored, response⟩⟩ := request
  cases response <;> rfl

theorem indexAll_eq_contents (indexer : ElasticsearchSearchIndexer)
    (requests : List IndexRequest) :
    indexAll indexer requests = (companionLayout indexer).contents requests := by
  simp only [indexAll, Layout.contents, run_eq_put]

theorem ofOptionInt_injective : Function.Injective PyVal.ofOptionInt := by
  intro i j h
  cases i <;> cases j <;> simp_all [PyVal.ofOptionInt]

theorem get?_buildDocument (documentId : String) (extraction : ExtractionResult)
    (companion : CompanionResult) (deploymentId : Option ℤ) :
    Dict.get? (buildDocument documentId extraction companion deploymentId) "deployment_id" =
      some (.ofOptionInt deploymentId) :=
  rfl

/-- A document names its deployment. -/
theorem deploymentId_eq_of_document_eq {request request' : IndexRequest}
    (h : request.document = request'.document) : request.deploymentId = request'.deploymentId := by
  have hitem := congrArg (fun document => Dict.get? document "deployment_id") h
  simp only [IndexRequest.document, get?_buildDocument, Option.some.injEq] at hitem
  exact ofOptionInt_injective hitem

/-- Two identifiers have the same URL only if they are equal. -/
theorem documentUrl_injective (indexer : ElasticsearchSearchIndexer) :
    Function.Injective indexer.documentUrl := by
  intro documentId documentId' h
  have hpart : toString documentId = toString documentId' := by
    simpa [ElasticsearchSearchIndexer.documentUrl] using h
  exact hpart

/-- The cluster has a document for an identifier as soon as a PUT of one has been stored. -/
theorem isSome_indexAll_iff (indexer : ElasticsearchSearchIndexer) (requests : List IndexRequest)
    (documentId : String) : (indexAll indexer requests (indexer.documentUrl documentId)).isSome ↔
      ∃ request ∈ requests, request.answer.stored = true ∧ request.documentId = documentId := by
  rw [indexAll_eq_contents, Layout.isSome_contents_iff]
  refine exists_congr fun request => and_congr_right fun _ => and_congr_right fun _ => ?_
  exact (documentUrl_injective indexer).eq_iff

theorem keepsDeployments_iff_isolated (indexer : ElasticsearchSearchIndexer)
    (requests : List IndexRequest) :
    KeepsDeployments indexer requests ↔ (companionLayout indexer).Isolated requests := by
  simp only [KeepsDeployments, indexAll_eq_contents]
  exact Iff.rfl

/-- No call changes a document of another deployment exactly when no two calls whose PUT is stored
have the same identifier and different deployments. -/
theorem keepsDeployments_iff (indexer : ElasticsearchSearchIndexer)
    (requests : List IndexRequest) :
    KeepsDeployments indexer requests ↔
      ∀ request ∈ requests, ∀ request' ∈ requests, request.answer.stored = true →
        request'.answer.stored = true → request.documentId = request'.documentId →
        request.deploymentId = request'.deploymentId := by
  rw [keepsDeployments_iff_isolated,
    Layout.isolated_iff fun _ _ h => deploymentId_eq_of_document_eq h]
  refine forall₂_congr fun request _ => forall₂_congr fun request' _ => ?_
  refine forall₂_congr fun _ _ => imp_congr_left ?_
  exact (documentUrl_injective indexer).eq_iff

/-- The indexer of the default cluster. -/
def localIndexer : ElasticsearchSearchIndexer := .new "http://elasticsearch:9200"

/-- A companion of the file `9f86d081`, indexed for a deployment and stored. -/
def planCompanion (deploymentId : ℤ) : IndexRequest where
  documentId := "9f86d081"
  extraction := ⟨none, 0, none, 0, none, 0, none, none, none, none, [], none, none, none, none⟩
  companion := ⟨"A plan.", 1, true, true, none⟩
  deploymentId := some deploymentId
  answer := ⟨true, .ok 201⟩

/-- Deployments `1` and `2` index the same file: the second call replaces the document of the
first. -/
theorem not_keepsDeployments_two :
    ¬KeepsDeployments localIndexer [planCompanion 1, planCompanion 2] := by
  intro h
  rw [keepsDeployments_iff_isolated] at h
  have hseparated := h.separated fun _ _ h => deploymentId_eq_of_document_eq h
  have hsame := hseparated (planCompanion 1) (by simp) (planCompanion 2) (by simp) rfl rfl rfl
  exact absurd hsame (by decide)

end ZubotIngestion
