import ZubotIngestion.Services.Environment

/-!
# The review routes

`approve_review` and `reject_review` of `api/routes/review.py`. Both load the job, check that it
is in the review tier, write the decision with `update_job_status` and load the job again. The
check looks at `confidence_tier` only. The rendering of the returned job as JSON is left out.

## Main definitions

* `approveReview`, `rejectReview`.
* `isApproved`: whether a result blob carries an approval record.

## Main results

* `isApproved_approvedResult`: an approval writes an approval record.
-/

namespace ZubotIngestion

open Effects

/-- The `job_id` path parameter: its text, `repr` of it, and the identifier it parses to. -/
structure PathJobId where
  text : String
  repr : String
  uuid? : Option JobId

/-- Body of the approve route. -/
structure ApproveRequest where
  reviewerId : String
  notes : Option String

/-- Body of the reject route. -/
structure RejectRequest where
  reviewerId : String
  reason : String

/-- A response with status 200 and a job. -/
structure ReviewResponse where
  job : Job

/-- `_parse_job_id`. -/
def parseJobId (jobId : PathJobId) : Prog JobId :=
  match jobId.uuid? with
  | some uuid => .ret uuid
  | none => .raise (.http 400 s!"Invalid job_id: {jobId.repr}")

/-- The tier as an error text names it. -/
def tierText (tier : Option ConfidenceTier) : String :=
  match tier with
  | some tier => tier.value
  | none => "none"

/-- The detail of the 409 response. -/
def notInReviewTier (job : Job) (jobId : PathJobId) : String :=
  s!"Job {jobId.text} is not in the review tier " ++
    s!"(confidence_tier={tierText job.confidenceTier}); only review-tier jobs may be " ++
    "approved or rejected"

/-- `_ensure_review_tier`. -/
def ensureReviewTier (job : Job) (jobId : PathJobId) : Prog Unit :=
  if job.confidenceTier ≠ some .review then .raise (.http 409 (notInReviewTier job jobId))
  else .ret ()

/-- The job a decision is about, if it may be decided. -/
def reviewedJob (jobId : PathJobId) (parsedId : JobId) : Prog Job := do
  match ← perform (.getJob parsedId) with
  | none => .raise (.http 404 s!"Job {jobId.text} not found")
  | some job => do
    ensureReviewTier job jobId
    return job

/-- The response of a decided job. -/
def respond (jobId : PathJobId) (updated : Option Job) : Prog ReviewResponse :=
  match updated with
  | some job => .ret ⟨job⟩
  | none => .raise (.http 404 s!"Job {jobId.text} not found after update")

/-- The approval record. -/
def approvalRecord (body : ApproveRequest) (reviewedAt : String) : Dict :=
  [("action", .str "approved"), ("reviewer_id", .str body.reviewerId),
    ("notes", .ofOptionStr body.notes), ("reviewed_at", .str reviewedAt)]

/-- The result blob with the approval record under `review`. -/
def approvedResult (result : Option Dict) (body : ApproveRequest) (reviewedAt : String) : Dict :=
  Dict.insert (result.getD []) "review" (.dict (approvalRecord body reviewedAt))

/-- `approve_review`. -/
def approveReview (jobId : PathJobId) (body : ApproveRequest) : Prog ReviewResponse := do
  let parsedId ← parseJobId jobId
  let updated ← withSession do
    let job ← reviewedJob jobId parsedId
    let reviewedAt ← perform .nowIsoformat
    perform (.updateJobStatus parsedId .completed (some (approvedResult job.result body reviewedAt))
      none)
    perform (.getJob parsedId)
  respond jobId updated

/-- The error message of a rejection. -/
def rejectionMessage (body : RejectRequest) : String :=
  s!"Rejected by {body.reviewerId}: {body.reason}"

/-- `reject_review`. -/
def rejectReview (jobId : PathJobId) (body : RejectRequest) : Prog ReviewResponse := do
  let parsedId ← parseJobId jobId
  let updated ← withSession do
    let _ ← reviewedJob jobId parsedId
    perform (.updateJobStatus parsedId .failed none (some (rejectionMessage body)))
    perform (.getJob parsedId)
  respond jobId updated

/-! ### Decisions -/

/-- A request to decide a job. -/
inductive Decision : Type where
  | approve (body : ApproveRequest)
  | reject (body : RejectRequest)

namespace Decision

/-- The handler of a decision. -/
def run (jobId : PathJobId) : Decision → Prog ReviewResponse
  | approve body => approveReview jobId body
  | reject body => rejectReview jobId body

/-- The status a decision writes. -/
def status : Decision → JobStatus
  | approve _ => .completed
  | reject _ => .failed

/-- The result blob a decision about `job` writes. -/
def blob? (job : Job) (reviewedAt : String) : Decision → Option Dict
  | approve body => some (approvedResult job.result body reviewedAt)
  | reject _ => none

/-- The error message a decision writes. -/
def message? : Decision → Option String
  | approve _ => none
  | reject body => some (rejectionMessage body)

/-- The update of a decision about `job`. -/
def update (parsedId : JobId) (job : Job) (reviewedAt : String) (d : Decision) : Op :=
  .updateJobStatus parsedId d.status (d.blob? job reviewedAt) d.message?

end Decision

/-! ### Approval records -/

/-- `result["review"]["action"]`. -/
def reviewAction? (result : Dict) : Option PyVal :=
  match result.get? "review" with
  | some (.dict record) => Dict.get? record "action"
  | _ => none

/-- Whether a result blob carries an approval record. -/
def isApproved (result : Option Dict) : Bool :=
  match result.bind reviewAction? with
  | some (.str action) => decide (action = "approved")
  | _ => false

@[simp] theorem isApproved_approvedResult (result : Option Dict) (body : ApproveRequest)
    (reviewedAt : String) : isApproved (some (approvedResult result body reviewedAt)) = true := by
  have hget : (approvedResult result body reviewedAt).get? "review" =
      some (.dict (approvalRecord body reviewedAt)) := Dict.get?_insert_self _ _ _
  have haction : reviewAction? (approvedResult result body reviewedAt) =
      some (.str "approved") := by
    rw [reviewAction?, hget]
    rfl
  rw [isApproved, Option.bind_some, haction]
  rfl

/-- A blob without a `review` key is not approved. -/
theorem not_isApproved_of_get? {result : Dict} (h : result.get? "review" = none) :
    isApproved (some result) = false := by
  rw [isApproved, Option.bind_some, reviewAction?, h]

end ZubotIngestion
