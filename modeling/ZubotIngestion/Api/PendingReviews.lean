import ZubotIngestion.Infrastructure.Database

/-!
# Pages of the pending-review queue

`GET /review/pending` of `api/routes/review.py` over `get_pending_reviews`. The items query sorts
by `created_at` alone, so the database may list jobs of one `created_at` in any order, and in
another order for the next page. The handler turns `limit` and `offset` into a page number by
integer division.

## Main definitions

* `IsPendingOrder`: the lists the items query may read its window from.
* `pendingPage`: `get_pending_reviews` for such a list; `getReviewPending`: the handler over it.
* `TieStraddles`: jobs of one `created_at` on both sides of a position.

## Main results

* `getReviewPending_exact_iff`: when the handler skips exactly `offset` items.
* `pendingPages_exact_iff`: when the pages list every pending job exactly once.
-/

namespace ZubotIngestion

open Store

/-! ### The query -/

/-- The rows the filter of the query selects. -/
def selectedRows (table : JobTable) : List JobRow :=
  table.rows.filter fun row => decide (IsPending row)

/-- A list of the pending rows, newest first, as the database may produce it for one query. -/
abbrev IsPendingOrder (table : JobTable) (order : List JobRow) : Prop :=
  IsOrder JobRow.createdAt (selectedRows table) order

/-- `get_pending_reviews`, if the items query reads its window from `order`. The count query is
one of its own. -/
def pendingPage (table : JobTable) (order : List JobRow) (page perPage : ℤ) :
    PaginatedResult Job :=
  let page := (max 1 page).toNat
  let perPage := (max 1 perPage).toNat
  let offset := (page - 1) * perPage
  let total := (selectedRows table).length
  { items := (window order offset perPage).map toJob
    total := total
    page := page
    perPage := perPage
    totalPages := (total + perPage - 1) / perPage }

/-- The stable order is one the database may choose. -/
theorem isPendingOrder_pendingRows (table : JobTable) :
    IsPendingOrder table (pendingRows table) := by
  have : Std.Total fun row row' : JobRow => row'.createdAt ≤ row.createdAt :=
    ⟨fun row row' => le_total row'.createdAt row.createdAt⟩
  have : IsTrans JobRow fun row row' => row'.createdAt ≤ row.createdAt :=
    ⟨fun _ _ _ h h' => h'.trans h⟩
  exact ⟨perm_pendingRows table, List.pairwise_insertionSort _ _⟩

theorem nodup_map_id_selectedRows (table : JobTable) :
    ((selectedRows table).map JobRow.id).Nodup :=
  table.nodup.sublist (List.filter_sublist.map JobRow.id)

/-! ### The handler -/

/-- `_extract_field`. -/
def extractField (result : Option Dict) (key : String) : PyVal :=
  match result.bind (Dict.get? · key) with
  | some (.dict fields) =>
    match Dict.get? fields "value" with
    | some value => value
    | none => .dict fields
  | some value => value
  | none => .none

/-- A list item of the response. Identifiers and times are rendered as strings there. -/
structure PendingItem where
  jobId : JobId
  drawingNumber : PyVal
  title : PyVal
  confidenceTier : Option String
  confidenceScore : Option PyFloat
  createdAt : Timestamp

/-- `_serialize_job_summary`. -/
def serializeJobSummary (job : Job) : PendingItem where
  jobId := job.jobId
  drawingNumber := extractField job.result "drawing_number"
  title := extractField job.result "title"
  confidenceTier := job.confidenceTier.map ConfidenceTier.value
  confidenceScore := job.overallConfidence.filter fun score => decide (score ≠ .nan)
  createdAt := job.createdAt

/-- The content of the response. -/
structure PendingResponse where
  items : List PendingItem
  limit : ℤ
  offset : ℤ
  total : ℕ

/-- `get_review_pending`. The declared bounds are `1 ≤ limit ≤ 500` and `0 ≤ offset`. -/
def getReviewPending (table : JobTable) (order : List JobRow) (limit : ℤ := 50) (offset : ℤ := 0) :
    PendingResponse :=
  let perPage := max 1 limit
  let page := offset / perPage + 1
  let paginated := pendingPage table order page perPage
  { items := paginated.items.map serializeJobSummary
    limit := limit
    offset := offset
    total := paginated.total }

/-- The items at the positions `offset, …, offset + limit - 1` of the ordered list. -/
def requestedItems (order : List JobRow) (limit offset : ℤ) : List PendingItem :=
  (window order offset.toNat limit.toNat).map fun row => serializeJobSummary (toJob row)

/-- The handler returns a window that starts at the last multiple of `limit` up to `offset`. -/
theorem items_getReviewPending (table : JobTable) (order : List JobRow) {limit offset : ℤ}
    (hlimit : 1 ≤ limit) (hoffset : 0 ≤ offset) :
    (getReviewPending table order limit offset).items =
      requestedItems order limit (offset / limit * limit) := by
  have hquot : 0 ≤ offset / limit := Int.ediv_nonneg hoffset (by omega)
  have hperPage : max 1 (max 1 limit) = limit := by omega
  have hpage : max 1 (offset / limit + 1) = offset / limit + 1 := by omega
  have hstart :
      ((offset / limit + 1).toNat - 1) * limit.toNat = (offset / limit * limit).toNat := by
    rw [Int.toNat_mul hquot (by omega)]
    congr 1
    omega
  simp only [getReviewPending, pendingPage, requestedItems, max_eq_right hlimit, hpage, hstart,
    List.map_map]
  rfl

theorem total_getReviewPending {table : JobTable} {order : List JobRow}
    (horder : IsPendingOrder table order) (limit offset : ℤ) :
    (getReviewPending table order limit offset).total = order.length :=
  horder.length_eq.symm

/-- Two windows of items are the same iff the windows of rows are, since every item carries its
identifier. -/
theorem requestedItems_eq_iff {table : JobTable} {order : List JobRow}
    (horder : IsPendingOrder table order) {limit : ℤ} (hlimit : 1 ≤ limit) (a b : ℤ) :
    requestedItems order limit a = requestedItems order limit b ↔
      a.toNat = b.toNat ∨ order.length ≤ a.toNat ∧ order.length ≤ b.toNat := by
  have hids : (order.map JobRow.id).Nodup :=
    (horder.perm.map JobRow.id).nodup_iff.mpr (nodup_map_id_selectedRows table)
  have hitems : (order.map fun row => serializeJobSummary (toJob row)).Nodup := by
    refine List.Nodup.of_map PendingItem.jobId ?_
    rwa [List.map_map]
  rw [requestedItems, requestedItems, map_window, map_window,
    window_eq_window_iff hitems (by omega), List.length_map]

/-- The response lists exactly the items at the requested positions iff `offset` is a multiple of
`limit`, or the window that starts at the multiple below it is empty. -/
theorem getReviewPending_exact_iff {table : JobTable} {order : List JobRow}
    (horder : IsPendingOrder table order) {limit offset : ℤ} (hlimit : 1 ≤ limit)
    (hoffset : 0 ≤ offset) :
    ((getReviewPending table order limit offset).items = requestedItems order limit offset ∧
      (getReviewPending table order limit offset).total = order.length) ↔
      limit ∣ offset ∨ (order.length : ℤ) ≤ offset / limit * limit := by
  have hquot : 0 ≤ offset / limit * limit :=
    mul_nonneg (Int.ediv_nonneg hoffset (by omega)) (by omega)
  have hle : offset / limit * limit ≤ offset := Int.ediv_mul_le offset (by omega)
  have hdvd : limit ∣ offset ↔ offset / limit * limit = offset :=
    ⟨Int.ediv_mul_cancel, fun h => ⟨offset / limit, by rw [mul_comm, h]⟩⟩
  rw [items_getReviewPending table order hlimit hoffset, requestedItems_eq_iff horder hlimit,
    and_iff_left (total_getReviewPending horder limit offset), hdvd]
  omega

/-- A review-tier job that was created at `createdAt` and awaits its review. -/
def waitingRow (id : JobId) (createdAt : Timestamp) : JobRow where
  id := id
  batchId := 0
  filename := "drawing.pdf"
  fileHash := "hash"
  filePath := none
  status := .review
  result := some []
  confidenceTier := some .review
  confidenceScore := some (.fin (1 / 4))
  processingTimeMs := none
  otelTraceId := none
  errorMessage := none
  pipelineTrace := none
  createdAt := createdAt
  updatedAt := createdAt

/-- Three jobs created one after the other. -/
def threeJobs : JobTable := ⟨[waitingRow 0 10, waitingRow 1 11, waitingRow 2 12], by decide⟩

/-- The second page of two is exact. -/
theorem getReviewPending_threeJobs_second_page :
    (getReviewPending threeJobs (pendingRows threeJobs) 2 2).items =
        requestedItems (pendingRows threeJobs) 2 2 ∧
      (getReviewPending threeJobs (pendingRows threeJobs) 2 2).total =
        (pendingRows threeJobs).length :=
  (getReviewPending_exact_iff (isPendingOrder_pendingRows threeJobs) (by decide) (by decide)).mpr
    (.inl (by decide))

/-- With `limit = 2` and `offset = 1` the newest job is not skipped. -/
theorem not_forall_requestedItems :
    ¬ ∀ (table : JobTable) (order : List JobRow), IsPendingOrder table order →
      ∀ limit offset : ℤ, 1 ≤ limit → 0 ≤ offset →
        (getReviewPending table order limit offset).items = requestedItems order limit offset ∧
          (getReviewPending table order limit offset).total = order.length := by
  intro hexact
  have hitems := (hexact threeJobs (pendingRows threeJobs) (isPendingOrder_pendingRows threeJobs)
    2 1 (by decide) (by decide)).1
  have hids : (getReviewPending threeJobs (pendingRows threeJobs) 2 1).items.map PendingItem.jobId =
      [2, 1] := by decide
  rw [hitems] at hids
  exact absurd hids (by decide)

/-! ### The pages of the whole queue -/

/-- The jobs on the pages `1, …, total_pages`, where the database reads page `k + 1` from
`order k`. -/
def pagedJobs (table : JobTable) (order : ℕ → List JobRow) (perPage : ℤ) : List Job :=
  (List.range (pendingPage table (order 0) 1 perPage).totalPages).flatMap fun k : ℕ =>
    (pendingPage table (order k) (k + 1) perPage).items

/-- Pending jobs of one `created_at` lie on both sides of the border of two pages. -/
def TieStraddles (table : JobTable) (perPage : ℤ) : Prop :=
  ∃ t k, Straddles JobRow.createdAt (selectedRows table) t (k * (max 1 perPage).toNat)

theorem pagedJobs_eq (table : JobTable) (order : ℕ → List JobRow) (perPage : ℤ) :
    pagedJobs table order perPage =
      ((List.range (pendingPage table (order 0) 1 perPage).totalPages).flatMap fun k =>
        window (order k) (k * (max 1 perPage).toNat) (max 1 perPage).toNat).map toJob := by
  have hpage : ∀ k : ℕ, (max 1 ((k : ℤ) + 1)).toNat - 1 = k := fun k => by omega
  simp only [pagedJobs, pendingPage, hpage, List.map_flatMap]

/-- The pages are enough for all rows. -/
theorem length_le_totalPages (table : JobTable) (order : List JobRow) (perPage : ℤ) :
    (selectedRows table).length ≤
      (pendingPage table order 1 perPage).totalPages * (max 1 perPage).toNat := by
  have hpos : 0 < (max 1 perPage).toNat := by omega
  have hdiv := Nat.lt_mul_div_succ ((selectedRows table).length + (max 1 perPage).toNat - 1) hpos
  rw [Nat.mul_add, Nat.mul_one, Nat.mul_comm] at hdiv
  simp only [pendingPage]
  omega

/-- If no jobs of one `created_at` lie on both sides of a page border, the pages list every pending
job once, in whatever order each of them is read. -/
theorem pagedJobs_perm {table : JobTable} {perPage : ℤ} (hborders : ¬ TieStraddles table perPage)
    {order : ℕ → List JobRow} (horder : ∀ k, IsPendingOrder table (order k)) :
    (pagedJobs table order perPage).Perm ((selectedRows table).map toJob) := by
  rw [pagedJobs_eq]
  refine (windows_perm (length_le_totalPages table (order 0) perPage) ?_ order horder).map toJob
  exact fun t k hstraddles => hborders ⟨t, k, hstraddles⟩

/-- Otherwise some orders put a job on two pages. -/
theorem not_tieStraddles_of_perm {table : JobTable} {perPage : ℤ}
    (hexact : ∀ order : ℕ → List JobRow, (∀ k, IsPendingOrder table (order k)) →
      (pagedJobs table order perPage).Perm ((selectedRows table).map toJob)) :
    ¬ TieStraddles table perPage := by
  have hjobs : ((selectedRows table).map toJob).Nodup := by
    refine List.Nodup.of_map Job.jobId ?_
    rw [List.map_map]
    exact nodup_map_id_selectedRows table
  rintro ⟨t, k, hstraddles⟩
  refine not_straddles_of_nodup (length_le_totalPages table [] perPage) ?_ t k hstraddles
  intro order horder
  have hperm := hexact order horder
  rw [pagedJobs_eq] at hperm
  exact (hperm.nodup_iff.mpr hjobs).of_map toJob

/-- The pages list every pending job exactly once, whatever order the database chooses for each of
them, iff no jobs of one `created_at` lie on both sides of a page border. -/
theorem pendingPages_exact_iff (table : JobTable) (perPage : ℤ) :
    (∀ order : ℕ → List JobRow, (∀ k, IsPendingOrder table (order k)) →
      (pagedJobs table order perPage).Perm ((selectedRows table).map toJob)) ↔
      ¬ TieStraddles table perPage :=
  ⟨not_tieStraddles_of_perm, fun hborders _ horder => pagedJobs_perm hborders horder⟩

/-- A batch that is pending as a whole has one `created_at`: its pages are exact only if it fits
on one of them. -/
theorem tieStraddles_iff_of_batch {table : JobTable} {t : Timestamp}
    (hbatch : ∀ row ∈ selectedRows table, row.createdAt = t) (perPage : ℤ) :
    TieStraddles table perPage ↔ (max 1 perPage).toNat < (selectedRows table).length := by
  constructor
  · rintro ⟨t', k, habove, hatLeast⟩
    have hcount := List.countP_le_length (p := atLeast JobRow.createdAt t')
      (l := selectedRows table)
    have hk : 0 < k := Nat.pos_of_mul_pos_right (Nat.zero_lt_of_lt habove)
    have hpage := Nat.le_mul_of_pos_left (max 1 perPage).toNat hk
    omega
  · intro hlen
    have habove : (selectedRows table).countP (above JobRow.createdAt t) = 0 :=
      List.countP_eq_zero.mpr fun row hrow => by simp [above, hbatch row hrow]
    have hatLeast : (selectedRows table).countP (atLeast JobRow.createdAt t) =
        (selectedRows table).length :=
      List.countP_eq_length.mpr fun row hrow => by simp [atLeast, hbatch row hrow]
    exact ⟨t, 1, by rw [habove]; omega, by rw [hatLeast]; omega⟩

/-- Two jobs of one batch. -/
def twoJobs : JobTable := ⟨[waitingRow 0 10, waitingRow 1 10], by decide⟩

/-- Two pages of one job each may both show the same job. -/
theorem not_forall_pagedJobs_perm :
    ¬ ∀ (table : JobTable) (perPage : ℤ), 1 ≤ perPage → ∀ order : ℕ → List JobRow,
      (∀ k, IsPendingOrder table (order k)) →
        (pagedJobs table order perPage).Perm ((selectedRows table).map toJob) := by
  intro hexact
  have hpages := hexact twoJobs 1 le_rfl
    (fun k => if k = 0 then [waitingRow 0 10, waitingRow 1 10]
      else [waitingRow 1 10, waitingRow 0 10])
    fun k => by
      split_ifs
      · exact ⟨List.Perm.refl _, by decide⟩
      · exact ⟨List.Perm.swap _ _ _, by decide⟩
  have hids := hpages.map Job.jobId
  exact absurd hids (by decide)

end ZubotIngestion
