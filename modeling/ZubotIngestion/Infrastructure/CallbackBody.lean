import ZubotIngestion.Infrastructure.Callback
import ZubotIngestion.Python.JsonDumps
import ZubotIngestion.Text.Edges

/-!
# The signed body of a webhook

The payload of a webhook is a dictionary, which is serialised with sorted keys and without blanks.
The signature is computed over these bytes. They determine the payload, and nothing but the payload
goes into them: the order in which the keys of the result were inserted does not. So a receiver that
trusts the signature of a body trusts exactly one payload.

The texts of UUIDs, of times and of floats are parameters.

## Main definitions

* `PayloadText`, `payloadDict`, `serialiseBody`.
* `WebhookPayload.Same`: payloads with the same values.

## Main results

* `serialiseBody_eq_iff`: which payloads have one body.
-/

namespace ZubotIngestion

/-- How the values of a payload are written. -/
structure PayloadText where
  /-- `str(uuid)`. -/
  uuid : ℕ → String
  /-- `value.isoformat()`. -/
  isoformat : Timestamp → String
  float : FloatText

/-- A value or `None`. -/
def optional {α : Type} (f : α → PyVal) : Option α → PyVal
  | some a => f a
  | none => .none

/-- The dictionary of a payload, in the order of the source. -/
def payloadDict (text : PayloadText) (p : WebhookPayload) : Dict :=
  [("job_id", .str (text.uuid p.jobId)), ("batch_id", .str (text.uuid p.batchId)),
    ("filename", .str p.filename), ("file_hash", .str p.fileHash), ("status", .str p.status),
    ("confidence_tier", optional .str p.confidenceTier),
    ("overall_confidence", optional .float p.overallConfidence),
    ("result", optional .dict p.result), ("error_message", optional .str p.errorMessage),
    ("processing_time_ms", optional .int p.processingTimeMs),
    ("otel_trace_id", optional .str p.otelTraceId),
    ("created_at", .str (text.isoformat p.createdAt)),
    ("updated_at", .str (text.isoformat p.updatedAt))]

/-- `_serialise_body`. -/
def serialiseBody (text : PayloadText) (p : WebhookPayload) : Except PyException Bytes :=
  (dumps text.float (.dict (payloadDict text p))).map fun json => json.toUTF8.data.toList

/-- The result with the items of all its dictionaries sorted by their keys. -/
def sortedResult (p : WebhookPayload) : Option PyVal := p.result.map fun d => sortKeys (.dict d)

/-- The payloads have the same values; the order of keys in their results may differ. -/
def WebhookPayload.Same (p q : WebhookPayload) : Prop :=
  { p with result := none } = { q with result := none } ∧ sortedResult p = sortedResult q

/-! ### Bodies -/

/-- Bytes determine their text. -/
theorem utf8_injective {u v : String} (h : u.toUTF8.data.toList = v.toUTF8.data.toList) : u = v :=
  String.toByteArray_inj.mp (ByteArray.ext (Array.toList_inj.mp h))

/-- Values that are never `None` are told apart from it. -/
theorem optional_eq_iff {α : Type} {f : α → PyVal} (hnone : ∀ a, f a ≠ .none) {x y : Option α} :
    optional f x = optional f y ↔ x.map f = y.map f := by
  cases x <;> cases y
  · exact iff_of_true rfl rfl
  · exact iff_of_false (hnone _).symm fun h => nomatch h
  · exact iff_of_false (hnone _) fun h => nomatch h
  · exact Option.some_inj.symm

theorem optional_inj {α : Type} {f : α → PyVal} (hf : Function.Injective f)
    (hnone : ∀ a, f a ≠ .none) {x y : Option α} : optional f x = optional f y ↔ x = y :=
  (optional_eq_iff hnone).trans (Option.map_injective hf).eq_iff

theorem sortKeys_optional {α : Type} (f : α → PyVal) (x : Option α) :
    sortKeys (optional f x) = optional (fun a => sortKeys (f a)) x := by
  cases x with
  | none => rw [optional, optional, sortKeys]
  | some a => rfl

theorem keys_payloadDict (text : PayloadText) (p : WebhookPayload) :
    (payloadDict text p).map Prod.fst = ["job_id", "batch_id", "filename", "file_hash", "status",
      "confidence_tier", "overall_confidence", "result", "error_message", "processing_time_ms",
      "otel_trace_id", "created_at", "updated_at"] := rfl

/-- The dictionaries of payloads are the same iff the payloads are. -/
theorem sortKeys_payloadDict_eq_iff {text : PayloadText} (huuid : Function.Injective text.uuid)
    (hisoformat : Function.Injective text.isoformat) {p q : WebhookPayload} :
    sortKeys (.dict (payloadDict text p)) = sortKeys (.dict (payloadDict text q)) ↔ p.Same q := by
  have hnodup (p : WebhookPayload) : ((payloadDict text p).map Prod.fst).Nodup := by
    rw [keys_payloadDict]
    decide
  have hstr {x y : Option String} : optional (fun s => .str s) x = optional (fun s => .str s) y ↔
      x = y := optional_inj (fun _ _ h => PyVal.str.inj h) fun _ => PyVal.noConfusion
  have hint {x y : Option ℤ} : optional (fun i => .int i) x = optional (fun i => .int i) y ↔
      x = y := optional_inj (fun _ _ h => PyVal.int.inj h) fun _ => PyVal.noConfusion
  have hfloat {x y : Option PyFloat} : optional (fun f => .float f) x =
      optional (fun f => .float f) y ↔ x = y :=
    optional_inj (fun _ _ h => PyVal.float.inj h) fun _ => PyVal.noConfusion
  have hdict {x y : Option Dict} :
      optional (fun d => .dict ((sortMembers d).mergeSort keyLe)) x =
        optional (fun d => .dict ((sortMembers d).mergeSort keyLe)) y ↔
          x.map (fun d => PyVal.dict ((sortMembers d).mergeSort keyLe)) =
            y.map fun d => PyVal.dict ((sortMembers d).mergeSort keyLe) :=
    optional_eq_iff fun _ => PyVal.noConfusion
  rw [sortKeys_dict_eq_iff_of_keys (hnodup p) (by rw [keys_payloadDict, keys_payloadDict]),
    WebhookPayload.Same, sortedResult, sortedResult]
  simp only [payloadDict, sortMembers, List.cons.injEq, Prod.mk.injEq, true_and, and_true,
    sortKeys_optional, sortKeys, PyVal.str.injEq, huuid.eq_iff, hisoformat.eq_iff, hstr, hint,
    hfloat, hdict, WebhookPayload.mk.injEq]
  tauto

/-- A body is the text of a dictionary. -/
theorem json_of_serialiseBody {text : PayloadText} {p : WebhookPayload} {body : Bytes}
    (h : serialiseBody text p = .ok body) :
    ∃ json, dumps text.float (.dict (payloadDict text p)) = .ok json ∧
      json.toUTF8.data.toList = body := by
  rw [serialiseBody] at h
  cases hjson : dumps text.float (.dict (payloadDict text p)) with
  | error exc =>
    rw [hjson] at h
    cases h
  | ok json =>
    rw [hjson] at h
    exact ⟨json, rfl, Except.ok.inj h⟩

/-- **A body stands for one payload**: two payloads are serialised to one body, and so signed alike,
iff they have the same values, up to the order of the keys in their results. -/
theorem serialiseBody_eq_iff (text : PayloadText) (huuid : Function.Injective text.uuid)
    (hisoformat : Function.Injective text.isoformat) {p q : WebhookPayload} {body body' : Bytes}
    (hp : serialiseBody text p = .ok body) (hq : serialiseBody text q = .ok body') :
    body = body' ↔ p.Same q := by
  obtain ⟨json, hjson, rfl⟩ := json_of_serialiseBody hp
  obtain ⟨json', hjson', rfl⟩ := json_of_serialiseBody hq
  rw [← sortKeys_payloadDict_eq_iff huuid hisoformat, ← dumps_eq_iff hjson hjson']
  exact ⟨utf8_injective, fun h => by rw [h]⟩

/-! ### Two orders of keys -/

/-- Fractions with a point between numerator and denominator, for runs that write no float. -/
def fractionText : FloatText where
  text q := (toString q.num).toList ++ '.' :: (toString (q.den : ℤ)).toList
  injective q r h := by
    have hpoint (i : ℤ) : '.' ∉ (toString i).toList := fun hmem =>
      absurd (isDigit_or_eq_of_mem_toString hmem) (by decide)
    obtain ⟨hnum, hden⟩ :=
      (Text.append_cons_inj_of_notMem_left (hpoint q.num) (hpoint r.num)).mp h
    exact Rat.ext (toString_injective (String.toList_inj.mp hnum))
      (Int.natCast_inj.mp (toString_injective (String.toList_inj.mp hden)))
  chars q c hc := by
    have hint {i : ℤ} (hmem : c ∈ (toString i).toList) : c.isDigit ∨ c ∈ ['-', '+', '.', 'e'] :=
      (isDigit_or_eq_of_mem_toString hmem).imp id fun h => List.mem_cons.mpr (Or.inl h)
    rcases List.mem_append.mp hc with hnum | hc
    · exact hint hnum
    · rcases List.mem_cons.mp hc with rfl | hden
      · exact Or.inr (by decide)
      · exact hint hden
  mark q := Or.inl (List.mem_append_right _ List.mem_cons_self)

/-- The texts of a small payload. -/
def plainText : PayloadText where
  uuid n := "00000000-0000-0000-0000-00000000000" ++ toString (n : ℤ)
  isoformat t := "2026-01-01T00:00:0" ++ toString (t : ℤ) ++ "+00:00"
  float := fractionText

/-- The payload of a job with a result. -/
def planPayload (result : Dict) : WebhookPayload :=
  ⟨2, 1, "plan.pdf", "9f86d081", "completed", some "auto", none, some result, none, some 5,
    some "trace", 1, 2⟩

/-- The order in which the keys of a result were inserted is not signed. -/
theorem serialiseBody_swapped :
    ∃ body body', serialiseBody plainText
      (planPayload [("title", .str "Plan"), ("page_count", .int 3)]) = .ok body ∧
        serialiseBody plainText
          (planPayload [("page_count", .int 3), ("title", .str "Plan")]) = .ok body' ∧
            body = body' := by
  have huuid : Function.Injective plainText.uuid := fun m n h =>
    Int.natCast_inj.mp (toString_injective (String.append_right_inj _ |>.mp h))
  have hisoformat : Function.Injective plainText.isoformat := fun m n h =>
    Int.natCast_inj.mp (toString_injective
      (String.append_right_inj _ |>.mp (String.append_left_inj _ |>.mp h)))
  have hsmall (d : Dict) (hd : hasLargeMember d = false) :
      ∃ body, serialiseBody plainText (planPayload d) = .ok body := by
    have hnone : hasLargeInt (.dict (payloadDict plainText (planPayload d))) = false := by
      simp [payloadDict, planPayload, optional, hasLargeInt, hasLargeMember, hd]
      decide
    rw [serialiseBody, dumps, hnone]
    exact ⟨_, rfl⟩
  obtain ⟨body, hbody⟩ := hsmall [("title", .str "Plan"), ("page_count", .int 3)] (by decide)
  obtain ⟨body', hbody'⟩ := hsmall [("page_count", .int 3), ("title", .str "Plan")] (by decide)
  refine ⟨body, body', hbody, hbody',
    (serialiseBody_eq_iff plainText huuid hisoformat hbody hbody').mpr ⟨rfl, ?_⟩⟩
  refine congrArg some ((sortKeys_dict_eq_iff (by decide) (by decide)).mpr fun key => ?_)
  simp only [Dict.get?_cons]
  split_ifs with htitle hpages
  · exact absurd (htitle.trans hpages.symm) (by decide)
  · rfl
  · rfl
  · rfl

end ZubotIngestion
