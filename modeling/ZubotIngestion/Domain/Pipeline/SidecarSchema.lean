import Mathlib.Data.List.Nodup
import ZubotIngestion.Domain.Pipeline.Sidecar

/-!
# The schema of the sidecar

The keywords of JSON Schema that `SIDECAR_JSON_SCHEMA` uses, and the attributes that
`SidecarBuilder.build` puts under them. The optional attributes have keys of their own, so the
loop that merges them appends each of them once.

## Main definitions

* `PropertySchema`, `ObjectSchema`, `sidecarJsonSchema`.
* `SidecarFits`: what a sidecar must look like.

## Main results

* `sidecarAttributes_eq`: the attributes, as a list.
* `allows_sidecarAttributes`: they satisfy the schema.
* `buildSidecar_fits`: the sidecar is built, and it fits.
-/

namespace ZubotIngestion

/-! ### Schemas -/

/-- What the keyword `type` asks of a value. -/
inductive SchemaType : Type where
  | string
  | number
  deriving DecidableEq, Repr

/-- Whether a value has a type; a Boolean is no number. -/
def SchemaType.admits : SchemaType → PyVal → Bool
  | string, .str _ => true
  | number, .int _ => true
  | number, .float _ => true
  | _, _ => false

/-- The number of a value, if it is one. -/
def schemaNumber? : PyVal → Option PyFloat
  | .int i => some (.fin i)
  | .float f => some f
  | _ => none

/-- The schema of a property. -/
structure PropertySchema where
  type : SchemaType
  minLength : Option ℕ := none
  minimum : Option PyFloat := none
  maximum : Option PyFloat := none

/-- Whether a value satisfies the schema of its property. A keyword about strings or numbers holds
of every other value; `minimum` and `maximum` refuse what is smaller or greater. -/
def PropertySchema.allows (schema : PropertySchema) (value : PyVal) : Bool :=
  schema.type.admits value &&
    (match schema.minLength, value with
      | some bound, .str text => decide (bound ≤ text.length)
      | _, _ => true) &&
    (match schema.minimum, schemaNumber? value with
      | some bound, some number => !decide (number < bound)
      | _, _ => true) &&
    (match schema.maximum, schemaNumber? value with
      | some bound, some number => !decide (bound < number)
      | _, _ => true)

/-- The schema of an object. -/
structure ObjectSchema where
  additionalProperties : Bool
  required : List String
  properties : List (String × PropertySchema)

/-- Whether a dictionary may have an item. -/
def ObjectSchema.allowsItem (schema : ObjectSchema) (item : String × PyVal) : Bool :=
  match schema.properties.lookup item.1 with
  | some property => property.allows item.2
  | none => schema.additionalProperties

/-- Whether a dictionary satisfies a schema of objects. -/
def ObjectSchema.allows (schema : ObjectSchema) (d : Dict) : Bool :=
  (schema.required.all fun key => (d.get? key).isSome) && d.all schema.allowsItem

/-- The schema of an attribute that is a string and not empty. -/
def nonEmptyString : PropertySchema := { type := .string, minLength := some 1 }

/-- `SIDECAR_JSON_SCHEMA`. -/
def sidecarJsonSchema : ObjectSchema where
  additionalProperties := false
  required := ["source_filename", "document_type", "extraction_confidence"]
  properties := [
    ("source_filename", nonEmptyString),
    ("document_type", nonEmptyString),
    ("extraction_confidence", { type := .number, minimum := some 0, maximum := some 1 }),
    ("drawing_number", nonEmptyString),
    ("title", nonEmptyString),
    ("discipline", nonEmptyString),
    ("revision", nonEmptyString),
    ("building_zone", nonEmptyString),
    ("project", nonEmptyString)]

theorem allows_nonEmptyString {text : String} (h : text ≠ "") :
    nonEmptyString.allows (.str text) = true := by
  have hlength : 1 ≤ text.length :=
    Nat.one_le_iff_ne_zero.mpr fun hzero => h (String.length_eq_zero_iff.mp hzero)
  simp [PropertySchema.allows, nonEmptyString, SchemaType.admits, schemaNumber?, hlength]

/-- A number of the unit interval is neither too small nor too great. -/
theorem allows_unit {c : PyFloat} (h : c.InUnit) :
    PropertySchema.allows { type := .number, minimum := some 0, maximum := some 1 } (.float c) =
      true := by
  obtain ⟨hlower, hupper⟩ := h
  cases c with
  | fin q =>
    have hq₀ : ¬ PyFloat.fin q < 0 := fun h => absurd (PyFloat.fin_le_fin.mp hlower)
      (not_le.mpr (PyFloat.fin_lt_fin.mp h))
    have hq₁ : ¬ (1 : PyFloat) < .fin q := fun h => absurd (PyFloat.fin_le_fin.mp hupper)
      (not_le.mpr (PyFloat.fin_lt_fin.mp h))
    simp [PropertySchema.allows, SchemaType.admits, schemaNumber?, hq₀, hq₁]
  | nan => cases hlower
  | inf => cases hupper
  | negInf => cases hlower

/-! ### The attributes as a list -/

/-- Under a key that the dictionary does not have, an insertion appends. -/
theorem Dict.insert_eq_append {d : Dict} {key : String} (h : key ∉ d.map Prod.fst) (value : PyVal) :
    d.insert key value = d ++ [(key, value)] := by
  induction d with
  | nil => rfl
  | cons item d ih =>
    rw [List.map_cons, List.mem_cons, not_or] at h
    rw [Dict.insert, if_neg (Ne.symm h.1), ih h.2, List.cons_append]

theorem Dict.foldl_insert_eq_append {items : List (String × String)} {d : Dict}
    (h : (d.map Prod.fst ++ items.map Prod.fst).Nodup) :
    items.foldl (fun merged item => Dict.insert merged item.1 (.str item.2)) d =
      d ++ items.map fun item => (item.1, .str item.2) := by
  induction items generalizing d with
  | nil => exact (List.append_nil d).symm
  | cons item items ih =>
    have hkey : item.1 ∉ d.map Prod.fst := fun hmem =>
      List.disjoint_of_nodup_append h hmem (List.mem_cons_self)
    have hrest : ((d ++ [(item.1, PyVal.str item.2)]).map Prod.fst ++
        items.map Prod.fst).Nodup := by
      simpa using h
    rw [List.foldl_cons, Dict.insert_eq_append hkey, ih hrest, List.append_assoc, List.map_cons,
      List.singleton_append]

theorem Dict.isSome_get?_iff {d : Dict} {key : String} :
    (d.get? key).isSome ↔ key ∈ d.map Prod.fst := by
  induction d with
  | nil => simp
  | cons item d ih =>
    obtain ⟨k, v⟩ := item
    rw [Dict.get?_cons, List.map_cons, List.mem_cons]
    by_cases hkey : k = key
    · simp [hkey]
    · rw [if_neg hkey, ih, or_iff_right (Ne.symm hkey)]

/-- The keys that a filter keeps, in their order. -/
theorem sublist_keys_filterMap {l : List (String × Option String)}
    {f : String × Option String → Option (String × String)}
    (hf : ∀ ⦃item result⦄, f item = some result → result.1 = item.1) :
    ((l.filterMap f).map Prod.fst).Sublist (l.map Prod.fst) := by
  induction l with
  | nil => exact .slnil
  | cons item l ih =>
    cases hitem : f item with
    | none =>
      rw [List.filterMap_cons_none hitem]
      exact ih.cons _
    | some result =>
      rw [List.filterMap_cons_some hitem, List.map_cons, List.map_cons, hf hitem]
      exact ih.cons_cons _

/-- The candidates are the optional attributes that are not blank, stripped. -/
theorem mem_buildOptionalCandidates {extraction : ExtractionResult} {key text : String} :
    (key, text) ∈ buildOptionalCandidates extraction ↔
      ∃ raw, (key, some raw) ∈ optionalAttributes extraction ∧ strip raw = text ∧ text ≠ "" := by
  rw [buildOptionalCandidates, List.mem_filterMap]
  constructor
  · rintro ⟨⟨key', raw?⟩, hmem, hcandidate⟩
    obtain ⟨text', htext, hpair⟩ := Option.map_eq_some_iff.mp hcandidate
    obtain ⟨rfl, rfl⟩ := Prod.mk.inj hpair
    obtain ⟨raw, rfl, hraw⟩ := Option.bind_eq_some_iff.mp htext
    exact ⟨raw, hmem, orNone_eq_some_iff.mp hraw⟩
  · rintro ⟨raw, hmem, hraw⟩
    refine ⟨(key, some raw), hmem, ?_⟩
    rw [Option.bind_some, orNone_eq_some_iff.mpr hraw, Option.map_some]

/-- Required and optional keys are all different. -/
theorem nodup_attribute_keys (extraction : ExtractionResult) :
    (sidecarJsonSchema.required ++ (optionalAttributes extraction).map Prod.fst).Nodup := by
  simp [sidecarJsonSchema, optionalAttributes]

theorem nodup_merged_keys (extraction : ExtractionResult) (job : Job) (c : PyFloat) :
    ((buildRequired job extraction c).map Prod.fst ++
      (buildOptionalCandidates extraction).map Prod.fst).Nodup := by
  have hsublist : ((buildOptionalCandidates extraction).map Prod.fst).Sublist
      ((optionalAttributes extraction).map Prod.fst) := by
    refine sublist_keys_filterMap fun item result h => ?_
    obtain ⟨text, -, rfl⟩ := Option.map_eq_some_iff.mp h
    rfl
  exact (nodup_attribute_keys extraction).sublist (hsublist.append_left _)

theorem sidecarAttributes_eq (extraction : ExtractionResult) (job : Job) :
    sidecarAttributes extraction job =
      buildRequired job extraction (deriveConfidence extraction) ++
        (buildOptionalCandidates extraction).map fun item => (item.1, .str item.2) :=
  Dict.foldl_insert_eq_append (nodup_merged_keys extraction job _)

theorem nodup_keys_sidecarAttributes (extraction : ExtractionResult) (job : Job) :
    ((sidecarAttributes extraction job).map Prod.fst).Nodup := by
  have hnodup := nodup_merged_keys extraction job (deriveConfidence extraction)
  rw [sidecarAttributes_eq, List.map_append, List.map_map]
  exact hnodup

/-! ### The confidence -/

/-- Every confidence of an extraction is a number of the unit interval. -/
structure ExtractionResult.InUnit (extraction : ExtractionResult) : Prop where
  drawingNumber : extraction.drawingNumberConfidence.InUnit
  title : extraction.titleConfidence.InUnit
  documentType : extraction.documentTypeConfidence.InUnit
  explicit : ∀ c, extraction.confidenceScore = some c → c.InUnit

theorem PyFloat.InUnit.exists_fin {c : PyFloat} (h : c.InUnit) : ∃ q : ℚ, c = .fin q := by
  cases c with
  | fin q => exact ⟨q, rfl⟩
  | nan => cases h.1
  | inf => cases h.2
  | negInf => cases h.1

theorem PyFloat.inUnit_clampUnit {c : PyFloat} (h : c ≠ .nan) : c.clampUnit.InUnit := by
  rcases PyFloat.isUnit_clampUnit c with hnan | ⟨q, hq, h₀, h₁⟩
  · rw [PyFloat.clampUnit] at hnan
    split_ifs at hnan
    exact absurd hnan h
  · rw [hq]
    exact ⟨PyFloat.fin_le_fin.mpr h₀, PyFloat.fin_le_fin.mpr h₁⟩

theorem inUnit_deriveConfidence {extraction : ExtractionResult} (h : extraction.InUnit) :
    (deriveConfidence extraction).InUnit := by
  rw [deriveConfidence]
  cases hexplicit : extraction.confidenceScore with
  | some explicit =>
    obtain ⟨q, rfl⟩ := (h.explicit explicit hexplicit).exists_fin
    exact PyFloat.inUnit_clampUnit PyFloat.noConfusion
  | none =>
    obtain ⟨d, hd⟩ := h.drawingNumber.exists_fin
    obtain ⟨t, ht⟩ := h.title.exists_fin
    obtain ⟨y, hy⟩ := h.documentType.exists_fin
    rw [hd, ht, hy]
    exact PyFloat.inUnit_clampUnit PyFloat.noConfusion

/-! ### The sidecar fits -/

theorem documentType_value_ne_empty (documentType : Option DocumentType) :
    (documentType.map DocumentType.value).getD unknownDocumentType ≠ "" := by
  rcases documentType with _ | documentType
  · decide
  · cases documentType <;> decide

theorem allowsItem_of_lookup {schema : ObjectSchema} {item : String × PyVal}
    {property : PropertySchema} (h : schema.properties.lookup item.1 = some property)
    (hitem : property.allows item.2 = true) : schema.allowsItem item = true := by
  rw [ObjectSchema.allowsItem, h]
  exact hitem

theorem allowsItem_buildRequired {extraction : ExtractionResult} (hunit : extraction.InUnit)
    {job : Job} (hname : job.filename ≠ "") :
    ∀ item ∈ buildRequired job extraction (deriveConfidence extraction),
      sidecarJsonSchema.allowsItem item = true := by
  refine List.forall_mem_cons.mpr ⟨allowsItem_of_lookup rfl (allows_nonEmptyString hname), ?_⟩
  refine List.forall_mem_cons.mpr ⟨allowsItem_of_lookup rfl
    (allows_nonEmptyString (documentType_value_ne_empty _)), ?_⟩
  refine List.forall_mem_cons.mpr ⟨allowsItem_of_lookup rfl
    (allows_unit (inUnit_deriveConfidence hunit)), ?_⟩
  exact fun _ h => absurd h List.not_mem_nil

/-- Each optional key has a property of its own in the schema. -/
theorem lookup_optional {extraction : ExtractionResult} {item : String × Option String}
    (h : item ∈ optionalAttributes extraction) :
    sidecarJsonSchema.properties.lookup item.1 = some nonEmptyString := by
  simp only [optionalAttributes, List.mem_cons, List.not_mem_nil, or_false] at h
  rcases h with rfl | rfl | rfl | rfl | rfl | rfl <;> rfl

theorem required_mem_keys (extraction : ExtractionResult) (job : Job) :
    ∀ key ∈ sidecarJsonSchema.required,
      ((sidecarAttributes extraction job).get? key).isSome := by
  intro key hkey
  rw [Dict.isSome_get?_iff, sidecarAttributes_eq, List.map_append]
  exact List.mem_append_left _ hkey

/-- Whatever the optional fields are, the attributes satisfy the schema. -/
theorem allows_sidecarAttributes {extraction : ExtractionResult} (hunit : extraction.InUnit)
    {job : Job} (hname : job.filename ≠ "") :
    sidecarJsonSchema.allows (sidecarAttributes extraction job) = true := by
  have hitems : ∀ item ∈ sidecarAttributes extraction job,
      sidecarJsonSchema.allowsItem item = true := by
    intro item hitem
    rw [sidecarAttributes_eq] at hitem
    rcases List.mem_append.mp hitem with hrequired | hoptional
    · exact allowsItem_buildRequired hunit hname item hrequired
    · obtain ⟨⟨key, text⟩, hmem, rfl⟩ := List.mem_map.mp hoptional
      obtain ⟨raw, hraw, -, htext⟩ := mem_buildOptionalCandidates.mp hmem
      exact allowsItem_of_lookup (lookup_optional hraw) (allows_nonEmptyString htext)
  rw [ObjectSchema.allows, Bool.and_eq_true]
  exact ⟨List.all_eq_true.mpr (required_mem_keys extraction job), List.all_eq_true.mpr hitems⟩

/-- What a sidecar of an extraction must look like. -/
structure SidecarFits (extraction : ExtractionResult) (companion : Option CompanionResult)
    (job : Job) (sidecar : SidecarDocument) : Prop where
  /-- There are at most so many keys, and no key occurs twice. -/
  length_le : sidecar.metadataAttributes.length ≤ maxSidecarMetadataKeys
  nodup : (sidecar.metadataAttributes.map Prod.fst).Nodup
  required : ∀ key ∈ sidecarJsonSchema.required, (sidecar.metadataAttributes.get? key).isSome
  /-- An optional key is there if and only if its field is not blank, with the stripped value. -/
  optional : ∀ item ∈ optionalAttributes extraction, ∀ value,
    sidecar.metadataAttributes.get? item.1 = some value ↔
      ∃ raw, item.2 = some raw ∧ strip raw ≠ "" ∧ value = .str (strip raw)
  schema : sidecarJsonSchema.allows sidecar.metadataAttributes = true
  /-- There is a companion text if and only if a companion was generated, and then it is its
  text. -/
  companionText : ∀ text, sidecar.companionText = some text ↔
    ∃ result, companion = some result ∧ result.companionGenerated = true ∧
      result.companionText = text

theorem sidecarCompanionText_eq_some_iff {companion : Option CompanionResult} {text : String} :
    sidecarCompanionText companion = some text ↔ ∃ result, companion = some result ∧
      result.companionGenerated = true ∧ result.companionText = text := by
  rw [sidecarCompanionText, Option.map_eq_some_iff]
  refine exists_congr fun result => ?_
  rw [Option.filter_eq_some_iff, and_assoc]

theorem get?_optional {extraction : ExtractionResult} {job : Job} {item : String × Option String}
    (h : item ∈ optionalAttributes extraction) {value : PyVal} :
    (sidecarAttributes extraction job).get? item.1 = some value ↔
      ∃ raw, item.2 = some raw ∧ strip raw ≠ "" ∧ value = .str (strip raw) := by
  have hnodup := nodup_attribute_keys extraction
  have hunique : ∀ raw, (item.1, some raw) ∈ optionalAttributes extraction →
      item.2 = some raw := by
    intro raw hraw
    exact (List.inj_on_of_nodup_map (List.nodup_append.mp hnodup).2.1 h hraw rfl) ▸ rfl
  have hrequired : (item.1, value) ∉
      buildRequired job extraction (deriveConfidence extraction) := by
    intro hmem
    have hkey : item.1 ∈ sidecarJsonSchema.required := List.mem_map_of_mem (f := Prod.fst) hmem
    exact List.disjoint_of_nodup_append hnodup hkey (List.mem_map_of_mem h)
  rw [Dict.get?_eq_some_iff (nodup_keys_sidecarAttributes extraction job), sidecarAttributes_eq,
    List.mem_append, or_iff_right hrequired, List.mem_map]
  constructor
  · rintro ⟨⟨key, text⟩, hmem, hpair⟩
    obtain ⟨rfl, rfl⟩ := Prod.mk.inj hpair
    obtain ⟨raw, hraw, rfl, htext⟩ := mem_buildOptionalCandidates.mp hmem
    exact ⟨raw, hunique raw hraw, htext, rfl⟩
  · rintro ⟨raw, hraw, htext, rfl⟩
    refine ⟨(item.1, strip raw), mem_buildOptionalCandidates.mpr ⟨raw, ?_, rfl, htext⟩, rfl⟩
    rw [← hraw]
    exact h

/-- A job with a filename and an extraction with confidences of the unit interval: the sidecar is
built, and it fits. -/
theorem buildSidecar_fits {schemaError? : Dict → Option String}
    (hvalidate : ∀ d, (schemaError? d).isSome ↔ ¬ sidecarJsonSchema.allows d = true)
    {extraction : ExtractionResult} (hunit : extraction.InUnit) (companion : Option CompanionResult)
    {job : Job} (hname : job.filename ≠ "") :
    ∃ sidecar, buildSidecar schemaError? extraction companion job = .ok sidecar ∧
      SidecarFits extraction companion job sidecar := by
  have hallows := allows_sidecarAttributes hunit hname
  have haccepted : schemaError? (sidecarAttributes extraction job) = none :=
    Option.not_isSome_iff_eq_none.mp fun h => (hvalidate _).mp h hallows
  rw [buildSidecar_eq, haccepted]
  refine ⟨_, rfl, ⟨?_, nodup_keys_sidecarAttributes extraction job,
    required_mem_keys extraction job, fun item hitem value => get?_optional hitem, hallows,
    fun text => sidecarCompanionText_eq_some_iff⟩⟩
  · dsimp only
    rw [sidecarAttributes_eq, List.length_append, List.length_map]
    exact (Nat.add_le_add_left (length_buildOptionalCandidates_le extraction) 3).trans
      (Nat.le_succ 9)

/-- A validator that refuses what violates the schema. -/
def strictValidator (d : Dict) : Option String :=
  if sidecarJsonSchema.allows d then none else some "the schema is violated"

theorem isSome_strictValidator (d : Dict) :
    (strictValidator d).isSome ↔ ¬ sidecarJsonSchema.allows d = true := by
  rw [strictValidator]
  split_ifs with h <;> simp [h]

/-- An extraction with a padded title and a blank revision. -/
def paddedExtraction : ExtractionResult where
  drawingNumber := some "A-101"
  drawingNumberConfidence := 1
  title := some " Site Plan "
  titleConfidence := .fin (1 / 2)
  documentType := none
  documentTypeConfidence := 0
  discipline := some .electrical
  revision := some "  "

theorem inUnit_paddedExtraction : paddedExtraction.InUnit where
  drawingNumber := ⟨by decide, by decide⟩
  title := ⟨PyFloat.fin_le_fin.mpr (by norm_num), PyFloat.fin_le_fin.mpr (by norm_num)⟩
  documentType := ⟨by decide, by decide⟩
  explicit := nofun

theorem buildSidecar_fits_paddedExtraction :
    ∃ sidecar, buildSidecar strictValidator paddedExtraction none planJob = .ok sidecar ∧
      SidecarFits paddedExtraction none planJob sidecar :=
  buildSidecar_fits isSome_strictValidator inUnit_paddedExtraction none (by decide)

end ZubotIngestion
