import ZubotIngestion.Services.Stage1
import ZubotIngestion.Services.UnitConfidences

/-!
# The sources a result names

Every extractor names the sources it has used, and the merged result names them all, each once. The
drawing-number and the title extractor name a source whose answer is not `None`; the vote and the
fusion ignore an answer that is blank. A blank answer is named although nothing is made of it.

## Main definitions

* `ExtractorRuns`: a run of the three extractors, and their merged result.
* `SourcesExact`: the sources named are those whose answers are left by the fusion.
* `NamesBlankNumber`, `NamesBlankTitle`: a blank answer is named.

## Main results

* `mem_unionSources`, `nodup_unionSources`: the merged list.
* `sourcesExact_iff`: when the sources are exact.
* `RealRun.exists_extractorRuns`: a run of the pipeline reports the merged list.
-/

namespace ZubotIngestion

open Effects

/-! ### The merged list -/

/-- Appending what is new keeps a list without duplicates, and adds just the new elements. -/
theorem foldl_appendNew {α : Type} [DecidableEq α] (xs ys : List α) (hxs : xs.Nodup) :
    (ys.foldl (fun zs y => if y ∈ zs then zs else zs ++ [y]) xs).Nodup ∧
      ∀ z, z ∈ ys.foldl (fun zs y => if y ∈ zs then zs else zs ++ [y]) xs ↔ z ∈ xs ∨ z ∈ ys := by
  induction ys generalizing xs with
  | nil => simp [hxs]
  | cons y ys ih =>
    rw [List.foldl_cons]
    split_ifs with hy
    · obtain ⟨hnodup, hmem⟩ := ih xs hxs
      refine ⟨hnodup, fun z => (hmem z).trans ?_⟩
      rw [List.mem_cons]
      constructor
      · exact fun h => h.imp_right Or.inr
      · rintro (h | rfl | h)
        exacts [Or.inl h, Or.inl hy, Or.inr h]
    · obtain ⟨hnodup, hmem⟩ := ih (xs ++ [y]) (List.concat_eq_append ▸ hxs.concat hy)
      refine ⟨hnodup, fun z => (hmem z).trans ?_⟩
      simp only [List.mem_append, List.mem_cons, List.not_mem_nil, or_false, or_assoc]

theorem nodup_unionSources (results : List ExtractionResult) : (unionSources results).Nodup :=
  (foldl_appendNew [] _ List.nodup_nil).1

theorem mem_unionSources {results : List ExtractionResult} {source : String} :
    source ∈ unionSources results ↔ ∃ result ∈ results, source ∈ result.sourcesUsed := by
  have hmem := (foldl_appendNew [] (results.flatMap ExtractionResult.sourcesUsed)
    List.nodup_nil).2 source
  rw [unionSources, hmem, List.mem_flatMap]
  exact or_iff_right List.not_mem_nil

/-! ### Runs of the extractors -/

/-- A run of the three extractors on a context: the calls of each, and how it ends. -/
structure ExtractorRuns (py : StrMethods) where
  context : PipelineContext
  calls : ExtractorLabel → List (Event sources PyException)
  outcome : ExtractorLabel → Except PyException ExtractionResult
  runs : ∀ label, (extractor py label context).Runs (calls label) (outcome label)

/-- The merged result; an extractor that has raised contributes the empty one. -/
def ExtractorRuns.merged {py : StrMethods} (run : ExtractorRuns py) : ExtractionResult :=
  mergeExtractionResults (normalized (run.outcome .drawingNumber)) (normalized (run.outcome .title))
    (normalized (run.outcome .documentType))

/-- The drawing number in an answer. -/
def givenNumber? : Answer → Option String
  | some (.ok parsed) => asStr? (parsedGet parsed "drawing_number")
  | _ => none

/-- The drawing numbers that the sources have answered, by the names of the sources. -/
def numberAnswers (t : List (Event sources PyException)) : List (String × Option String) :=
  [("vision", givenNumber? (visionAnswer? t)), ("text", givenNumber? (textAnswer? t)),
    ("filename", filenameAnswer? t)]

theorem nodup_numberAnswers (t : List (Event sources PyException)) :
    ((numberAnswers t).map Prod.fst).Nodup := by
  show ["vision", "text", "filename"].Nodup
  decide

/-- The title in an answer. -/
def titleValue : Answer → PyVal
  | some (.ok parsed) => parsedGet parsed "title"
  | _ => .none

/-- The titles that the sources have answered, by the names of the sources. -/
def titleAnswers (t : List (Event sources PyException)) : List (String × PyVal) :=
  [("vision", titleValue (visionAnswer? t)), ("text", titleValue (textAnswer? t))]

theorem nodup_titleAnswers (t : List (Event sources PyException)) :
    ((titleAnswers t).map Prod.fst).Nodup := by
  show ["vision", "text"].Nodup
  decide

/-- The sources named are exact: an extractor names the sources whose values are left by the
normalisation of its fusion, and the merged list is the union, without duplicates. An extractor
without a value names no source. -/
structure SourcesExact {py : StrMethods} (run : ExtractorRuns py) : Prop where
  drawingNumber : ∀ own, run.outcome .drawingNumber = .ok own → ∀ source,
    source ∈ own.sourcesUsed ↔ ∃ value, (source, value) ∈ numberAnswers (run.calls .drawingNumber) ∧
      (normalise py value).isSome = true
  title : ∀ own, run.outcome .title = .ok own → ∀ source,
    source ∈ own.sourcesUsed ↔ ∃ value, (source, value) ∈ titleAnswers (run.calls .title) ∧
      ∃ title, flattenTitle value = .ok (some title)
  nodup : run.merged.sourcesUsed.Nodup
  union : ∀ source, source ∈ run.merged.sourcesUsed ↔
    ∃ label, source ∈ (normalized (run.outcome label)).sourcesUsed
  abstains : ∀ label own, run.outcome label = .ok own → own.field label = none →
    own.sourcesUsed = []

/-- An answer that the response parser has not raised on. -/
def Parsed : Answer → Prop
  | some (.error _) => False
  | _ => True

/-- A source has answered a drawing number that the vote ignores as blank. -/
def NamesBlankNumber (py : StrMethods) (t : List (Event sources PyException)) : Prop :=
  Parsed (visionAnswer? t) ∧ Parsed (textAnswer? t) ∧
    ∃ source text, (source, some text) ∈ numberAnswers t ∧ normalise py (some text) = none

/-- A model has answered a title that the fusion ignores as blank, and the other answer can be
fused. -/
def NamesBlankTitle (t : List (Event sources PyException)) : Prop :=
  Readable (visionAnswer? t) ∧ Readable (textAnswer? t) ∧
    ∃ source text, (source, PyVal.str text) ∈ titleAnswers t ∧ flattenStr text = none

/-! ### Exact names -/

/-- The answers that are not `None` are named. -/
theorem mem_sourcesUsed_map {V : Type} {answers : List (String × V)} {present : V → Bool}
    {source : String} :
    source ∈ sourcesUsed (answers.map fun answer => (answer.1, present answer.2)) ↔
      ∃ value, (source, value) ∈ answers ∧ present value = true := by
  rw [mem_sourcesUsed, List.mem_map]
  constructor
  · rintro ⟨⟨name, value⟩, hmem, heq⟩
    obtain ⟨rfl, hpresent⟩ := Prod.mk.inj heq
    exact ⟨value, hmem, hpresent⟩
  · rintro ⟨value, hmem, hpresent⟩
    exact ⟨(source, value), hmem, by rw [hpresent]⟩

/-- Where each source has one answer, the answers present are those that count just if every answer
that is present counts. -/
theorem forall_exists_iff {V : Type} {answers : List (String × V)}
    (hnodup : (answers.map Prod.fst).Nodup) {present counts : V → Prop}
    (hcounts : ∀ value, counts value → present value) :
    (∀ source, (∃ value, (source, value) ∈ answers ∧ present value) ↔
        ∃ value, (source, value) ∈ answers ∧ counts value) ↔
      ∀ source value, (source, value) ∈ answers → present value → counts value := by
  constructor
  · intro h source value hmem hpresent
    obtain ⟨value', hmem', hcounts'⟩ := (h source).mp ⟨value, hmem, hpresent⟩
    have heq := List.inj_on_of_nodup_map hnodup hmem hmem' rfl
    rwa [(Prod.mk.inj heq).2]
  · intro h source
    constructor
    · exact fun ⟨value, hmem, hpresent⟩ => ⟨value, hmem, h source value hmem hpresent⟩
    · exact fun ⟨value, hmem, hcounts'⟩ => ⟨value, hmem, hcounts value hcounts'⟩

/-- An extractor that names the answers present names those that count, unless it returns although
an answer is present that does not count. -/
theorem names_iff {V : Type} {answers : List (String × V)} (hnodup : (answers.map Prod.fst).Nodup)
    {present : V → Bool} {counts : V → Prop}
    (hcounts : ∀ value, counts value → present value = true)
    {r : Except PyException ExtractionResult} {Returns : Prop}
    (hreturns : (∃ own, r = .ok own) ↔ Returns)
    (hnamed : ∀ own, r = .ok own →
      own.sourcesUsed = sourcesUsed (answers.map fun answer => (answer.1, present answer.2))) :
    (∀ own, r = .ok own → ∀ source,
        source ∈ own.sourcesUsed ↔ ∃ value, (source, value) ∈ answers ∧ counts value) ↔
      (Returns → ∀ source value, (source, value) ∈ answers → present value = true →
        counts value) := by
  have hown (own : ExtractionResult) (hr : r = .ok own) :
      (∀ source, source ∈ own.sourcesUsed ↔ ∃ value, (source, value) ∈ answers ∧ counts value) ↔
        ∀ source value, (source, value) ∈ answers → present value = true → counts value := by
    rw [← forall_exists_iff hnodup hcounts, hnamed own hr]
    exact forall_congr' fun source => iff_congr mem_sourcesUsed_map Iff.rfl
  rw [← hreturns]
  constructor
  · rintro h ⟨own, hr⟩
    exact (hown own hr).mp (h own hr)
  · exact fun h own hr => (hown own hr).mpr (h ⟨own, hr⟩)

/-! ### The drawing number -/

section DrawingNumber

variable {py : StrMethods} {context : PipelineContext} {t : List (Event sources PyException)}
  {r : Except PyException ExtractionResult}

theorem numberContribution_of_parsed {answer : Answer} (h : Parsed answer) :
    numberContribution answer = .ok (givenNumber? answer) := by
  rcases answer with _ | exc | parsed
  · rfl
  · exact h.elim
  · rfl

theorem parsed_of_numberContribution {answer : Answer} {value : Option String}
    (h : numberContribution answer = .ok value) : Parsed answer := by
  rcases answer with _ | exc | parsed
  · trivial
  · cases h
  · trivial

/-- The drawing-number extractor returns if the answers are parsed, and names the sources whose
answers are not `None`. -/
theorem extractDrawingNumber_returns_iff (h : (extractDrawingNumber py context).Runs t r) :
    (∃ own, r = .ok own) ↔ Parsed (visionAnswer? t) ∧ Parsed (textAnswer? t) := by
  have houtcome := runs_extractDrawingNumber h
  constructor
  · rintro ⟨own, rfl⟩
    obtain ⟨vision, hvision, hrest⟩ := exists_of_bind_eq_ok houtcome.symm
    obtain ⟨text, htext, -⟩ := exists_of_bind_eq_ok hrest
    exact ⟨parsed_of_numberContribution hvision, parsed_of_numberContribution htext⟩
  · rintro ⟨hvision, htext⟩
    rw [numberOutcome, numberContribution_of_parsed hvision, numberContribution_of_parsed htext]
      at houtcome
    cases r with
    | ok own => exact ⟨own, rfl⟩
    | error exc => cases houtcome

theorem extractDrawingNumber_own {own : ExtractionResult}
    (h : (extractDrawingNumber py context).Runs t (.ok own)) :
    own.drawingNumber = (fuseDrawingNumber py (givenNumber? (visionAnswer? t))
        (givenNumber? (textAnswer? t)) (filenameAnswer? t)).1 ∧
      own.sourcesUsed =
        sourcesUsed ((numberAnswers t).map fun answer => (answer.1, answer.2.isSome)) := by
  obtain ⟨hvision, htext⟩ := (extractDrawingNumber_returns_iff h).mp ⟨own, rfl⟩
  have houtcome := runs_extractDrawingNumber h
  rw [numberOutcome, numberContribution_of_parsed hvision, numberContribution_of_parsed htext]
    at houtcome
  exact Prod.mk.inj (Except.ok.inj houtcome)

/-- The names of the drawing-number extractor are exact unless it names a blank answer. -/
theorem drawingNumber_exact_iff (h : (extractDrawingNumber py context).Runs t r) :
    (∀ own, r = .ok own → ∀ source, source ∈ own.sourcesUsed ↔
        ∃ value, (source, value) ∈ numberAnswers t ∧ (normalise py value).isSome = true) ↔
      ¬ NamesBlankNumber py t := by
  have hcounts (value : Option String) (hvalue : (normalise py value).isSome = true) :
      value.isSome = true := by
    cases value with
    | none => exact hvalue
    | some text => rfl
  rw [names_iff (nodup_numberAnswers t) hcounts
    (extractDrawingNumber_returns_iff h) fun own hr => (extractDrawingNumber_own (hr ▸ h)).2]
  constructor
  · rintro hall ⟨hvision, htext, source, text, hmem, hblank⟩
    have hsome := hall ⟨hvision, htext⟩ source (some text) hmem rfl
    rw [hblank] at hsome
    cases hsome
  · intro hnot hparsed source value hmem hpresent
    obtain ⟨text, rfl⟩ := Option.isSome_iff_exists.mp hpresent
    by_contra hblank
    exact hnot ⟨hparsed.1, hparsed.2, source, text, hmem, Option.not_isSome_iff_eq_none.mp hblank⟩

/-- Without a drawing number, no answer is left by the normalisation. -/
theorem normalise_eq_none_of_drawingNumber {own : ExtractionResult}
    (h : (extractDrawingNumber py context).Runs t (.ok own)) (hnone : own.drawingNumber = none)
    {source : String} {value : Option String} (hmem : (source, value) ∈ numberAnswers t) :
    normalise py value = none := by
  rw [(extractDrawingNumber_own h).1, fuseDrawingNumber] at hnone
  have hall : ∀ value ∈ (numberAnswers t).map fun answer => normalise py answer.2, value = none :=
    eq_none_of_vote (normalise_ne_empty py _) (normalise_ne_empty py _) hnone
  exact hall _ (List.mem_map.mpr ⟨(source, value), hmem, rfl⟩)

end DrawingNumber

/-! ### The title -/

section Title

variable {py : StrMethods} {context : PipelineContext} {t : List (Event sources PyException)}
  {r : Except PyException ExtractionResult}

theorem runs_extractTitle_result (h : (extractTitle py context).Runs t r) :
    r = titleContribution py (visionAnswer? t) >>= fun vision =>
      titleContribution py (textAnswer? t) >>= titleResult py vision := by
  refine runs_titleSources (fun vision text t' r' h' => ?_) h
  obtain ⟨rfl, rfl⟩ := Program.runs_ofExcept_ret.mp h'
  refine ⟨rfl, ?_⟩
  rw [titleResult]
  cases fuseTitle py vision.1 vision.2 text.1 text.2 <;> rfl

theorem titleContribution_fst {answer : Answer} {title : PyVal × PyFloat}
    (h : titleContribution py answer = .ok title) : title.1 = titleValue answer := by
  rcases answer with _ | exc | parsed
  · rw [← Except.ok.inj h]
    rfl
  · cases h
  · have hread : readTitle py parsed = .ok title := h
    obtain ⟨confidence, -, hret⟩ := exists_of_bind_eq_ok hread
    rw [← Except.ok.inj hret]
    rfl

/-- The title extractor returns on readable answers. -/
theorem extractTitle_returns_iff (h : (extractTitle py context).Runs t r) :
    (∃ own, r = .ok own) ↔ Readable (visionAnswer? t) ∧ Readable (textAnswer? t) := by
  have houtcome := runs_extractTitle h
  constructor
  · rintro ⟨own, rfl⟩
    exact readable_of_titleOutcome houtcome.symm
  · rintro ⟨hvision, htext⟩
    obtain ⟨visionConf, textConf, -, -, -, -, hfused⟩ := titleOutcome_of_readable py hvision htext
    cases r with
    | ok own => exact ⟨own, rfl⟩
    | error exc => cases houtcome.trans hfused

/-- The title extractor names the models whose titles are not `None`. -/
theorem extractTitle_sourcesUsed {own : ExtractionResult}
    (h : (extractTitle py context).Runs t (.ok own)) :
    own.sourcesUsed =
      sourcesUsed ((titleAnswers t).map fun answer => (answer.1, isNotNone answer.2)) := by
  obtain ⟨vision, hvision, hrest⟩ := exists_of_bind_eq_ok (runs_extractTitle_result h).symm
  obtain ⟨text, htext, hresult⟩ := exists_of_bind_eq_ok hrest
  obtain ⟨fused, -, hown⟩ := exists_of_bind_eq_ok hresult
  rw [← Except.ok.inj hown, titleAnswers, ← titleContribution_fst hvision,
    ← titleContribution_fst htext]
  rfl

theorem flattenTitle_titleValue {answer : Answer} (h : Readable answer) :
    flattenTitle (titleValue answer) = .ok (givenTitle? answer) := by
  rcases answer with _ | exc | parsed
  · rfl
  · exact h.elim
  · rcases h.1 with hnone | ⟨text, htext⟩
    · simp only [titleValue, givenTitle?, hnone, flattenTitle]
    · simp only [titleValue, givenTitle?, htext, flattenTitle]

/-- Both titles of readable answers can be flattened. -/
theorem flattenTitle_of_mem (hvision : Readable (visionAnswer? t))
    (htext : Readable (textAnswer? t)) {source : String} {value : PyVal}
    (hmem : (source, value) ∈ titleAnswers t) : ∃ title, flattenTitle value = .ok title := by
  rw [titleAnswers, List.mem_pair] at hmem
  rcases hmem with h | h
  · rw [(Prod.mk.inj h).2]
    exact ⟨_, flattenTitle_titleValue hvision⟩
  · rw [(Prod.mk.inj h).2]
    exact ⟨_, flattenTitle_titleValue htext⟩

/-- The names of the title extractor are exact unless it names a blank answer. -/
theorem title_exact_iff (h : (extractTitle py context).Runs t r) :
    (∀ own, r = .ok own → ∀ source, source ∈ own.sourcesUsed ↔
        ∃ value, (source, value) ∈ titleAnswers t ∧
          ∃ title, flattenTitle value = .ok (some title)) ↔
      ¬ NamesBlankTitle t := by
  have hcounts (value : PyVal) (hvalue : ∃ title, flattenTitle value = .ok (some title)) :
      isNotNone value = true := by
    obtain ⟨title, htitle⟩ := hvalue
    cases value with
    | none => cases htitle
    | _ => rfl
  rw [names_iff (nodup_titleAnswers t) hcounts (extractTitle_returns_iff h)
    fun own hr => extractTitle_sourcesUsed (hr ▸ h)]
  constructor
  · rintro hall ⟨hvision, htext, source, text, hmem, hblank⟩
    obtain ⟨title, htitle⟩ := hall ⟨hvision, htext⟩ source (.str text) hmem rfl
    cases hblank.symm.trans (Except.ok.inj htitle)
  · intro hnot hreadable source value hmem hpresent
    obtain ⟨flat, hflat⟩ := flattenTitle_of_mem hreadable.1 hreadable.2 hmem
    cases flat with
    | some title => exact ⟨title, hflat⟩
    | none =>
      cases value with
      | none => cases hpresent
      | str text =>
        exact absurd ⟨hreadable.1, hreadable.2, source, text, hmem, Except.ok.inj hflat⟩ hnot
      | _ => cases hflat

/-- Without a title, no answer is left by the normalisation. -/
theorem flattenTitle_of_title_eq_none {own : ExtractionResult}
    (h : (extractTitle py context).Runs t (.ok own)) (hnone : own.title = none)
    {source : String} {value : PyVal} (hmem : (source, value) ∈ titleAnswers t) :
    flattenTitle value = .ok none := by
  obtain ⟨hvision, htext⟩ := (extractTitle_returns_iff h).mp ⟨own, rfl⟩
  obtain ⟨visionConf, textConf, -, -, -, -, hfused⟩ := titleOutcome_of_readable py hvision htext
  have hown := Except.ok.inj ((runs_extractTitle h).trans hfused)
  have hreconciled : (reconcileTitles py (givenTitle? (visionAnswer? t)) visionConf
      (givenTitle? (textAnswer? t)) textConf).1 = none := by
    rw [← hown]
    exact hnone
  obtain ⟨hv, ht⟩ := eq_none_of_reconcileTitles hreconciled
  rw [titleAnswers, List.mem_pair] at hmem
  rcases hmem with h | h
  · rw [(Prod.mk.inj h).2, flattenTitle_titleValue hvision, hv]
  · rw [(Prod.mk.inj h).2, flattenTitle_titleValue htext, ht]

end Title

/-! ### Exact sources -/

section

variable {py : StrMethods}

/-- The merged result names the sources of all extractors. -/
theorem mem_merged (run : ExtractorRuns py) (source : String) :
    source ∈ run.merged.sourcesUsed ↔
      ∃ label, source ∈ (normalized (run.outcome label)).sourcesUsed := by
  rw [ExtractorRuns.merged, mergeExtractionResults, mem_unionSources]
  constructor
  · rintro ⟨result, hmem, hsource⟩
    simp only [List.mem_cons, List.not_mem_nil, or_false] at hmem
    rcases hmem with rfl | rfl | rfl
    exacts [⟨.drawingNumber, hsource⟩, ⟨.title, hsource⟩, ⟨.documentType, hsource⟩]
  · rintro ⟨label, hsource⟩
    refine ⟨normalized (run.outcome label), ?_, hsource⟩
    cases label <;> simp

/-- An extractor without a value names no source, if its names are exact. -/
theorem sourcesUsed_eq_nil (run : ExtractorRuns py) {label : ExtractorLabel}
    {own : ExtractionResult} (hown : run.outcome label = .ok own) (hnone : own.field label = none)
    (hnumber : ¬ NamesBlankNumber py (run.calls .drawingNumber))
    (htitle : ¬ NamesBlankTitle (run.calls .title)) : own.sourcesUsed = [] := by
  have hruns := hown ▸ run.runs label
  refine List.eq_nil_iff_forall_not_mem.mpr fun source hsource => ?_
  cases label with
  | drawingNumber =>
    obtain ⟨value, hmem, hsome⟩ :=
      ((drawingNumber_exact_iff hruns).mpr hnumber own rfl source).mp hsource
    rw [normalise_eq_none_of_drawingNumber hruns (Option.map_eq_none_iff.mp hnone) hmem] at hsome
    cases hsome
  | title =>
    obtain ⟨value, hmem, title, hflat⟩ :=
      ((title_exact_iff hruns).mpr htitle own rfl source).mp hsource
    have hnone' := flattenTitle_of_title_eq_none hruns (Option.map_eq_none_iff.mp hnone) hmem
    cases hnone'.symm.trans hflat
  | documentType =>
    obtain ⟨coerced, c, -, htype, -, hsources⟩ :=
      (extractDocumentType_coerced py run.context).of_runs hruns (fun _ _ => trivial) own rfl
    rw [hsources, ← htype, Option.map_eq_none_iff.mp hnone] at hsource
    cases hsource

/-- The sources named are exact if and only if no extractor names a blank answer. -/
theorem sourcesExact_iff (run : ExtractorRuns py) :
    SourcesExact run ↔
      ¬ NamesBlankNumber py (run.calls .drawingNumber) ∧ ¬ NamesBlankTitle (run.calls .title) := by
  constructor
  · intro h
    exact ⟨(drawingNumber_exact_iff (run.runs .drawingNumber)).mp h.drawingNumber,
      (title_exact_iff (run.runs .title)).mp h.title⟩
  · rintro ⟨hnumber, htitle⟩
    exact ⟨(drawingNumber_exact_iff (run.runs .drawingNumber)).mpr hnumber,
      (title_exact_iff (run.runs .title)).mpr htitle, nodup_unionSources _, mem_merged run,
      fun label own hown hnone => sourcesUsed_eq_nil run hown hnone hnumber htitle⟩

/-- What a run of the pipeline reports as its sources is the merged list of its extractors. -/
theorem RealRun.exists_extractorRuns {schemaError? : Dict → Option String} {x : PipelineInput}
    (run : RealRun py schemaError? x) : ∃ runs : ExtractorRuns py,
      runs.calls = run.sourceCalls ∧
        run.result.extractionResult.sourcesUsed = runs.merged.sourcesUsed := by
  obtain ⟨a, hcalls, hresult⟩ := run.exists_answers
  have hruns (label : ExtractorLabel) :
      (extractor py label (a.context x)).Runs (run.sourceCalls label) (a.extraction label) := by
    refine run.extracted label (a.context x) (a.extraction label) ?_
    rw [hcalls]
    exact mem_of_callsOf_eq_singleton (a.callsOf_extract x label)
  refine ⟨⟨a.context x, run.sourceCalls, a.extraction, hruns⟩, rfl, ?_⟩
  rw [hresult]
  show a.afterStage1.1.sourcesUsed = _
  rw [PipelineAnswers.afterStage1, recordStage1_fst]
  rfl

end

/-! ### A blank drawing number -/

/-- The run of extractors that get their answers from the collaborators. -/
def Collaborators.extractorRuns (c : Collaborators) (py : StrMethods) (context : PipelineContext) :
    ExtractorRuns py where
  context := context
  calls label := Program.trace (S := sources) (fun op (_ : Unit) => (c.answer op, ()))
    (extractor py label context) ()
  outcome label := (Program.run (S := sources) (fun op (_ : Unit) => (c.answer op, ()))
    (extractor py label context) ()).1
  runs _ := Program.runs_run (S := sources) _ _ ()

/-- What the vision model answers about the drawing number. -/
def blankResponse : String := "\x7b\"drawing_number\": \"  \", \"confidence\": 0.0\x7d"

/-- A vision model that reads two blanks where the drawing number should be. -/
def blankCollaborators : Collaborators :=
  { planCollaborators with
    generateVision := fun _ prompt =>
      .ok (if prompt = .drawingNumberVision then blankResponse else "{}")
    parseResponse := fun responseText expectedSchema =>
      .ok (if responseText = blankResponse then
        [("drawing_number", .str "  "), ("confidence", .float 0)] else expectedSchema) }

/-- The blanks are no drawing number, but the vision model is named as the source of one. -/
theorem not_sourcesExact_blank :
    ¬ SourcesExact (blankCollaborators.extractorRuns plainMethods planContext) := by
  intro h
  have hnil := h.abstains .drawingNumber
    (drawingNumberResult plainMethods (some "  ", blankResponse) (none, "") none) rfl rfl
  cases hnil

end ZubotIngestion
