import ZubotIngestion.Effects.Program
import ZubotIngestion.Scripts.RegressionCheck

/-!
# Runs under one model after the other

The regression check selects a model by the environment of its own process: `run_with_model` sets
`OLLAMA_TEXT_MODEL`, clears the cache of `get_settings`, runs the corpus, and undoes both, also when
the run has raised. What a run does in between is any program that reads the settings, the clock and
its surroundings. Such a run cannot tell the process from one that has been started for its model
alone: whatever had been cached, and whatever was run before, the settings are those of the original
environment with this model in it, and the original environment is what is left behind.

How the settings are read from an environment is a parameter.

## Main definitions

* `ScriptProcess`: the environment of the process, the cached settings, and the rest of the world.
* `runWithModel`: a run under one model, on a process.
* `runOnItsOwn`: a run with settings of its own, without a process.
* `regressionScript`: the baseline, and the candidates until one has passed.

## Main results

* `runWithModel_eq`: a run on a process is a run with settings of its own.
* `regressionScript_eq`: so is the whole check.
* `regressionScript_outcome`: what a check comes to, and what it leaves behind.
-/

namespace ZubotIngestion

open Effects

/-! ### The process -/

/-- `os.environ`: the variables and their values, in the order in which they were set. -/
abbrev Environ : Type := Store.Table (Prod.fst : String × String → String)

/-- `OLLAMA_TEXT_MODEL_ENV`. -/
def ollamaTextModelEnv : String := "OLLAMA_TEXT_MODEL"

/-- `target_env[OLLAMA_TEXT_MODEL_ENV] = model`. -/
def Environ.setModel (environ : Environ) (model : String) : Environ :=
  environ.put (ollamaTextModelEnv, model)

/-- The end of a run: the variable gets its previous value back, or is popped. -/
def Environ.restoreModel (environ : Environ) : Option String → Environ
  | none => environ.erase ollamaTextModelEnv
  | some previous => environ.put (ollamaTextModelEnv, previous)

/-- A model that is set and taken back leaves no trace. -/
theorem Environ.restoreModel_setModel (environ : Environ) (model : String) :
    (environ.setModel model).restoreModel
      ((environ.find? ollamaTextModelEnv).map Prod.snd) = environ := by
  cases hprevious : environ.find? ollamaTextModelEnv with
  | none =>
    exact Store.Table.erase_put_of_find?_eq_none (r := (ollamaTextModelEnv, model)) hprevious
  | some entry =>
    have hkey : entry.1 = ollamaTextModelEnv := Store.Table.key_eq_of_find? hprevious
    have hentry : (ollamaTextModelEnv, entry.2) = entry := Prod.ext hkey.symm rfl
    rw [Option.map_some, Environ.restoreModel, hentry]
    exact Store.Table.put_put_of_find? hkey.symm (hkey ▸ hprevious)

/-- What a run calls: the settings, the clock, and its surroundings. -/
inductive RunOp (S : Signature) : Type where
  | getSettings
  | perfCounter
  | outside (op : S.Op)

/-- The calls of a run; `Settings` are the settings. -/
def runSignature (S : Signature) (Settings : Type) : Signature where
  Op := RunOp S
  Res
    | .getSettings => Settings
    | .perfCounter => ℚ
    | .outside op => S.Res op

/-- The surroundings of the process, with their state. -/
structure Surroundings (S : Signature) (World : Type) where
  answer : (op : S.Op) → World → Except PyException (S.Res op) × World
  clock : World → ℚ × World

variable {S : Signature} {Settings World : Type}

/-- The process: its environment, what `get_settings` has cached, and everything else. -/
structure ScriptProcess (Settings World : Type) where
  environ : Environ
  settingsCache : Option Settings
  world : World

/-- A call of a run on a process. Settings that cannot be read are not cached. -/
def processAnswer (readSettings : Environ → Except PyException Settings)
    (surroundings : Surroundings S World) :
    (op : (runSignature S Settings).Op) → ScriptProcess Settings World →
      Except PyException ((runSignature S Settings).Res op) × ScriptProcess Settings World
  | RunOp.getSettings, process =>
    match process.settingsCache with
    | some settings => (.ok settings, process)
    | none =>
      match readSettings process.environ with
      | .ok settings => (.ok settings, { process with settingsCache := some settings })
      | .error exc => (.error exc, process)
  | RunOp.perfCounter, process =>
    let (seconds, world) := surroundings.clock process.world
    (.ok seconds, { process with world := world })
  | RunOp.outside op, process =>
    let (outcome, world) := surroundings.answer op process.world
    (outcome, { process with world := world })

/-! ### A run -/

/-- An orchestrator: `run_pipeline` for the document with this path, the job and the reading of the
file included. -/
abbrev OrchestratorRun (S : Signature) (Settings : Type) : Type :=
  String → Program (runSignature S Settings) PyException PipelineResult

/-- `_run_single_doc`, for a path with its filename. -/
def singleDocProgram (orchestrator : OrchestratorRun S Settings) (pdf : String × String) :
    Program (runSignature S Settings) PyException DocOutputs := do
  let started : ℚ ← Program.perform (S := runSignature S Settings) .perfCounter
  let result ← (orchestrator pdf.1).attempt
  let ended : ℚ ← Program.perform (S := runSignature S Settings) .perfCounter
  pure (runSingleDoc { path := pdf.1, filename := pdf.2, result, elapsed := ended - started })

/-- `_run_corpus`. -/
def corpusProgram (orchestrator : OrchestratorRun S Settings) :
    List (String × String) → Program (runSignature S Settings) PyException (List DocOutputs)
  | [] => pure []
  | pdf :: corpus => do
    let doc ← singleDocProgram orchestrator pdf
    let docs ← corpusProgram orchestrator corpus
    pure (doc :: docs)

/-- The `try` block of `run_with_model`: the orchestrator is built, and the corpus is run. -/
def modelProgram
    (factory : Program (runSignature S Settings) PyException (OrchestratorRun S Settings))
    (corpus : List (String × String)) :
    Program (runSignature S Settings) PyException (List DocOutputs) := do
  let orchestrator ← factory
  corpusProgram orchestrator corpus

section Runs

variable (readSettings : Environ → Except PyException Settings)
  (surroundings : Surroundings S World)
  (factory : Program (runSignature S Settings) PyException (OrchestratorRun S Settings))
  (corpus : List (String × String))

/-- `run_with_model`, on a process. -/
def runWithModel (model : String) (process : ScriptProcess Settings World) :
    Except PyException (List DocOutputs) × ScriptProcess Settings World :=
  let previous := (process.environ.find? ollamaTextModelEnv).map Prod.snd
  let started := { process with
    environ := process.environ.setModel model
    settingsCache := none }
  let (outcome, ended) :=
    (modelProgram factory corpus).run (processAnswer readSettings surroundings) started
  (outcome, { ended with
    environ := ended.environ.restoreModel previous
    settingsCache := none })

/-- A call of a run that has settings of its own. -/
def plainAnswer (settings : Except PyException Settings) :
    (op : (runSignature S Settings).Op) → World →
      Except PyException ((runSignature S Settings).Res op) × World
  | RunOp.getSettings, world => (settings, world)
  | RunOp.perfCounter, world =>
    let (seconds, world) := surroundings.clock world
    (.ok seconds, world)
  | RunOp.outside op, world => surroundings.answer op world

/-- A run whose settings are those of an environment that has its model in it. -/
def runOnItsOwn (environ : Environ) (model : String) (world : World) :
    Except PyException (List DocOutputs) × World :=
  (modelProgram factory corpus).run
    (plainAnswer surroundings (readSettings (environ.setModel model))) world

/-- A process whose cache is empty, or holds the settings of its environment. -/
def SettledProcess (process : ScriptProcess Settings World) : Prop :=
  ∀ settings, process.settingsCache = some settings →
    readSettings process.environ = .ok settings

variable {readSettings}

/-- A call does not see whether the settings were cached, and leaves the process settled. -/
theorem processAnswer_eq {process : ScriptProcess Settings World}
    (h : SettledProcess readSettings process) (op : (runSignature S Settings).Op) :
    (processAnswer readSettings surroundings op process).1 =
        (plainAnswer surroundings (readSettings process.environ) op process.world).1 ∧
      (processAnswer readSettings surroundings op process).2.world =
        (plainAnswer surroundings (readSettings process.environ) op process.world).2 ∧
      (processAnswer readSettings surroundings op process).2.environ = process.environ ∧
      SettledProcess readSettings (processAnswer readSettings surroundings op process).2 := by
  cases op with
  | perfCounter => exact ⟨rfl, rfl, rfl, h⟩
  | outside op => exact ⟨rfl, rfl, rfl, h⟩
  | getSettings =>
    simp only [processAnswer, plainAnswer]
    cases hcache : process.settingsCache with
    | some settings => exact ⟨(h settings hcache).symm, rfl, rfl, h⟩
    | none =>
      cases hread : readSettings process.environ with
      | error exc => exact ⟨rfl, rfl, rfl, h⟩
      | ok settings =>
        refine ⟨rfl, rfl, rfl, fun settings' hsettings => ?_⟩
        cases hsettings
        exact hread

/-- So does a whole run. -/
theorem run_processAnswer {α : Type} (program : Program (runSignature S Settings) PyException α)
    {process : ScriptProcess Settings World} (h : SettledProcess readSettings process) :
    ∃ cache, program.run (processAnswer readSettings surroundings) process =
      ((program.run (plainAnswer surroundings (readSettings process.environ)) process.world).1,
        { environ := process.environ
          settingsCache := cache
          world := (program.run (plainAnswer surroundings (readSettings process.environ))
            process.world).2 }) := by
  induction program generalizing process with
  | ret value => exact ⟨process.settingsCache, rfl⟩
  | raise exc => exact ⟨process.settingsCache, rfl⟩
  | call op next ih =>
    obtain ⟨houtcome, hworld, henviron, hsettled⟩ :=
      processAnswer_eq surroundings h op
    obtain ⟨cache, hrun⟩ := ih (processAnswer readSettings surroundings op process).1 hsettled
    refine ⟨cache, ?_⟩
    rw [Program.run_call, Program.run_call, hrun, henviron, hworld, houtcome]

/-- A run on a process is a run with settings of its own. It leaves the environment as it was, and
nothing in the cache. -/
theorem runWithModel_eq (model : String) (process : ScriptProcess Settings World) :
    runWithModel readSettings surroundings factory corpus model process =
      ((runOnItsOwn readSettings surroundings factory corpus process.environ model process.world).1,
        { environ := process.environ
          settingsCache := none
          world := (runOnItsOwn readSettings surroundings factory corpus process.environ model
            process.world).2 }) := by
  have hsettled : SettledProcess readSettings { process with
      environ := process.environ.setModel model
      settingsCache := none } := fun _ hcache => nomatch hcache
  obtain ⟨cache, hrun⟩ := run_processAnswer surroundings (modelProgram factory corpus) hsettled
  rw [runWithModel, hrun]
  simp only [Environ.restoreModel_setModel]
  rfl

end Runs

/-! ### The check -/

section Check

variable {τ : Type}

/-- The loop over the candidates, each of which is run in turn. -/
def tryRuns (run : String → τ → Except PyException (List DocOutputs) × τ)
    (report : String → List DocOutputs → CandidateReport) :
    List String → τ → Except PyException (List CandidateReport × Option String) × τ
  | [], s => (.ok ([], none), s)
  | candidate :: candidates, s =>
    match run candidate s with
    | (.error exc, s) => (.error exc, s)
    | (.ok candidateOutputs, s) =>
      let candidateReport := report candidate candidateOutputs
      if candidateReport.passed then (.ok ([candidateReport], some candidate), s)
      else
        match tryRuns run report candidates s with
        | (.error exc, s) => (.error exc, s)
        | (.ok (candidateReports, winner), s) =>
          (.ok (candidateReport :: candidateReports, winner), s)

/-- `run_regression_check`, with `run` for the run under one model. -/
def regressionScript (run : String → τ → Except PyException (List DocOutputs) × τ)
    (tables : CaseTables) (baselineModel : String) (candidates : List String)
    (cpuFallback : String) (tolerance : PyFloat) (s : τ) :
    Except PyException RegressionResult × τ :=
  match run baselineModel s with
  | (.error exc, s) => (.error exc, s)
  | (.ok baselineOutputs, s) =>
    let baselineMeanLatency := meanLatency baselineOutputs
    let report := fun candidate candidateOutputs =>
      buildCandidateReport candidate (compareRuns tables baselineOutputs candidateOutputs)
        candidateOutputs baselineMeanLatency tolerance
    match tryRuns run report candidates s with
    | (.error exc, s) => (.error exc, s)
    | (.ok (candidateReports, winner), s) =>
      (.ok { baselineModel, baselineOutputs, candidateReports, winner
             recommendation := buildRecommendation winner candidateReports cpuFallback
             tolerance, cpuFallback }, s)

/-- The loop over the candidates, for the runs that it makes. -/
theorem tryRuns_outcome (run : String → τ → Except PyException (List DocOutputs) × τ)
    (report : String → List DocOutputs → CandidateReport) (candidates : List String) (s : τ) :
    match (tryRuns run report candidates s).1 with
    | .error exc => ∃ candidate ∈ candidates, ∃ s', (run candidate s').1 = .error exc
    | .ok outcome => ∃ ran rest, candidates = ran.map Prod.fst ++ rest ∧
        (outcome.2 = none → rest = []) ∧ outcome = tryCandidates report ran ∧
          ∀ entry ∈ ran, ∃ s', (run entry.1 s').1 = .ok entry.2 := by
  induction candidates generalizing s with
  | nil => exact ⟨[], [], rfl, fun _ => rfl, rfl, fun _ h => nomatch h⟩
  | cons candidate candidates ih =>
    rw [tryRuns]
    rcases hrun : run candidate s with ⟨exc | outputs, s'⟩
    · exact ⟨candidate, List.mem_cons_self, s, congrArg Prod.fst hrun⟩
    · have hthis : (run candidate s).1 = .ok outputs := congrArg Prod.fst hrun
      by_cases hpassed : (report candidate outputs).passed = true
      · simp only [hpassed, if_true]
        refine ⟨[(candidate, outputs)], candidates, rfl, (fun h => nomatch h), ?_, ?_⟩
        · rw [tryCandidates, if_pos hpassed]
        · exact List.forall_mem_singleton.mpr ⟨s, hthis⟩
      · simp only [hpassed]
        have hrest := ih s'
        rcases htry : tryRuns run report candidates s' with ⟨exc | outcome, s''⟩
        · rw [htry] at hrest
          obtain ⟨other, hother, hfailed⟩ := hrest
          exact ⟨other, List.mem_cons_of_mem _ hother, hfailed⟩
        · rw [htry] at hrest
          obtain ⟨ran, rest, rfl, hnone, rfl, hran⟩ := hrest
          refine ⟨(candidate, outputs) :: ran, rest, rfl, hnone, ?_,
            List.forall_mem_cons.mpr ⟨⟨s, hthis⟩, hran⟩⟩
          rw [tryCandidates, if_neg hpassed]

/-- Runs that only differ in the state they are on make the same loop. -/
theorem tryRuns_map {τ' : Type} {run : String → τ → Except PyException (List DocOutputs) × τ}
    {run' : String → τ' → Except PyException (List DocOutputs) × τ'} {f : τ → τ'}
    (h : ∀ model s, run' model (f s) = Prod.map id f (run model s))
    (report : String → List DocOutputs → CandidateReport) (candidates : List String) (s : τ) :
    tryRuns run' report candidates (f s) = Prod.map id f (tryRuns run report candidates s) := by
  induction candidates generalizing s with
  | nil => rfl
  | cons candidate candidates ih =>
    rw [tryRuns, tryRuns, h]
    rcases run candidate s with ⟨exc | outputs, s'⟩
    · rfl
    · simp only [Prod.map, id, ih]
      by_cases hpassed : (report candidate outputs).passed = true
      · simp only [hpassed, if_true]
      · simp only [hpassed]
        rcases tryRuns run report candidates s' with ⟨exc | outcome, s''⟩ <;> rfl

end Check

/-! ### The outputs of a run -/

section Outputs

variable (surroundings : Surroundings S World) (settings : Except PyException Settings)

/-- A document gives an output whatever the pipeline does, under its own name. -/
theorem run_singleDocProgram (orchestrator : OrchestratorRun S Settings) (pdf : String × String)
    (world : World) : ∃ doc, ((singleDocProgram orchestrator pdf).run
      (plainAnswer surroundings settings) world).1 = .ok doc ∧ (doc.path, doc.filename) = pdf := by
  have hname (run : DocRun) :
      ((runSingleDoc run).path, (runSingleDoc run).filename) = (run.path, run.filename) := by
    rw [runSingleDoc]
    cases run.result <;> rfl
  -- the clock never fails
  have hstarted : (singleDocProgram orchestrator pdf).run (plainAnswer surroundings settings)
      world = ((orchestrator pdf.1).attempt >>= fun result => do
        let ended : ℚ ← Program.perform (S := runSignature S Settings) .perfCounter
        pure (runSingleDoc { path := pdf.1, filename := pdf.2, result,
                             elapsed := ended - (surroundings.clock world).1 })).run
        (plainAnswer surroundings settings) (surroundings.clock world).2 := rfl
  rw [hstarted, Program.run_bind, Program.run_attempt]
  exact ⟨_, rfl, hname _⟩

/-- A corpus gives one output for every document. -/
theorem run_corpusProgram (orchestrator : OrchestratorRun S Settings)
    (corpus : List (String × String)) (world : World) :
    ∃ docs, ((corpusProgram orchestrator corpus).run (plainAnswer surroundings settings)
      world).1 = .ok docs ∧ docs.map (fun doc => (doc.path, doc.filename)) = corpus := by
  induction corpus generalizing world with
  | nil => exact ⟨[], rfl, rfl⟩
  | cons pdf corpus ih =>
    obtain ⟨doc, hdoc, hname⟩ := run_singleDocProgram surroundings settings orchestrator pdf world
    rcases hrun : (singleDocProgram orchestrator pdf).run (plainAnswer surroundings settings)
      world with ⟨outcome, world'⟩
    obtain rfl : outcome = .ok doc := by rwa [hrun] at hdoc
    obtain ⟨docs, hdocs, hnames⟩ := ih world'
    rcases hrest : (corpusProgram orchestrator corpus).run (plainAnswer surroundings settings)
      world' with ⟨outcome, world''⟩
    obtain rfl : outcome = .ok docs := by rwa [hrest] at hdocs
    refine ⟨doc :: docs, ?_, congrArg₂ List.cons hname hnames⟩
    simp only [corpusProgram, Program.run_bind, hrun, hrest, Program.pure_def, Program.run_ret]

/-- A run has one output for every document, and only fails where the orchestrator cannot be
built. -/
theorem run_modelProgram
    (factory : Program (runSignature S Settings) PyException (OrchestratorRun S Settings))
    (corpus : List (String × String)) (world : World) :
    match ((modelProgram factory corpus).run (plainAnswer surroundings settings) world).1 with
    | .error exc => (factory.run (plainAnswer surroundings settings) world).1 = .error exc
    | .ok docs => docs.map (fun doc => (doc.path, doc.filename)) = corpus := by
  simp only [modelProgram, Program.run_bind]
  rcases factory.run (plainAnswer surroundings settings) world with ⟨exc | orchestrator, world'⟩
  · rfl
  · obtain ⟨docs, hdocs, hnames⟩ := run_corpusProgram surroundings settings orchestrator corpus
      world'
    simp only [hdocs]
    exact hnames

end Outputs

section Script

variable (readSettings : Environ → Except PyException Settings)
  (surroundings : Surroundings S World)
  (factory : Program (runSignature S Settings) PyException (OrchestratorRun S Settings))
  (corpus : List (String × String)) (tables : CaseTables) (baselineModel : String)
  (candidates : List String) (cpuFallback : String) (tolerance : PyFloat)
  (process : ScriptProcess Settings World)

/-- The process that a run leaves. -/
def leftBy (environ : Environ) (world : World) : ScriptProcess Settings World where
  environ := environ
  settingsCache := none
  world := world

/-- The check on a process is the check with runs that have settings of their own. It leaves the
environment as it was, and nothing in the cache. -/
theorem regressionScript_eq :
    regressionScript (runWithModel readSettings surroundings factory corpus) tables baselineModel
        candidates cpuFallback tolerance process =
      Prod.map id (leftBy process.environ)
        (regressionScript (runOnItsOwn readSettings surroundings factory corpus process.environ)
          tables baselineModel candidates cpuFallback tolerance process.world) := by
  have hrun (model : String) (world : World) :
      runWithModel readSettings surroundings factory corpus model (leftBy process.environ world) =
        Prod.map id (leftBy process.environ)
          (runOnItsOwn readSettings surroundings factory corpus process.environ model world) :=
    runWithModel_eq surroundings factory corpus model (leftBy process.environ world)
  have hbaseline : runWithModel readSettings surroundings factory corpus baselineModel process =
      Prod.map id (leftBy process.environ) (runOnItsOwn readSettings surroundings factory corpus
        process.environ baselineModel process.world) :=
    runWithModel_eq surroundings factory corpus baselineModel process
  rw [regressionScript, regressionScript, hbaseline]
  rcases runOnItsOwn readSettings surroundings factory corpus process.environ baselineModel
    process.world with ⟨exc | baselineOutputs, world⟩
  · rfl
  · simp only [Prod.map, id, tryRuns_map hrun]
    rcases tryRuns (runOnItsOwn readSettings surroundings factory corpus process.environ) _
      candidates world with ⟨exc | outcome, world'⟩ <;> rfl

/-- What a check on a process comes to, whatever had been cached before: it fails where the
orchestrator of some model cannot be built under the settings of this model, and otherwise has the
result that the outputs of the models determine, each of which has been run on every document under
its own settings. The environment is left as it was, and nothing in the cache. -/
theorem regressionScript_outcome :
    (regressionScript (runWithModel readSettings surroundings factory corpus) tables baselineModel
        candidates cpuFallback tolerance process).2.environ = process.environ ∧
      (regressionScript (runWithModel readSettings surroundings factory corpus) tables baselineModel
        candidates cpuFallback tolerance process).2.settingsCache = none ∧
      match (regressionScript (runWithModel readSettings surroundings factory corpus) tables
        baselineModel candidates cpuFallback tolerance process).1 with
      | .error exc => ∃ model ∈ baselineModel :: candidates, ∃ world,
          (factory.run (plainAnswer surroundings
            (readSettings (process.environ.setModel model))) world).1 = .error exc
      | .ok result => ∃ baselineOutputs ran rest, candidates = ran.map Prod.fst ++ rest ∧
          (result.winner = none → rest = []) ∧
          result = runRegressionCheck tables baselineModel baselineOutputs ran cpuFallback
            tolerance ∧
          ∀ entry ∈ (baselineModel, baselineOutputs) :: ran,
            entry.2.map (fun doc => (doc.path, doc.filename)) = corpus ∧
              ∃ world, (runOnItsOwn readSettings surroundings factory corpus process.environ entry.1
                world).1 = .ok entry.2 := by
  have hruns (model : String) (outputs : List DocOutputs) (h : ∃ world, (runOnItsOwn readSettings
      surroundings factory corpus process.environ model world).1 = .ok outputs) :
      outputs.map (fun doc => (doc.path, doc.filename)) = corpus ∧
        ∃ world, (runOnItsOwn readSettings surroundings factory corpus process.environ model
          world).1 = .ok outputs := by
    refine ⟨?_, h⟩
    obtain ⟨world, hworld⟩ := h
    have hnames := run_modelProgram surroundings (readSettings (process.environ.setModel model))
      factory corpus world
    rw [runOnItsOwn] at hworld
    rwa [hworld] at hnames
  have hfails (model : String) (exc : PyException) (h : ∃ world, (runOnItsOwn readSettings
      surroundings factory corpus process.environ model world).1 = .error exc) :
      ∃ world, (factory.run (plainAnswer surroundings
        (readSettings (process.environ.setModel model))) world).1 = .error exc := by
    obtain ⟨world, hworld⟩ := h
    have hbuilt := run_modelProgram surroundings (readSettings (process.environ.setModel model))
      factory corpus world
    rw [runOnItsOwn] at hworld
    rw [hworld] at hbuilt
    exact ⟨world, hbuilt⟩
  rw [regressionScript_eq]
  refine ⟨rfl, rfl, ?_⟩
  simp only [Prod.map, id]
  rw [regressionScript]
  rcases hbaseline : runOnItsOwn readSettings surroundings factory corpus process.environ
    baselineModel process.world with ⟨exc | baselineOutputs, world⟩
  · exact ⟨baselineModel, List.mem_cons_self, hfails _ _ ⟨_, congrArg Prod.fst hbaseline⟩⟩
  · have htry := tryRuns_outcome
      (runOnItsOwn readSettings surroundings factory corpus process.environ)
      (fun candidate candidateOutputs => buildCandidateReport candidate
        (compareRuns tables baselineOutputs candidateOutputs) candidateOutputs
        (meanLatency baselineOutputs) tolerance) candidates world
    simp only
    rcases htried : tryRuns (runOnItsOwn readSettings surroundings factory corpus process.environ) _
      candidates world with ⟨exc | outcome, world'⟩
    · rw [htried] at htry
      obtain ⟨candidate, hcandidate, hfailed⟩ := htry
      exact ⟨candidate, List.mem_cons_of_mem _ hcandidate, hfails _ _ hfailed⟩
    · rw [htried] at htry
      obtain ⟨ran, rest, hsplit, hnone, rfl, hran⟩ := htry
      refine ⟨baselineOutputs, ran, rest, hsplit, hnone, rfl, List.forall_mem_cons.mpr
        ⟨hruns _ _ ⟨_, congrArg Prod.fst hbaseline⟩, fun entry hentry => hruns _ _ (hran _ hentry)⟩⟩

end Script

end ZubotIngestion
