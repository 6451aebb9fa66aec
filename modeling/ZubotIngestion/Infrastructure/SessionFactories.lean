import ZubotIngestion.Python.Value

/-!
# The session factory of the process

`infrastructure/database/session.py` keeps a default engine and one session factory in module
globals. `get_sessionmaker` overwrites the factory for an engine that is not the default one, and
returns the factory it finds for the default one, whatever that is bound to.

## Main definitions

* `SessionGlobals`, `getSessionmaker`, `SessionCall.perform`: the globals and the calls.
* `BoundAsRequested`: what a run of calls should return.
* `Ledger`, `Orderly`: the default engine, and whether another one has been asked for.

## Main results

* `Tracks.perform`: what the globals hold after a call.
* `boundAsRequested_iff`: when the factories are those that were asked for.
-/

namespace ZubotIngestion

variable {ε : Type} [DecidableEq ε]

/-! ### The module -/

/-- `async_sessionmaker(bind=engine)`. -/
structure SessionFactory (ε : Type) where
  bind : ε

/-- `_engine` and `_sessionmaker`. Engines are compared by identity. -/
structure SessionGlobals (ε : Type) where
  engine : Option ε
  sessionmaker : Option (SessionFactory ε)

namespace SessionGlobals

/-- The globals after the import of the module. -/
def initial : SessionGlobals ε := ⟨none, none⟩

/-- `get_sessionmaker`, once the engine is known. -/
def factoryFor (engine : ε) (g : SessionGlobals ε) : SessionFactory ε × SessionGlobals ε :=
  match g.sessionmaker with
  | some factory =>
    if g.engine ≠ some engine then (⟨engine⟩, { g with sessionmaker := some ⟨engine⟩ })
    else (factory, g)
  | none => (⟨engine⟩, { g with sessionmaker := some ⟨engine⟩ })

/-- `get_sessionmaker`. What `create_engine()` would do is given by `created`. -/
def getSessionmaker (engine : Option ε) (created : Except PyException ε) (g : SessionGlobals ε) :
    Except PyException (SessionFactory ε) × SessionGlobals ε :=
  match engine with
  | some engine => (factoryFor engine g).map .ok id
  | none =>
    match g.engine with
    | some default => (factoryFor default g).map .ok id
    | none =>
      match created with
      | .error exc => (.error exc, g)
      | .ok default => (factoryFor default { g with engine := some default }).map .ok id

/-- `dispose_engine`. The exception of `engine.dispose()` is given by `raised`. -/
def disposeEngine (raised : Option PyException) (g : SessionGlobals ε) :
    Except PyException Unit × SessionGlobals ε :=
  match g.engine, raised with
  | some _, some exc => (.error exc, g)
  | _, _ => (.ok (), initial)

end SessionGlobals

/-- A call of a function of the module. -/
inductive SessionCall (ε : Type) : Type where
  | getSessionmaker (engine : Option ε) (created : Except PyException ε)
  | getSession (created : Except PyException ε)
  | disposeEngine (raised : Option PyException)

namespace SessionCall

/-- The factory a call returns, or uses to make its session, and the globals it leaves. -/
def perform (g : SessionGlobals ε) :
    SessionCall ε → Except PyException (Option (SessionFactory ε)) × SessionGlobals ε
  | .getSessionmaker engine created =>
    (g.getSessionmaker engine created).map (Except.map some) id
  | .getSession created => (g.getSessionmaker none created).map (Except.map some) id
  | .disposeEngine raised => (g.disposeEngine raised).map (Except.map fun _ => none) id

/-- What `create_engine()` would do in a call for the default engine. -/
def default? : SessionCall ε → Option (Except PyException ε)
  | .getSessionmaker none created | .getSession created => some created
  | .getSessionmaker (some _) _ | .disposeEngine _ => none

/-- The engine of a call for a given engine. -/
def custom? : SessionCall ε → Option ε
  | .getSessionmaker engine _ => engine
  | .getSession _ | .disposeEngine _ => none

/-- The default engine that a call for it uses: the present one, or else a new one. -/
def currentDefault (default : Option ε) (created : Except PyException ε) : Except PyException ε :=
  default.elim created .ok

/-- A call is answered with a factory for the engine it asks for. -/
def Bound (g : SessionGlobals ε) : SessionCall ε → Prop
  | .getSessionmaker (some engine) created =>
    (perform g (.getSessionmaker (some engine) created)).1 = .ok (some ⟨engine⟩)
  | .getSessionmaker none created =>
    (perform g (.getSessionmaker none created)).1 =
      (currentDefault g.engine created).map fun default => some ⟨default⟩
  | .getSession created =>
    (perform g (.getSession created)).1 =
      (currentDefault g.engine created).map fun default => some ⟨default⟩
  | .disposeEngine _ => True

/-! ### What the calls ask for -/

/-- The default engine after a call. -/
def nextDefault (default : Option ε) : SessionCall ε → Option ε
  | .getSessionmaker none created | .getSession created =>
    (currentDefault default created).toOption
  | .getSessionmaker (some _) _ => default
  | .disposeEngine raised => if default.isSome && raised.isSome then default else none

/-- Whether a call asks for the default engine, and there is one. -/
def asksDefault (default : Option ε) : SessionCall ε → Bool
  | .getSessionmaker none created | .getSession created => (currentDefault default created).isOk
  | .getSessionmaker (some engine) _ => decide (default = some engine)
  | .disposeEngine _ => false

/-- Whether a call asks for an engine that is not the default one. -/
def asksOther (default : Option ε) : SessionCall ε → Bool
  | .getSessionmaker (some engine) _ => decide (default ≠ some engine)
  | .getSessionmaker none _ | .getSession _ | .disposeEngine _ => false

/-- Whether a call disposes the default engine, or finds none. -/
def resets (default : Option ε) : SessionCall ε → Bool
  | .disposeEngine raised => !(default.isSome && raised.isSome)
  | .getSessionmaker .. | .getSession _ => false

/-- An engine that a call is given, or would make. -/
def Names (c : SessionCall ε) (engine : ε) : Prop :=
  c.custom? = some engine ∨ c.default? = some (.ok engine)

end SessionCall

/-- The default engine, and whether another one has been asked for since the last dispose. -/
structure Ledger (ε : Type) where
  default : Option ε
  other : Bool

/-- The ledger after a call. -/
def Ledger.next (l : Ledger ε) (c : SessionCall ε) : Ledger ε where
  default := c.nextDefault l.default
  other := !c.resets l.default && (l.other || c.asksOther l.default)

/-- No call asks for the default engine after another one has been asked for, without a dispose
between them. -/
def Orderly : Ledger ε → List (SessionCall ε) → Prop
  | _, [] => True
  | l, c :: calls => (l.other = true → c.asksDefault l.default = false) ∧ Orderly (l.next c) calls

/-! ### Runs -/

/-- What the calls for the default engine return in a run. -/
def defaultAnswers : SessionGlobals ε → List (SessionCall ε) →
    List (Except PyException (Option (SessionFactory ε)))
  | _, [] => []
  | g, c :: calls =>
    if c.default?.isSome then (c.perform g).1 :: defaultAnswers (c.perform g).2 calls
    else defaultAnswers (c.perform g).2 calls

/-- Each call of a run is answered with a factory for the engine it asks for, and a call for a given
engine does not change what later calls for the default one return. -/
def BoundAsRequested : SessionGlobals ε → List (SessionCall ε) → Prop
  | _, [] => True
  | g, c :: calls => c.Bound g ∧
    (c.custom?.isSome → defaultAnswers (c.perform g).2 calls = defaultAnswers g calls) ∧
      BoundAsRequested (c.perform g).2 calls

/-- An engine that is made is none of those that have been named before. -/
def EnginesNew (calls : List (SessionCall ε)) : Prop :=
  calls.Pairwise fun c c' => ∀ engine, c'.default? = some (.ok engine) → ¬ c.Names engine

/-! ### One call -/

namespace SessionGlobals

/-- The factory is bound to another engine than the default one. -/
def Stale (g : SessionGlobals ε) : Prop :=
  ∃ factory, g.sessionmaker = some factory ∧ g.engine ≠ some factory.bind

/-- The globals refer to an engine. -/
def Refers (g : SessionGlobals ε) (engine : ε) : Prop :=
  g.engine = some engine ∨ g.sessionmaker = some ⟨engine⟩

omit [DecidableEq ε] in
theorem stale_iff {g : SessionGlobals ε} {factory : SessionFactory ε}
    (h : g.sessionmaker = some factory) : g.Stale ↔ g.engine ≠ some factory.bind :=
  ⟨fun ⟨_, hsome, hne⟩ => Option.some.inj (h.symm.trans hsome) ▸ hne,
    fun hne => ⟨factory, h, hne⟩⟩

omit [DecidableEq ε] in
/-- The factory for the default engine is bound to it unless it is stale. -/
theorem getD_sessionmaker_eq_iff {g : SessionGlobals ε} {default : ε}
    (h : g.engine = some default ∨ g.engine = none ∧ ¬ g.Refers default) :
    g.sessionmaker.getD ⟨default⟩ = ⟨default⟩ ↔ ¬ g.Stale := by
  cases hfactory : g.sessionmaker with
  | none =>
    refine iff_of_true rfl ?_
    rintro ⟨factory, hsome, -⟩
    cases hfactory.symm.trans hsome
  | some factory =>
    rw [stale_iff hfactory, not_not, Option.getD_some]
    rcases h with hengine | ⟨hengine, hnew⟩
    · rw [hengine, Option.some_inj]
      exact ⟨fun heq => heq ▸ rfl, fun heq => heq ▸ rfl⟩
    · rw [hengine]
      refine iff_of_false (fun heq => hnew (Or.inr ?_)) nofun
      rw [hfactory, heq]

theorem factoryFor_eq (engine : ε) (g : SessionGlobals ε) :
    factoryFor engine g =
      if g.engine = some engine then
        (g.sessionmaker.getD ⟨engine⟩, { g with sessionmaker := g.sessionmaker.getD ⟨engine⟩ })
      else (⟨engine⟩, { g with sessionmaker := some ⟨engine⟩ }) := by
  obtain ⟨default, _ | factory⟩ := g
  · exact (ite_self _).symm
  · by_cases h : default = some engine
    · rw [if_pos h]
      exact if_neg (not_not.mpr h)
    · rw [if_neg h]
      exact if_pos h

end SessionGlobals

namespace SessionCall

open SessionGlobals

variable {g : SessionGlobals ε}

/-- A call for the default engine returns the factory there is, whatever it is bound to. -/
theorem perform_default (g : SessionGlobals ε) (created : Except PyException ε) :
    perform g (.getSessionmaker none created) =
      match currentDefault g.engine created with
      | .error exc => (.error exc, g)
      | .ok default => (.ok (some (g.sessionmaker.getD ⟨default⟩)),
          ⟨some default, some (g.sessionmaker.getD ⟨default⟩)⟩) := by
  obtain ⟨engine, factory⟩ := g
  have hfactory (default : ε) : factoryFor default ⟨some default, factory⟩ =
      (factory.getD ⟨default⟩, ⟨some default, some (factory.getD ⟨default⟩)⟩) :=
    (factoryFor_eq default _).trans (if_pos rfl)
  cases engine with
  | some default =>
    change Prod.map (Except.map some) id
      (Prod.map Except.ok id (factoryFor default ⟨some default, factory⟩)) = _
    rw [hfactory]
    rfl
  | none =>
    cases created with
    | error exc => rfl
    | ok default =>
      change Prod.map (Except.map some) id
        (Prod.map Except.ok id (factoryFor default ⟨some default, factory⟩)) = _
      rw [hfactory]
      rfl

theorem perform_custom (g : SessionGlobals ε) (engine : ε) (created : Except PyException ε) :
    perform g (.getSessionmaker (some engine) created) =
      if g.engine = some engine then
        (.ok (some (g.sessionmaker.getD ⟨engine⟩)),
          { g with sessionmaker := g.sessionmaker.getD ⟨engine⟩ })
      else (.ok (some ⟨engine⟩), { g with sessionmaker := some ⟨engine⟩ }) := by
  rw [perform, SessionGlobals.getSessionmaker, factoryFor_eq]
  split_ifs <;> rfl

theorem perform_dispose (g : SessionGlobals ε) (raised : Option PyException) :
    (perform g (.disposeEngine raised)).2 =
      if g.engine.isSome && raised.isSome then g else initial := by
  obtain ⟨_ | default, factory⟩ := g <;> cases raised <;> rfl

end SessionCall

/-! ### What the ledger says about the globals -/

/-- The ledger knows the default engine, and whether the factory is stale. -/
structure Tracks (l : Ledger ε) (g : SessionGlobals ε) : Prop where
  engine : g.engine = l.default
  other : l.other = true ↔ g.Stale

namespace Tracks

open SessionGlobals SessionCall

variable {l : Ledger ε} {g : SessionGlobals ε}

omit [DecidableEq ε] in
/-- The factory for the default engine is the one that is asked for, unless another one has been
asked for. -/
theorem getD_sessionmaker_eq_iff (h : Tracks l g) {default : ε}
    (hdefault : g.engine = some default ∨ g.engine = none ∧ ¬ g.Refers default) :
    g.sessionmaker.getD ⟨default⟩ = ⟨default⟩ ↔ l.other = false := by
  rw [SessionGlobals.getD_sessionmaker_eq_iff hdefault, ← h.other, Bool.not_eq_true]

omit [DecidableEq ε] in
/-- It stays what it is. -/
theorem stale_getD_sessionmaker_iff (h : Tracks l g) {default : ε}
    (hdefault : g.engine = some default ∨ g.engine = none ∧ ¬ g.Refers default) :
    Stale ⟨some default, some (g.sessionmaker.getD ⟨default⟩)⟩ ↔ l.other = true := by
  have hbind : some default ≠ some (g.sessionmaker.getD ⟨default⟩).bind ↔
      ¬ g.sessionmaker.getD ⟨default⟩ = ⟨default⟩ := by
    rw [ne_eq, Option.some_inj, not_iff_not]
    exact ⟨fun heq => (congrArg SessionFactory.mk heq).symm,
      fun heq => (congrArg SessionFactory.bind heq).symm⟩
  rw [stale_iff rfl, hbind, h.getD_sessionmaker_eq_iff hdefault, Bool.not_eq_false]

omit [DecidableEq ε] in
/-- Whether the default engine is answered with its factory. -/
theorem answer_eq_iff (h : Tracks l g) {default : ε}
    (hdefault : g.engine = some default ∨ g.engine = none ∧ ¬ g.Refers default) :
    (.ok (some (g.sessionmaker.getD ⟨default⟩)) : Except PyException (Option (SessionFactory ε))) =
      .ok (some ⟨default⟩) ↔ (l.other = true → true = false) := by
  rw [Except.ok.injEq, Option.some_inj, h.getD_sessionmaker_eq_iff hdefault]
  cases l.other <;> decide

/-- A call for the default engine. -/
theorem perform_default (h : Tracks l g) {created : Except PyException ε}
    (hnew : ∀ default, created = .ok default → ¬ g.Refers default) :
    Tracks (l.next (.getSessionmaker none created)) (perform g (.getSessionmaker none created)).2 ∧
      (Bound g (.getSessionmaker none created) ↔
        (l.other = true → asksDefault l.default (.getSessionmaker none created) = false)) := by
  have hnext : (l.next (.getSessionmaker none created)).default =
      (currentDefault g.engine created).toOption := by
    rw [h.engine]
    rfl
  have hother : (l.next (.getSessionmaker none created)).other = l.other := Bool.or_false l.other
  rw [Bound, SessionCall.perform_default, asksDefault, ← h.engine]
  cases hcurrent : currentDefault g.engine created with
  | error exc =>
    have hengine : g.engine = none := by
      cases hsome : g.engine with
      | none => rfl
      | some d =>
        rw [hsome] at hcurrent
        cases hcurrent
    rw [hcurrent] at hnext
    exact ⟨⟨hengine.trans hnext.symm, hother ▸ h.other⟩, iff_of_true rfl fun _ => rfl⟩
  | ok default =>
    have hdefault : g.engine = some default ∨ g.engine = none ∧ ¬ g.Refers default := by
      cases hsome : g.engine with
      | none =>
        rw [hsome] at hcurrent
        exact Or.inr ⟨rfl, hnew default hcurrent⟩
      | some d =>
        rw [hsome] at hcurrent
        exact Or.inl (congrArg some (Except.ok.inj hcurrent))
    rw [hcurrent] at hnext
    refine ⟨⟨hnext.symm, ?_⟩, h.answer_eq_iff hdefault⟩
    rw [hother, h.stale_getD_sessionmaker_iff hdefault]

/-- A call for a given engine. -/
theorem perform_custom (h : Tracks l g) (engine : ε) (created : Except PyException ε) :
    Tracks (l.next (.getSessionmaker (some engine) created))
        (perform g (.getSessionmaker (some engine) created)).2 ∧
      (Bound g (.getSessionmaker (some engine) created) ↔ (l.other = true →
        asksDefault l.default (.getSessionmaker (some engine) created) = false)) := by
  have hother : (l.next (.getSessionmaker (some engine) created)).other =
      (l.other || decide (g.engine ≠ some engine)) := by
    rw [h.engine]
    rfl
  rw [Bound, SessionCall.perform_custom, asksDefault, ← h.engine]
  by_cases hengine : g.engine = some engine
  · rw [decide_eq_false (not_not.mpr hengine), Bool.or_false] at hother
    rw [if_pos hengine, decide_eq_true hengine]
    have hstale := h.stale_getD_sessionmaker_iff (Or.inl hengine)
    rw [← hengine] at hstale
    exact ⟨⟨h.engine, hother ▸ hstale.symm⟩, h.answer_eq_iff (Or.inl hengine)⟩
  · rw [decide_eq_true hengine, Bool.or_true] at hother
    rw [if_neg hengine, decide_eq_false hengine]
    exact ⟨⟨h.engine, iff_of_true hother ⟨_, rfl, hengine⟩⟩, iff_of_true rfl fun _ => rfl⟩

/-- A dispose makes the module as new, unless it raises. -/
theorem perform_dispose (h : Tracks l g) (raised : Option PyException) :
    Tracks (l.next (.disposeEngine raised)) (perform g (.disposeEngine raised)).2 := by
  rw [SessionCall.perform_dispose, Ledger.next, nextDefault, resets, asksOther, Bool.or_false,
    Bool.not_not, ← h.engine]
  split_ifs with hraised
  · rw [hraised, Bool.true_and]
    exact ⟨rfl, h.other⟩
  · rw [Bool.eq_false_of_not_eq_true hraised, Bool.false_and]
    refine ⟨rfl, iff_of_false Bool.false_ne_true ?_⟩
    rintro ⟨factory, hfactory, -⟩
    cases hfactory

/-- A call that names no new engine is answered as it asks unless the factory is stale. -/
theorem perform (h : Tracks l g) {c : SessionCall ε}
    (hnew : ∀ default, c.default? = some (.ok default) → ¬ g.Refers default) :
    Tracks (l.next c) (c.perform g).2 ∧
      (c.Bound g ↔ (l.other = true → c.asksDefault l.default = false)) := by
  cases c with
  | getSessionmaker engine created =>
    cases engine with
    | none => exact h.perform_default fun default heq => hnew default (congrArg some heq)
    | some engine => exact h.perform_custom engine created
  | getSession created =>
    exact h.perform_default fun default heq => hnew default (congrArg some heq)
  | disposeEngine raised => exact ⟨h.perform_dispose raised, iff_of_true trivial fun _ => rfl⟩

end Tracks

/-! ### Runs of calls -/

/-- The engines that are made in a run are new, also to the globals it starts from. -/
structure NewTo (g : SessionGlobals ε) (calls : List (SessionCall ε)) : Prop where
  among : EnginesNew calls
  start : ∀ c ∈ calls, ∀ default, c.default? = some (.ok default) → ¬ g.Refers default

namespace SessionGlobals

omit [DecidableEq ε] in
/-- The globals with the factory there is refer to no new engine but the default one. -/
theorem Refers.of_getD {g : SessionGlobals ε} {default engine : ε}
    (h : Refers ⟨some default, some (g.sessionmaker.getD ⟨default⟩)⟩ engine) :
    g.Refers engine ∨ default = engine := by
  rcases h with hengine | hfactory
  · exact Or.inr (Option.some.inj hengine)
  · have hgetD : g.sessionmaker.getD ⟨default⟩ = ⟨engine⟩ := Option.some.inj hfactory
    cases hsome : g.sessionmaker with
    | none =>
      rw [hsome] at hgetD
      exact Or.inr (congrArg SessionFactory.bind hgetD)
    | some factory =>
      rw [hsome] at hgetD
      exact Or.inl (Or.inr (hsome.trans (congrArg some hgetD)))

/-- After a call the globals refer to no new engine but those the call names. -/
theorem Refers.of_perform {g : SessionGlobals ε} {c : SessionCall ε} {engine : ε}
    (h : (c.perform g).2.Refers engine) : g.Refers engine ∨ c.Names engine := by
  have hdefault {created : Except PyException ε}
      (h : (SessionCall.perform g (.getSessionmaker none created)).2.Refers engine) :
      g.Refers engine ∨ created = .ok engine := by
    rw [SessionCall.perform_default] at h
    cases hengine : g.engine with
    | some default =>
      rw [hengine] at h
      rcases h.of_getD with hrefers | rfl
      · exact Or.inl hrefers
      · exact Or.inl (Or.inl hengine)
    | none =>
      rw [hengine] at h
      cases created with
      | error exc => exact Or.inl h
      | ok default => exact h.of_getD.imp_right (congrArg Except.ok)
  cases c with
  | getSessionmaker asked created =>
    cases asked with
    | none => exact (hdefault h).imp_right fun heq => Or.inr (congrArg some heq)
    | some asked =>
      rw [SessionCall.perform_custom] at h
      split_ifs at h with hengine
      · rw [hengine] at h
        exact h.of_getD.imp_right fun heq => Or.inl (congrArg some heq)
      · rcases h with hdefault | hfactory
        · exact Or.inl (Or.inl hdefault)
        · exact Or.inr (Or.inl (congrArg (Option.map SessionFactory.bind) hfactory))
  | getSession created => exact (hdefault h).imp_right fun heq => Or.inr (congrArg some heq)
  | disposeEngine raised =>
    rw [SessionCall.perform_dispose] at h
    split_ifs at h
    · exact Or.inl h
    · rcases h with hengine | hfactory
      · cases hengine
      · cases hfactory

end SessionGlobals

namespace NewTo

variable {g : SessionGlobals ε} {c : SessionCall ε} {calls : List (SessionCall ε)}

omit [DecidableEq ε] in
theorem of_cons (h : NewTo g (c :: calls)) : NewTo g calls :=
  ⟨h.among.of_cons, fun c' hc' => h.start c' (List.mem_cons_of_mem _ hc')⟩

theorem perform (h : NewTo g (c :: calls)) : NewTo (c.perform g).2 calls := by
  refine ⟨h.among.of_cons, fun c' hc' default hdefault hrefers => ?_⟩
  rcases hrefers.of_perform with hrefers' | hnames
  · exact h.of_cons.start c' hc' default hdefault hrefers'
  · exact List.rel_of_pairwise_cons h.among hc' default hdefault hnames

end NewTo

/-- What the calls for the default engine should return. -/
def expectedAnswers : Option ε → List (SessionCall ε) →
    List (Except PyException (Option (SessionFactory ε)))
  | _, [] => []
  | default, c :: calls =>
    match c.default? with
    | some created =>
      (SessionCall.currentDefault default created).map (fun engine => some ⟨engine⟩) ::
        expectedAnswers (c.nextDefault default) calls
    | none => expectedAnswers (c.nextDefault default) calls

/-- In an orderly run the calls for the default engine return what they should. -/
theorem defaultAnswers_eq {l : Ledger ε} {g : SessionGlobals ε} {calls : List (SessionCall ε)}
    (h : Tracks l g) (hnew : NewTo g calls) (horderly : Orderly l calls) :
    defaultAnswers g calls = expectedAnswers l.default calls := by
  induction calls generalizing l g with
  | nil => rfl
  | cons c calls ih =>
    obtain ⟨hnext, hbound⟩ := h.perform (hnew.start c List.mem_cons_self)
    have hanswer := hbound.mpr horderly.1
    have hrest := ih hnext hnew.perform horderly.2
    have hdefault {c : SessionCall ε} {created : Except PyException ε}
        (hc : c.default? = some created) (hanswer : (c.perform g).1 =
          (SessionCall.currentDefault g.engine created).map fun engine => some ⟨engine⟩)
        (hrest : defaultAnswers (c.perform g).2 calls =
          expectedAnswers (c.nextDefault l.default) calls) :
        defaultAnswers g (c :: calls) = expectedAnswers l.default (c :: calls) := by
      rw [defaultAnswers, expectedAnswers, if_pos (by rw [hc]; rfl), hanswer, hrest, hc, h.engine]
    cases c with
    | getSessionmaker asked created =>
      cases asked with
      | none => exact hdefault rfl hanswer hrest
      | some asked => exact hrest
    | getSession created => exact hdefault rfl hanswer hrest
    | disposeEngine raised => exact hrest

/-- A run stays orderly if no other engine has been asked for before. -/
theorem Orderly.mono {l l' : Ledger ε} {calls : List (SessionCall ε)}
    (hdefault : l'.default = l.default) (hother : l'.other = true → l.other = true)
    (h : Orderly l calls) : Orderly l' calls := by
  induction calls generalizing l l' with
  | nil => trivial
  | cons c calls ih =>
    refine ⟨fun h' => hdefault ▸ h.1 (hother h'), ih (l := l.next c) ?_ ?_ h.2⟩
    · rw [Ledger.next, Ledger.next, hdefault]
    · rw [Ledger.next, Ledger.next, hdefault]
      simp only [Bool.and_eq_true, Bool.or_eq_true]
      exact fun ⟨hresets, h'⟩ => ⟨hresets, h'.imp_left hother⟩

theorem boundAsRequested_iff_of_tracks {l : Ledger ε} {g : SessionGlobals ε}
    {calls : List (SessionCall ε)} (h : Tracks l g) (hnew : NewTo g calls) :
    BoundAsRequested g calls ↔ Orderly l calls := by
  induction calls generalizing l g with
  | nil => exact Iff.rfl
  | cons c calls ih =>
    obtain ⟨hnext, hbound⟩ := h.perform (hnew.start c List.mem_cons_self)
    rw [BoundAsRequested, Orderly, hbound, ih hnext hnew.perform]
    refine ⟨fun ⟨hc, _, hcalls⟩ => ⟨hc, hcalls⟩,
      fun ⟨hc, hcalls⟩ => ⟨hc, fun hcustom => ?_, hcalls⟩⟩
    rw [defaultAnswers_eq hnext hnew.perform hcalls]
    -- without the call, the rest of the run is as orderly
    cases c with
    | getSessionmaker asked created =>
      cases asked with
      | none => cases hcustom
      | some asked =>
        have hother (h : l.other = true) :
            (l.next (.getSessionmaker (some asked) created)).other = true := by
          rw [Ledger.next, h]
          rfl
        have hsame : l.default = (l.next (.getSessionmaker (some asked) created)).default := rfl
        exact (defaultAnswers_eq h hnew.of_cons (.mono hsame hother hcalls)).symm
    | getSession created => cases hcustom
    | disposeEngine raised => cases hcustom

/-- The factories are those that are asked for if and only if no call asks for the default engine
after another one has been asked for, without a dispose between them. -/
theorem boundAsRequested_iff {calls : List (SessionCall ε)} (hnew : EnginesNew calls) :
    BoundAsRequested .initial calls ↔ Orderly ⟨none, false⟩ calls := by
  refine boundAsRequested_iff_of_tracks ⟨rfl, iff_of_false Bool.false_ne_true ?_⟩ ⟨hnew, ?_⟩
  · rintro ⟨factory, hfactory, -⟩
    cases hfactory
  · rintro c - default - (hengine | hfactory)
    · cases hengine
    · cases hfactory

/-- A custom engine, a dispose, and then the default engine. -/
def disposedRun : List (SessionCall ℕ) :=
  [.getSession (.ok 0), .getSessionmaker (some 1) (.ok 2), .disposeEngine none,
    .getSessionmaker none (.ok 3)]

theorem boundAsRequested_disposedRun :
    BoundAsRequested .initial disposedRun ↔ Orderly ⟨none, false⟩ disposedRun := by
  refine boundAsRequested_iff ?_
  simp [EnginesNew, disposedRun, SessionCall.Names, SessionCall.default?, SessionCall.custom?]

/-- A custom engine, and then the default one: the second factory is the first one. -/
theorem not_boundAsRequested_custom :
    ¬ BoundAsRequested .initial
      ([.getSessionmaker (some 0) (.ok 1), .getSessionmaker none (.ok 1)] :
        List (SessionCall ℕ)) := by
  rintro ⟨-, -, hdefault, -⟩
  cases hdefault

end ZubotIngestion
