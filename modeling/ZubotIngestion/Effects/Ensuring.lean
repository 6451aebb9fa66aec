import ZubotIngestion.Effects.Determined
import ZubotIngestion.Effects.Trace

/-!
# Cleanups

`ensuring body cleanup` runs the cleanup however the body ends: the `finally` clause of a `try`
statement, or the exit of a context manager. Two properties of a program are kept by it and by
sequences: that everything which is opened is closed, and that the outcome is good exactly if every
call went well.

## Main definitions

* `Program.ensuring`.
* `Program.Yields`: what every returned value is.
* `Program.Computes`: the outcome, seen through a function of the value.
* `Program.Balanced`: as many events close as have opened.
* `Program.GoodIff`: the outcome is good iff all calls were.

## Main results

* `Program.Safe.ensuring`: the rule for a program with a cleanup.
* `Program.Computes.bind`, `Program.Computes.ensuring`: outcomes of composed programs.
* `Program.balanced_bracket`: what is opened in front of a cleanup is closed by it.
* `Program.GoodIff.bind`, `Program.GoodIff.ensuring`.
-/

namespace ZubotIngestion.Effects

variable {S : Signature} {ε α β : Type}

namespace Program

/-- Run the body, and then the cleanup, however the body has ended. An exception of the cleanup
takes the place of the outcome. -/
def ensuring (body : Program S ε α) (cleanup : Program S ε Unit) : Program S ε α := do
  let outcome ← body.attempt
  cleanup
  ofExcept outcome

/-- The body has run to its end, and then the cleanup. -/
theorem runs_ensuring {body : Program S ε α} {cleanup : Program S ε Unit} {t : List (Event S ε)}
    {o : Except ε α} :
    Runs (ensuring body cleanup) t o ↔ ∃ t₁ t₂ r c, t = t₁ ++ t₂ ∧ Runs body t₁ r ∧
      Runs cleanup t₂ c ∧ o = c >>= fun _ => r := by
  simp only [ensuring, runs_bind, runs_attempt, runs_ofExcept]
  constructor
  · rintro (⟨t₁, t', r, rfl, ⟨r', hbody, hr⟩, h⟩ | ⟨e, ⟨r, -, hr⟩, -⟩)
    · obtain rfl := Except.ok.inj hr
      rcases h with ⟨t₂, t₃, u, rfl, hcleanup, rfl, rfl⟩ | ⟨e, hcleanup, rfl⟩
      · exact ⟨t₁, t₂, _, .ok u, by rw [List.append_nil], hbody, hcleanup, rfl⟩
      · exact ⟨t₁, t', _, .error e, rfl, hbody, hcleanup, rfl⟩
    · cases hr
  · rintro ⟨t₁, t₂, r, c, rfl, hbody, hcleanup, rfl⟩
    refine Or.inl ⟨t₁, t₂, r, rfl, ⟨r, hbody, rfl⟩, ?_⟩
    cases c with
    | ok u => exact Or.inl ⟨t₂, [], u, (List.append_nil t₂).symm, hcleanup, rfl, rfl⟩
    | error e => exact Or.inr ⟨e, hcleanup, rfl⟩

theorem Only.mono {P P' : S.Op → Prop} {p : Program S ε α} (h : Only P p)
    (hP : ∀ op, P op → P' op) : Only P' p := by
  induction p with
  | ret a => trivial
  | raise e => trivial
  | call op next ih => exact ⟨hP op h.1, fun r => ih r (h.2 r)⟩

/-- The calls of a run are among those of the program. -/
theorem Only.of_runs {P : S.Op → Prop} {p : Program S ε α} (h : Only P p) {t : List (Event S ε)}
    {o : Except ε α} (hrun : p.Runs t o) : ∀ c ∈ t, P c.1 := by
  induction hrun with
  | ret a => exact fun _ hc => absurd hc List.not_mem_nil
  | raise e => exact fun _ hc => absurd hc List.not_mem_nil
  | call hrun ih => exact List.forall_mem_cons.mpr ⟨h.1, ih (h.2 _)⟩

/-- A run with the reference answers has the reference outcome. -/
theorem eq_alone_of_runs {ref : (op : S.Op) → Except ε (S.Res op)} {p : Program S ε α}
    {t : List (Event S ε)} {o : Except ε α} (hrun : p.Runs t o) (h : ∀ c ∈ t, c.2 = ref c.1) :
    o = p.alone ref := by
  induction hrun with
  | ret a => rfl
  | raise e => rfl
  | @call op next r t o hrun ih =>
    obtain ⟨hfirst, hrest⟩ := List.forall_mem_cons.mp h
    obtain rfl : r = ref op := hfirst
    exact ih hrest

section Safe

variable {A : (op : S.Op) → Except ε (S.Res op) → Prop} {G : List (Event S ε) → S.Op → Prop}

/-- The rule for a cleanup: it is safe behind every end of the body. -/
theorem Safe.ensuring {Q R : List (Event S ε) → Except ε α → Prop} {body : Program S ε α}
    {cleanup : Program S ε Unit} {t : List (Event S ε)} (hbody : Safe A G Q body t)
    (hcleanup : ∀ t' r, Q t' r →
      Safe A G (fun t'' c => R t'' (c >>= fun _ => r)) cleanup t') :
    Safe A G R (body.ensuring cleanup) t := by
  refine (safe_bind _ _ t).mpr ((safe_attempt body t).mpr
    (hbody.mono (fun _ _ h => h) (fun _ _ h => h) fun t' r hr => ?_))
  refine (hcleanup t' r hr).bind (fun t'' u hu => ?_) fun t'' e he => he
  exact (safe_ofExcept r t'').mpr hu

/-- Calls that keep a property of the trace, and that it permits. -/
theorem Only.safe_of_invariant {P : S.Op → Prop} {I : List (Event S ε) → Prop}
    {p : Program S ε α} (h : Only P p) (hG : ∀ t op, P op → I t → G t op)
    (hI : ∀ t op r, P op → A op r → I t → I (t ++ [⟨op, r⟩])) {t : List (Event S ε)} (ht : I t) :
    Safe A G (fun t' _ => I t') p t := by
  induction p generalizing t with
  | ret a => exact ht
  | raise e => exact ht
  | call op next ih =>
    exact ⟨hG t op h.1 ht, fun r hr => ih r (h.2 r) (hI t op r h.1 hr ht)⟩

/-- Every call of a run of a safe program was permitted. -/
theorem Safe.kept_of_runs {Q : List (Event S ε) → Except ε α → Prop} {p : Program S ε α}
    {t u : List (Event S ε)} {o : Except ε α} (h : Safe A G Q p t) (ht : Kept A G t)
    (hrun : p.Runs u o) (hA : ∀ c ∈ u, A c.1 c.2) : Kept A G (t ++ u) := by
  induction hrun generalizing t with
  | ret a =>
    rw [List.append_nil]
    exact ht
  | raise e =>
    rw [List.append_nil]
    exact ht
  | call hrun ih =>
    obtain ⟨hfirst, hrest⟩ := List.forall_mem_cons.mp hA
    rw [List.append_cons]
    exact ih (h.2 _ hfirst) (ht.concat h.1 hfirst) hrest

end Safe

/-! ### Computed outcomes -/

section Computes

variable {A : (op : S.Op) → Except ε (S.Res op) → Prop} {γ δ : Type} {f : α → γ}

/-- With answers allowed by `A`, every run ends in `o`, if the returned value is seen through
`f`. -/
def Computes (A : (op : S.Op) → Except ε (S.Res op) → Prop) (f : α → γ) (p : Program S ε α)
    (o : Except ε γ) : Prop :=
  ∀ t r, p.Runs t r → (∀ c ∈ t, A c.1 c.2) → r.map f = o

theorem computes_ret (a : α) : (ret a : Program S ε α).Computes A f (.ok (f a)) := by
  intro t r h _
  rw [(runs_ret.mp h).2]
  rfl

/-- A call whose value is determined as far as it is seen. -/
theorem computes_perform (op : S.Op) {f : S.Res op → γ} {o : Except ε γ}
    (h : ∀ r, A op r → r.map f = o) : (perform op : Program S ε _).Computes A f o := by
  intro t r hrun hA
  obtain rfl := runs_perform.mp hrun
  exact h r (hA _ List.mem_cons_self)

/-- A sequence, whose second part is given as much of the first value as is seen. -/
theorem Computes.bind {p : Program S ε α} {k : α → Program S ε β} {o : Except ε γ} {g : β → δ}
    {k' : γ → Except ε δ} (hp : p.Computes A f o) (hk : ∀ a, (k a).Computes A g (k' (f a))) :
    (p >>= k).Computes A g (o >>= k') := by
  intro t r h hA
  rcases runs_bind.mp h with ⟨t₁, t₂, a, rfl, h₁, h₂⟩ | ⟨e, h₁, rfl⟩
  · obtain ⟨hA₁, hA₂⟩ := List.forall_mem_append.mp hA
    obtain rfl := hp t₁ _ h₁ hA₁
    exact hk a t₂ r h₂ hA₂
  · obtain rfl := hp t _ h₁ hA
    rfl

/-- A cleanup that succeeds is not seen. -/
theorem Computes.ensuring {body : Program S ε α} {cleanup : Program S ε Unit} {o : Except ε γ}
    (hbody : body.Computes A f o) (hcleanup : cleanup.Computes A id (.ok ())) :
    (body.ensuring cleanup).Computes A f o := by
  intro t r h hA
  obtain ⟨t₁, t₂, r', c, rfl, h₁, h₂, rfl⟩ := runs_ensuring.mp h
  obtain ⟨hA₁, hA₂⟩ := List.forall_mem_append.mp hA
  have hc := hcleanup t₂ c h₂ hA₂
  cases c with
  | ok u => exact hbody t₁ r' h₁ hA₁
  | error e => cases hc

/-- Calls with one allowed answer each. -/
theorem Only.computes_alone {P : S.Op → Prop} {ref : (op : S.Op) → Except ε (S.Res op)}
    {p : Program S ε α} (h : Only P p) (hP : ∀ op r, P op → A op r → r = ref op) :
    p.Computes A id (p.alone ref) := by
  intro t r hrun hA
  have hcalls := h.of_runs hrun
  rw [Except.map_id, id]
  exact eq_alone_of_runs hrun fun c hc => hP c.1 c.2 (hcalls c hc) (hA c hc)

end Computes

/-! ### Returned values -/

section Yields

variable {P : α → Prop} {Q : β → Prop}

/-- Every returned value has the property. -/
def Yields (P : α → Prop) (p : Program S ε α) : Prop := ∀ t a, p.Runs t (.ok a) → P a

theorem yields_ret {a : α} (h : P a) : (ret a : Program S ε α).Yields P := by
  intro t b hrun
  obtain rfl := Except.ok.inj (runs_ret.mp hrun).2
  exact h

/-- The value of a sequence is returned by its second part. -/
theorem Yields.bind {p : Program S ε α} {f : α → Program S ε β} (hf : ∀ a, (f a).Yields Q) :
    (p >>= f).Yields Q := by
  intro t b hrun
  rcases runs_bind.mp hrun with ⟨t₁, t₂, a, -, -, h₂⟩ | ⟨e, -, he⟩
  · exact hf a t₂ b h₂
  · cases he

/-- A value that is returned past a cleanup is that of the body. -/
theorem Yields.ensuring {body : Program S ε α} {cleanup : Program S ε Unit}
    (hbody : body.Yields P) : (body.ensuring cleanup).Yields P := by
  intro t a hrun
  obtain ⟨t₁, t₂, r, c, -, h₁, -, hr⟩ := runs_ensuring.mp hrun
  cases c with
  | ok u =>
    obtain rfl : r = .ok a := hr.symm
    exact hbody t₁ a h₁
  | error e => cases hr

end Yields

/-! ### What is opened is closed -/

section Balanced

variable {A : (op : S.Op) → Except ε (S.Res op) → Prop} {opens closes : Event S ε → Bool}

/-- In every run with answers allowed by `A`, as many events close as have opened. -/
def Balanced (A : (op : S.Op) → Except ε (S.Res op) → Prop) (opens closes : Event S ε → Bool)
    (p : Program S ε α) : Prop :=
  ∀ t o, p.Runs t o → (∀ c ∈ t, A c.1 c.2) → t.countP opens = t.countP closes

theorem balanced_ret (a : α) : (ret a : Program S ε α).Balanced A opens closes := by
  intro t o h _
  rw [(runs_ret.mp h).1]
  rfl

theorem balanced_ofExcept (r : Except ε α) :
    (ofExcept r : Program S ε α).Balanced A opens closes := by
  intro t o h _
  rw [(runs_ofExcept.mp h).1]
  rfl

/-- A call that neither opens nor closes. -/
theorem balanced_perform {op : S.Op} (h : ∀ r, opens ⟨op, r⟩ = false ∧ closes ⟨op, r⟩ = false) :
    (perform op : Program S ε _).Balanced A opens closes := by
  intro t o hrun _
  rw [runs_perform.mp hrun, List.countP_singleton, List.countP_singleton, (h o).1, (h o).2]

theorem Balanced.bind {p : Program S ε α} {f : α → Program S ε β} (hp : p.Balanced A opens closes)
    (hf : ∀ a, (f a).Balanced A opens closes) : (p >>= f).Balanced A opens closes := by
  intro t o h hA
  rcases runs_bind.mp h with ⟨t₁, t₂, a, rfl, h₁, h₂⟩ | ⟨e, h, -⟩
  · obtain ⟨hA₁, hA₂⟩ := List.forall_mem_append.mp hA
    rw [List.countP_append, List.countP_append, hp t₁ _ h₁ hA₁, hf a t₂ _ h₂ hA₂]
  · exact hp t _ h hA

theorem Balanced.attempt {p : Program S ε α} (hp : p.Balanced A opens closes) :
    p.attempt.Balanced A opens closes := by
  intro t o h hA
  obtain ⟨r, h, -⟩ := runs_attempt.mp h
  exact hp t r h hA

theorem Balanced.ensuring {body : Program S ε α} {cleanup : Program S ε Unit}
    (hbody : body.Balanced A opens closes) (hcleanup : cleanup.Balanced A opens closes) :
    (body.ensuring cleanup).Balanced A opens closes :=
  hbody.attempt.bind fun r => hcleanup.bind fun _ => balanced_ofExcept r

/-- What is opened is closed by the cleanup, if nothing can fail in front of the body. -/
theorem balanced_bracket {op : S.Op} {setup : S.Res op → Program S ε β}
    {body : S.Res op → β → Program S ε α} {cleanup : S.Res op → Program S ε Unit}
    (hop : ∀ r, opens ⟨op, r⟩ = r.toBool ∧ closes ⟨op, r⟩ = false)
    (hsetup : ∀ a, (setup a).Balanced A opens closes)
    (hreturns : ∀ a t o, (setup a).Runs t o → (∀ c ∈ t, A c.1 c.2) → ∃ b, o = .ok b)
    (hbody : ∀ a b, (body a b).Balanced A opens closes)
    (hcleanup : ∀ a t o, (cleanup a).Runs t o → t.countP opens = 0 ∧ t.countP closes = 1) :
    (perform op >>= fun a => setup a >>= fun b => (body a b).ensuring (cleanup a)).Balanced A opens
      closes := by
  intro t o h hA
  rcases runs_perform_bind.mp h with ⟨a, t', rfl, hrun⟩ | ⟨e, rfl, -⟩
  · obtain ⟨-, hA'⟩ := List.forall_mem_cons.mp hA
    rcases runs_bind.mp hrun with ⟨t₁, t₂, b, rfl, h₁, h₂⟩ | ⟨e, h₁, -⟩
    · obtain ⟨hA₁, hA₂⟩ := List.forall_mem_append.mp hA'
      obtain ⟨t₃, t₄, r, c, rfl, h₃, h₄, -⟩ := runs_ensuring.mp h₂
      obtain ⟨hopens, hcloses⟩ := hop (.ok a)
      obtain ⟨hopens', hcloses'⟩ := hcleanup a t₄ c h₄
      have hfront := hsetup a t₁ _ h₁ hA₁
      have hmiddle := hbody a b t₃ r h₃ (List.forall_mem_append.mp hA₂).1
      simp only [List.countP_cons, List.countP_append, hopens, hcloses, hopens', hcloses',
        Except.toBool, if_true, Bool.false_eq_true, if_false]
      omega
    · obtain ⟨b, hb⟩ := hreturns a t' _ h₁ hA'
      cases hb
  · rw [List.countP_singleton, List.countP_singleton, (hop _).1, (hop _).2]
    rfl

end Balanced

/-! ### Good outcomes -/

section GoodIff

variable {T : Event S ε → Prop} {P : α → Prop} {Q : β → Prop}

/-- In every run, the program returns a good value iff all calls went well. -/
def GoodIff (T : Event S ε → Prop) (P : α → Prop) (p : Program S ε α) : Prop :=
  ∀ t o, p.Runs t o → ((∃ a, o = .ok a ∧ P a) ↔ ∀ c ∈ t, T c)

theorem goodIff_ret {a : α} (h : P a) : (ret a : Program S ε α).GoodIff T P := by
  intro t o hrun
  obtain ⟨rfl, rfl⟩ := runs_ret.mp hrun
  exact iff_of_true ⟨a, rfl, h⟩ fun _ hc => absurd hc List.not_mem_nil

theorem goodIff_perform {op : S.Op} {P : S.Res op → Prop}
    (h : ∀ r, T ⟨op, r⟩ ↔ ∃ a, r = .ok a ∧ P a) : (perform op : Program S ε _).GoodIff T P := by
  intro t o hrun
  rw [runs_perform.mp hrun, List.forall_mem_singleton]
  exact (h o).symm

/-- A sequence: its first part must return a good value, and after one that is not good the second
part must not return a good one. -/
theorem GoodIff.bind {p : Program S ε α} {f : α → Program S ε β} (hp : p.GoodIff T P)
    (hf : ∀ a, P a → (f a).GoodIff T Q)
    (hbad : ∀ a, ¬ P a → (f a).Yields fun b => ¬ Q b) : (p >>= f).GoodIff T Q := by
  intro t o h
  rcases runs_bind.mp h with ⟨t₁, t₂, a, rfl, h₁, h₂⟩ | ⟨e, hrun, rfl⟩
  · rw [List.forall_mem_append]
    by_cases ha : P a
    · rw [hf a ha t₂ o h₂]
      exact (and_iff_right ((hp t₁ _ h₁).mp ⟨a, rfl, ha⟩)).symm
    · refine iff_of_false ?_ fun hall => ?_
      · rintro ⟨b, rfl, hb⟩
        exact hbad a ha t₂ b h₂ hb
      · obtain ⟨a', hok, ha'⟩ := (hp t₁ _ h₁).mpr hall.1
        obtain rfl := Except.ok.inj hok
        exact ha ha'
  · refine iff_of_false ?_ fun hall => ?_
    · rintro ⟨b, hb, -⟩
      cases hb
    obtain ⟨a, ha, -⟩ := (hp t _ hrun).mpr hall
    cases ha

/-- A sequence whose first part only has to return. -/
theorem GoodIff.seq {p : Program S ε α} {f : α → Program S ε β}
    (hp : p.GoodIff T fun _ => True) (hf : ∀ a, (f a).GoodIff T Q) : (p >>= f).GoodIff T Q :=
  hp.bind (fun a _ => hf a) fun _ h => absurd trivial h

/-- The cleanup has to return as well. -/
theorem GoodIff.ensuring {body : Program S ε α} {cleanup : Program S ε Unit}
    (hbody : body.GoodIff T P) (hcleanup : cleanup.GoodIff T fun _ => True) :
    (body.ensuring cleanup).GoodIff T P := by
  intro t o h
  obtain ⟨t₁, t₂, r, c, rfl, h₁, h₂, rfl⟩ := runs_ensuring.mp h
  rw [List.forall_mem_append, ← hbody t₁ r h₁, ← hcleanup t₂ c h₂]
  cases c with
  | ok u => exact (and_iff_left ⟨u, rfl, trivial⟩).symm
  | error e =>
    refine iff_of_false ?_ ?_
    · rintro ⟨a, ha, -⟩
      cases ha
    · rintro ⟨-, u, hu, -⟩
      cases hu

end GoodIff

end Program

end ZubotIngestion.Effects
