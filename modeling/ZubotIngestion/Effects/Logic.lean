import ZubotIngestion.Effects.Program

/-!
# Assume–guarantee reasoning about programs

`Safe A G Q p t` is a specification of a program `p` that has already made the calls listed in
its trace `t`. As long as every call is answered within the assumption `A`, each call `p` makes
satisfies the guarantee `G` (which may look at the trace so far) and its outcome satisfies the
postcondition `Q` (which may look at the whole trace). Nothing is said about the state of the
environment, so the specification holds whatever other programs do between two calls.

`Safe` is defined by recursion on the program and commutes with `>>=`, `perform` and `attempt`,
so a specification of a program written with `do` unfolds to one condition for each call.

## Main definitions

* `Program.Safe`.
* `Program.Only`: the special case of a guarantee about each call on its own.

## Main results

* `Program.safe_bind`, `Program.safe_attempt`, `Program.safe_perform`: the rules, as
  equivalences.
* `Program.Safe.bind`, `Program.Safe.perform_bind`, `Program.Safe.attempt_bind`: sequencing.
* `Program.Safe.mono`, `Program.Safe.frame`: weakening and framing.
* `Program.Safe.run`: a safe program run alone ends in its postcondition and keeps every
  invariant of the state that its guarantee keeps.
-/

namespace ZubotIngestion.Effects

namespace Program

variable {S : Signature} {ε α β σ : Type}

/-- Under the assumption `A` on answers, every call of the program satisfies `G` and its outcome
satisfies `Q`; the last argument lists the calls already made. -/
def Safe (A : (op : S.Op) → Except ε (S.Res op) → Prop) (G : List (Event S ε) → S.Op → Prop)
    (Q : List (Event S ε) → Except ε α → Prop) : Program S ε α → List (Event S ε) → Prop
  | ret a, t => Q t (.ok a)
  | raise e, t => Q t (.error e)
  | call op next, t => G t op ∧ ∀ r, A op r → Safe A G Q (next r) (t ++ [⟨op, r⟩])

variable {A A' : (op : S.Op) → Except ε (S.Res op) → Prop}
  {G G' : List (Event S ε) → S.Op → Prop}

@[simp] theorem safe_ret {Q : List (Event S ε) → Except ε α → Prop} (a : α)
    (t : List (Event S ε)) : Safe A G Q (ret a) t ↔ Q t (.ok a) :=
  Iff.rfl

@[simp] theorem safe_raise {Q : List (Event S ε) → Except ε α → Prop} (e : ε)
    (t : List (Event S ε)) : Safe A G Q (raise e) t ↔ Q t (.error e) :=
  Iff.rfl

@[simp] theorem safe_call {Q : List (Event S ε) → Except ε α → Prop} (op : S.Op)
    (next : Except ε (S.Res op) → Program S ε α) (t : List (Event S ε)) :
    Safe A G Q (call op next) t ↔ G t op ∧ ∀ r, A op r → Safe A G Q (next r) (t ++ [⟨op, r⟩]) :=
  Iff.rfl

/-- A call that raises what it is answered with. -/
theorem safe_perform (op : S.Op) {Q : List (Event S ε) → Except ε (S.Res op) → Prop}
    (t : List (Event S ε)) :
    Safe A G Q (perform op) t ↔ G t op ∧ ∀ r, A op r → Q (t ++ [⟨op, r⟩]) r := by
  refine and_congr_right fun _ => forall₂_congr fun r _ => ?_
  cases r <;> exact Iff.rfl

/-- A sequence is safe when its first part is, with the second part as postcondition. -/
theorem safe_bind {Q : List (Event S ε) → Except ε β → Prop} (p : Program S ε α)
    (f : α → Program S ε β) (t : List (Event S ε)) :
    Safe A G Q (p >>= f) t ↔
      Safe A G (fun t' r => match r with
        | .ok a => Safe A G Q (f a) t'
        | .error e => Q t' (.error e)) p t := by
  induction p generalizing t with
  | ret a => exact Iff.rfl
  | raise e => exact Iff.rfl
  | call op next ih => exact and_congr_right fun _ => forall₂_congr fun r _ => ih r _

/-- `attempt` hands the outcome on as a value. -/
theorem safe_attempt {Q : List (Event S ε) → Except ε (Except ε α) → Prop} (p : Program S ε α)
    (t : List (Event S ε)) :
    Safe A G Q p.attempt t ↔ Safe A G (fun t' r => Q t' (.ok r)) p t := by
  induction p generalizing t with
  | ret a => exact Iff.rfl
  | raise e => exact Iff.rfl
  | call op next ih => exact and_congr_right fun _ => forall₂_congr fun r _ => ih r _

/-- A value that is returned or raised. -/
theorem safe_ofExcept {Q : List (Event S ε) → Except ε α → Prop} (r : Except ε α)
    (t : List (Event S ε)) : Safe A G Q (ofExcept r) t ↔ Q t r := by
  cases r <;> exact Iff.rfl

/-- Every program keeps a specification that promises nothing. -/
theorem safe_trivial (p : Program S ε α) (t : List (Event S ε)) :
    Safe A (fun _ _ => True) (fun _ _ => True) p t := by
  induction p generalizing t with
  | ret a => trivial
  | raise e => trivial
  | call op next ih => exact ⟨trivial, fun r _ => ih r _⟩

/-- A specification may be weakened: fewer answers allowed, more calls and outcomes permitted. -/
theorem Safe.mono {Q Q' : List (Event S ε) → Except ε α → Prop} {p : Program S ε α}
    {t : List (Event S ε)} (h : Safe A G Q p t) (hA : ∀ op r, A' op r → A op r)
    (hG : ∀ t op, G t op → G' t op) (hQ : ∀ t r, Q t r → Q' t r) : Safe A' G' Q' p t := by
  induction p generalizing t with
  | ret a => exact hQ _ _ h
  | raise e => exact hQ _ _ h
  | call op next ih => exact ⟨hG _ _ h.1, fun r hr => ih r (h.2 r (hA _ _ hr))⟩

/-- Two specifications with the same assumption and guarantee hold together. -/
theorem Safe.and {Q Q' : List (Event S ε) → Except ε α → Prop} {p : Program S ε α}
    {t : List (Event S ε)} (h : Safe A G Q p t) (h' : Safe A G' Q' p t) :
    Safe A (fun t op => G t op ∧ G' t op) (fun t r => Q t r ∧ Q' t r) p t := by
  induction p generalizing t with
  | ret a => exact ⟨h, h'⟩
  | raise e => exact ⟨h, h'⟩
  | call op next ih => exact ⟨⟨h.1, h'.1⟩, fun r hr => ih r (h.2 r hr) (h'.2 r hr)⟩

/-- The rule for a sequence, one part at a time. -/
theorem Safe.bind {Q : List (Event S ε) → Except ε α → Prop}
    {Q' : List (Event S ε) → Except ε β → Prop} {p : Program S ε α} {f : α → Program S ε β}
    {t : List (Event S ε)} (hp : Safe A G Q p t)
    (hf : ∀ t' a, Q t' (.ok a) → Safe A G Q' (f a) t')
    (he : ∀ t' e, Q t' (.error e) → Q' t' (.error e)) : Safe A G Q' (p >>= f) t := by
  refine (safe_bind p f t).mpr (hp.mono (fun _ _ h => h) (fun _ _ h => h) fun t' r hr => ?_)
  cases r with
  | ok a => exact hf t' a hr
  | error e => exact he t' e hr

/-- The rule for a value that is wrapped. -/
theorem Safe.map {Q : List (Event S ε) → Except ε α → Prop}
    {Q' : List (Event S ε) → Except ε β → Prop} {p : Program S ε α} {t : List (Event S ε)}
    (hp : Safe A G Q p t) (f : α → β) (hok : ∀ t' a, Q t' (.ok a) → Q' t' (.ok (f a)))
    (he : ∀ t' e, Q t' (.error e) → Q' t' (.error e)) : Safe A G Q' (f <$> p) t := by
  rw [map_eq_pure_bind]
  exact hp.bind hok he

/-- The rule for a call whose exception ends the program. -/
theorem Safe.perform_bind {Q : List (Event S ε) → Except ε β → Prop} {op : S.Op}
    {f : S.Res op → Program S ε β} {t : List (Event S ε)} (hG : G t op)
    (herror : ∀ e, A op (.error e) → Q (t ++ [⟨op, .error e⟩]) (.error e))
    (hok : ∀ v, A op (.ok v) → Safe A G Q (f v) (t ++ [⟨op, .ok v⟩])) :
    Safe A G Q (perform op >>= f) t := by
  refine (safe_bind _ _ _).mpr ((safe_perform _ _).mpr ⟨hG, fun r hr => ?_⟩)
  cases r with
  | ok v => exact hok v hr
  | error e => exact herror e hr

/-- The rule for a call whose exception is caught. -/
theorem Safe.attempt_bind {Q : List (Event S ε) → Except ε β → Prop} {op : S.Op}
    {f : Except ε (S.Res op) → Program S ε β} {t : List (Event S ε)} (hG : G t op)
    (h : ∀ r, A op r → Safe A G Q (f r) (t ++ [⟨op, r⟩])) :
    Safe A G Q ((perform op).attempt >>= f) t :=
  (safe_bind _ _ _).mpr ((safe_attempt _ _).mpr ((safe_perform _ _).mpr ⟨hG, h⟩))

/-- A specification that starts from the empty trace holds after any calls, relative to them. -/
theorem Safe.frame {Q Q' : List (Event S ε) → Except ε α → Prop} {p : Program S ε α}
    {u : List (Event S ε)} (h : Safe A G Q p u) (t : List (Event S ε))
    (hG : ∀ u op, G u op → G' (t ++ u) op) (hQ : ∀ u r, Q u r → Q' (t ++ u) r) :
    Safe A G' Q' p (t ++ u) := by
  induction p generalizing u with
  | ret a => exact hQ _ _ h
  | raise e => exact hQ _ _ h
  | call op next ih =>
    refine ⟨hG _ _ h.1, fun r hr => ?_⟩
    rw [List.append_assoc]
    exact ih r (h.2 r hr)

/-- All calls the program may make satisfy `P`, whatever it is answered. -/
def Only (P : S.Op → Prop) : Program S ε α → Prop
  | ret _ => True
  | raise _ => True
  | call op next => P op ∧ ∀ r, Only P (next r)

section Only

variable {P : S.Op → Prop}

theorem only_perform (op : S.Op) : Only P (perform (ε := ε) op) ↔ P op := by
  refine and_iff_left fun r => ?_
  cases r <;> trivial

theorem Only.bind {p : Program S ε α} {f : α → Program S ε β} (hp : Only P p)
    (hf : ∀ a, Only P (f a)) : Only P (p >>= f) := by
  induction p with
  | ret a => exact hf a
  | raise e => trivial
  | call op next ih => exact ⟨hp.1, fun r => ih r (hp.2 r)⟩

theorem Only.perform_bind {op : S.Op} {f : S.Res op → Program S ε β} (hop : P op)
    (hf : ∀ v, Only P (f v)) : Only P (perform op >>= f) :=
  ((only_perform op).mpr hop).bind hf

/-- `attempt` makes the same calls. -/
theorem Only.attempt {p : Program S ε α} (h : Only P p) : Only P p.attempt := by
  induction p with
  | ret a => trivial
  | raise e => trivial
  | call op next ih => exact ⟨h.1, fun r => ih r (h.2 r)⟩

theorem Only.attempt_bind {op : S.Op} {f : Except ε (S.Res op) → Program S ε β} (hop : P op)
    (hf : ∀ r, Only P (f r)) : Only P ((perform op).attempt >>= f) :=
  ((only_perform op).mpr hop).attempt.bind hf

/-- A specification that is about each call on its own. -/
theorem Only.safe {p : Program S ε α} (h : Only P p) (t : List (Event S ε)) :
    Safe A (fun _ op => P op) (fun _ _ => True) p t := by
  induction p generalizing t with
  | ret a => trivial
  | raise e => trivial
  | call op next ih => exact ⟨h.1, fun r _ => ih r (h.2 r) _⟩

end Only

/-- Every call of a list was guaranteed by `G`, and answered as `A` assumes. -/
def Kept (A : (op : S.Op) → Except ε (S.Res op) → Prop) (G : List (Event S ε) → S.Op → Prop)
    (t : List (Event S ε)) : Prop :=
  ∀ pre c post, t = pre ++ c :: post → G pre c.1 ∧ A c.1 c.2

theorem Kept.nil : Kept A G ([] : List (Event S ε)) :=
  fun _ _ _ h => absurd h.symm (List.append_ne_nil_of_right_ne_nil _ (List.cons_ne_nil _ _))

theorem Kept.concat {t : List (Event S ε)} (ht : Kept A G t) {c : Event S ε} (hG : G t c.1)
    (hA : A c.1 c.2) : Kept A G (t ++ [c]) := by
  intro pre c' post h
  rcases List.eq_nil_or_concat post with rfl | ⟨post', e, rfl⟩
  · obtain ⟨rfl, hc⟩ := List.append_inj' h rfl
    obtain rfl : c = c' := List.head_eq_of_cons_eq hc
    exact ⟨hG, hA⟩
  · rw [List.concat_eq_append, ← List.cons_append, ← List.append_assoc] at h
    exact ht pre c' post' (List.append_inj' h rfl).1

/-- A safe program run alone: an invariant `I` of the state under which all answers are allowed,
and which every guaranteed call keeps, holds at the end, and the outcome satisfies the
postcondition for the trace of the run. -/
theorem Safe.run {Q : List (Event S ε) → Except ε α → Prop} {I : σ → Prop}
    {answer : (op : S.Op) → σ → Except ε (S.Res op) × σ}
    (hA : ∀ op s, I s → A op (answer op s).1)
    (hG : ∀ t op s, I s → G t op → I (answer op s).2)
    {p : Program S ε α} {t : List (Event S ε)} {s : σ} (h : Safe A G Q p t) (hs : I s) :
    I (run answer p s).2 ∧ Q (t ++ trace answer p s) (run answer p s).1 := by
  induction p generalizing t s with
  | ret a => exact ⟨hs, by simpa using h⟩
  | raise e => exact ⟨hs, by simpa using h⟩
  | call op next ih =>
    have hnext := ih _ (h.2 _ (hA op s hs)) (hG t op s hs h.1)
    exact ⟨hnext.1, by simpa using hnext.2⟩

/-- A safe program run alone has kept its specification in every call. -/
theorem Safe.kept {Q : List (Event S ε) → Except ε α → Prop} {I : σ → Prop}
    {answer : (op : S.Op) → σ → Except ε (S.Res op) × σ}
    (hA : ∀ op s, I s → A op (answer op s).1) (hI : ∀ op s, I s → I (answer op s).2)
    {p : Program S ε α} {t : List (Event S ε)} {s : σ} (h : Safe A G Q p t) (ht : Kept A G t)
    (hs : I s) : Kept A G (t ++ trace answer p s) := by
  induction p generalizing t s with
  | ret a => simpa using ht
  | raise e => simpa using ht
  | call op next ih =>
    have hanswer := hA op s hs
    have hnext := ih _ (h.2 _ hanswer) (ht.concat h.1 hanswer) (hI op s hs)
    simpa using hnext

end Program

end ZubotIngestion.Effects
