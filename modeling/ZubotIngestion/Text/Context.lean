import Mathlib.Data.List.Infix

/-!
# Maps that see the surrounding text

`mapInContext f` replaces each symbol of a text by symbols that may depend on everything before it
and behind it. Where the map does not look past some symbol, what stands on one side of this symbol
is mapped as if it stood alone.

## Main definitions

* `mapInContext`.
* `Stops`: the map does not look past the symbol.

## Main results

* `mapInContext_append_cons`: the map splits at such a symbol.
* `mapInContext_infix`: a piece between two such symbols, or at an end of the text, is mapped as
  if it stood alone.
-/

namespace ZubotIngestion.Text

variable {α β : Type}

/-- The text with every symbol replaced by its image in its context. What stands before the text
is given from back to front, as the map gets it. -/
def mapInContext (f : List α → α → List α → List β) (before : List α) : List α → List β
  | [] => []
  | c :: after => f before c after ++ mapInContext f (c :: before) after

/-- The map does not look past the symbol `x`, on either side. -/
structure Stops (f : List α → α → List α → List β) (x : α) : Prop where
  behind (near far : List α) (c : α) (after : List α) :
    f (near ++ x :: far) c after = f near c after
  ahead (before : List α) (c : α) (near far : List α) :
    f before c (near ++ x :: far) = f before c near

variable {f : List α → α → List α → List β} {x : α}

/-- The text behind a symbol is mapped as if the symbol were the start of the text. -/
theorem mapInContext_behind (hx : Stops f x) (near far text : List α) :
    mapInContext f (near ++ x :: far) text = mapInContext f near text := by
  induction text generalizing near with
  | nil => rfl
  | cons c after ih =>
    rw [mapInContext, mapInContext, hx.behind]
    exact congrArg _ (ih (c :: near))

/-- At a symbol past which the map does not look, the mapped text splits. -/
theorem mapInContext_append_cons (hx : Stops f x) (before text rest : List α) :
    mapInContext f before (text ++ x :: rest) =
      mapInContext f before text ++
        (f (text.reverse ++ before) x rest ++ mapInContext f [] rest) := by
  induction text generalizing before with
  | nil =>
    have hrest : mapInContext f ([] ++ x :: before) rest = mapInContext f [] rest :=
      mapInContext_behind hx [] before rest
    rw [List.nil_append] at hrest
    simp only [List.nil_append, mapInContext, List.reverse_nil, hrest]
  | cons c text ih =>
    simp only [List.cons_append, mapInContext, hx.ahead, ih, List.reverse_cons, List.append_assoc,
      List.nil_append]

/-- A piece at the start of a text that ends with the text, or with such a symbol, is mapped as if
it stood alone. -/
theorem mapInContext_front (piece : List α) {rest : List α}
    (hrest : ∀ y ∈ rest.head?, Stops f y) :
    mapInContext f [] piece <+: mapInContext f [] (piece ++ rest) := by
  cases rest with
  | nil => rw [List.append_nil]
  | cons y rest =>
    rw [mapInContext_append_cons (hrest y rfl)]
    exact List.prefix_append _ _

/-- A piece behind such a symbol that ends with the text, or with another such symbol, is mapped
as if it stood alone. -/
theorem mapInContext_infix (hx : Stops f x) (before piece : List α) {rest : List α}
    (hrest : ∀ y ∈ rest.head?, Stops f y) :
    mapInContext f [] piece <:+: mapInContext f [] (before ++ x :: (piece ++ rest)) := by
  rw [mapInContext_append_cons hx]
  exact (mapInContext_front piece hrest).isInfix.trans
    ((List.suffix_append _ _).trans (List.suffix_append _ _)).isInfix

/-- So is a piece between two such symbols, or ends of the text. -/
theorem mapInContext_between {front back : List α} (piece : List α)
    (hfront : ∀ y ∈ front.getLast?, Stops f y) (hback : ∀ y ∈ back.head?, Stops f y) :
    mapInContext f [] piece <:+: mapInContext f [] (front ++ (piece ++ back)) := by
  rcases front.eq_nil_or_concat' with rfl | ⟨before, y, rfl⟩
  · exact (mapInContext_front piece hback).isInfix
  · rw [List.append_assoc, List.singleton_append]
    exact mapInContext_infix (hfront y List.getLast?_concat) before piece hback

end ZubotIngestion.Text
