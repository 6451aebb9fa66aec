import Mathlib.Data.List.Basic
import Mathlib.Data.List.Infix
import ZubotIngestion.Text.Edges

/-!
# The parts of a path

`PurePosixPath(path).parts` and `PureWindowsPath(path).parts`. A path is an anchor, which is a drive
with a root, and the names behind it; empty names and single dots are dropped. A POSIX path has no
drive; two slashes at its front, but not three, are a root of their own. A Windows path is written
with either separator, and its drive is a letter with a colon, or a server with a share.

## Main definitions

* `namesBehind`, `anchored`: the names behind an anchor, and the parts of a path.
* `posixParts`, `windowsParts`.

## Main results

* `getLast?_posixParts`, `getLast?_windowsParts`: a name at the end of a path is its last part.
* `posixParts_of_isName`, `windowsParts_of_isName`: a bare name is the only part.
-/

namespace ZubotIngestion

/-- The names between the separators. -/
def namesBehind (sep : Char) (rel : List Char) : List (List Char) :=
  (rel.splitOn sep).filter fun name => decide (name ≠ [] ∧ name ≠ ['.'])

/-- The parts of a path: the anchor, if there is one, and the names. -/
def anchored (anchor : List Char) (names : List (List Char)) : List (List Char) :=
  if anchor = [] then names else anchor :: names

/-- `PurePosixPath(path).parts`. -/
def posixParts : List Char → List (List Char)
  | '/' :: '/' :: '/' :: rest => anchored ['/'] (namesBehind '/' ('/' :: '/' :: rest))
  | '/' :: '/' :: rest => anchored ['/', '/'] (namesBehind '/' rest)
  | '/' :: rest => anchored ['/'] (namesBehind '/' rest)
  | path => anchored [] (namesBehind '/' path)

/-- The drive, the root and the rest of a path. -/
structure SplitRoot where
  drive : List Char
  root : List Char
  rel : List Char

/-- `\\?\UNC\`. -/
def uncPrefix : List Char := ['\\', '\\', '?', '\\', 'U', 'N', 'C', '\\']

/-- Where the server of a path is looked for. No character outside ASCII has `U`, `N` or `C` as its
upper case, so that ASCII letters decide whether the prefix is there. -/
def serverStart (path : List Char) : ℕ :=
  if (path.take 8).map Char.toUpper = uncPrefix then 8 else 2

/-- `ntpath.splitroot` of a path that begins with two separators. -/
def splitShare (path : List Char) : SplitRoot :=
  match (path.drop (serverStart path)).dropWhile (· ≠ '\\') with
  | [] => ⟨path, [], []⟩
  | _ :: share =>
    match share.dropWhile (· ≠ '\\') with
    | [] => ⟨path, [], []⟩
    | sep :: rel => ⟨path.take (path.length - (rel.length + 1)), [sep], rel⟩

/-- `ntpath.splitroot`. -/
def windowsSplitRoot : List Char → SplitRoot
  | '\\' :: '\\' :: rest => splitShare ('\\' :: '\\' :: rest)
  | '\\' :: rest => ⟨[], ['\\'], rest⟩
  | c :: ':' :: '\\' :: rest => ⟨[c, ':'], ['\\'], rest⟩
  | c :: ':' :: rest => ⟨[c, ':'], [], rest⟩
  | path => ⟨[], [], path⟩

/-- The root that a server with a share has, though it is not written. -/
def impliedRoot (drive : List Char) : List Char :=
  if drive.head? = some '\\' ∧ drive.getLast? ≠ some '\\' then
    match drive.splitOn '\\' with
    | [_, _, server, _] => if server <:+: ['?', '.'] then [] else ['\\']
    | [_, _, _, _, _, _] => ['\\']
    | _ => []
  else []

/-- `path.replace("/", "\\")`. -/
def backslashed (path : List Char) : List Char := path.map fun c => if c = '/' then '\\' else c

/-- `PureWindowsPath(path).parts`. -/
def windowsParts (path : List Char) : List (List Char) :=
  let split := windowsSplitRoot (backslashed path)
  let root := if split.root = [] then impliedRoot split.drive else split.root
  anchored (split.drive ++ root) (namesBehind '\\' split.rel)

/-! ### The last part -/

/-- A name that is kept: not empty, not a dot, and without a separator. -/
structure IsName (sep : Char) (name : List Char) : Prop where
  ne_nil : name ≠ []
  ne_dot : name ≠ ['.']
  sep_notMem : sep ∉ name

theorem namesBehind_of_isName {sep : Char} {name : List Char} (h : IsName sep name) :
    namesBehind sep name = [name] := by
  rw [namesBehind, List.splitOn_eq_singleton h.sep_notMem]
  exact List.filter_cons_of_pos (decide_eq_true ⟨h.ne_nil, h.ne_dot⟩)

/-- A name behind a separator is the last one. -/
theorem namesBehind_append_cons {sep : Char} {name : List Char} (h : IsName sep name)
    (rel : List Char) : namesBehind sep (rel ++ sep :: name) = namesBehind sep rel ++ [name] := by
  rw [← namesBehind_of_isName h, namesBehind, List.splitOn_append_cons_self, List.filter_append]
  rfl

/-- The rest of a path begins at a separator. -/
def AtBoundary (sep : Char) (path rel : List Char) : Prop :=
  rel = path ∨ ∃ front, path = front ++ sep :: rel

/-- The last name of a path is the last one behind the anchor. -/
theorem AtBoundary.namesBehind_eq {sep : Char} {name dir rel : List Char} (hname : IsName sep name)
    (h : AtBoundary sep (dir ++ sep :: name) rel) :
    ∃ before, namesBehind sep rel = before ++ [name] := by
  have hlast : ∃ before, namesBehind sep name = before ++ [name] :=
    ⟨[], namesBehind_of_isName hname⟩
  rcases h with rfl | ⟨front, hfront⟩
  · exact ⟨_, namesBehind_append_cons hname dir⟩
  rcases List.append_eq_append_iff.mp hfront with ⟨mid, -, hmid⟩ | ⟨mid, -, hmid⟩
  · cases mid with
    | nil =>
      obtain rfl := (List.cons.inj hmid).2
      exact hlast
    | cons c mid =>
      -- the last separator is the one before the name
      have hsep : sep ∈ name :=
        (List.cons.inj hmid).2 ▸ List.mem_append_right mid List.mem_cons_self
      exact absurd hsep hname.sep_notMem
  · cases mid with
    | nil =>
      obtain rfl := (List.cons.inj hmid).2
      exact hlast
    | cons c mid =>
      obtain rfl := (List.cons.inj hmid).2
      exact ⟨_, namesBehind_append_cons hname mid⟩

theorem getLast?_anchored (anchor : List Char) (before : List (List Char)) (name : List Char) :
    (anchored anchor (before ++ [name])).getLast? = some name := by
  rw [anchored]
  split_ifs
  · exact List.getLast?_concat
  · rw [← List.cons_append]
    exact List.getLast?_concat

/-- The rest of a POSIX path begins at a separator. -/
theorem exists_posixParts (path : List Char) : ∃ anchor rel,
    posixParts path = anchored anchor (namesBehind '/' rel) ∧ AtBoundary '/' path rel := by
  unfold posixParts
  split
  · exact ⟨_, _, rfl, Or.inr ⟨[], rfl⟩⟩
  · exact ⟨_, _, rfl, Or.inr ⟨['/'], rfl⟩⟩
  · exact ⟨_, _, rfl, Or.inr ⟨[], rfl⟩⟩
  · exact ⟨_, _, rfl, Or.inl rfl⟩

/-- A name at the end of a POSIX path is its last part. -/
theorem getLast?_posixParts {name : List Char} (hname : IsName '/' name) (dir : List Char) :
    (posixParts (dir ++ '/' :: name)).getLast? = some name := by
  obtain ⟨anchor, rel, hparts, hrel⟩ := exists_posixParts (dir ++ '/' :: name)
  obtain ⟨before, hbefore⟩ := hrel.namesBehind_eq hname
  rw [hparts, hbefore]
  exact getLast?_anchored anchor before name

theorem eq_append_of_dropWhile {q : Char → Bool} {text rest : List Char} {c : Char}
    (h : text.dropWhile q = c :: rest) :
    text = text.takeWhile q ++ c :: rest ∧ q c = false := by
  refine ⟨by rw [← h, List.takeWhile_append_dropWhile], ?_⟩
  have hhead := List.head?_dropWhile_not q text
  rw [h] at hhead
  exact hhead

/-- Nothing is left behind a server with a share, or the rest begins at a separator. -/
theorem rel_splitShare (path : List Char) :
    (splitShare path).rel = [] ∨ AtBoundary '\\' path (splitShare path).rel := by
  rw [splitShare]
  split
  · exact Or.inl rfl
  · rename_i c share hserver
    split
    · exact Or.inl rfl
    · rename_i sep rel hshare
      obtain ⟨hsplit, -⟩ := eq_append_of_dropWhile hserver
      obtain ⟨hsplit', hsep⟩ := eq_append_of_dropWhile hshare
      obtain rfl : sep = '\\' := by simpa using hsep
      refine Or.inr (Or.inr ⟨path.take (serverStart path) ++
        ((path.drop (serverStart path)).takeWhile (· ≠ '\\') ++
          c :: share.takeWhile (· ≠ '\\')), ?_⟩)
      calc path
          = path.take (serverStart path) ++ path.drop (serverStart path) :=
            (List.take_append_drop _ _).symm
        _ = path.take (serverStart path) ++
              ((path.drop (serverStart path)).takeWhile (· ≠ '\\') ++
                c :: (share.takeWhile (· ≠ '\\') ++ '\\' :: rel)) := by rw [← hsplit', ← hsplit]
        _ = _ := by simp only [List.append_assoc, List.cons_append]

/-- Nothing is left behind the anchor of a Windows path, or its last name. -/
theorem rel_windowsSplitRoot {name : List Char} (hname : IsName '\\' name) (dir : List Char) :
    (windowsSplitRoot (dir ++ '\\' :: name)).rel = [] ∨
      ∃ before, namesBehind '\\' (windowsSplitRoot (dir ++ '\\' :: name)).rel =
        before ++ [name] := by
  have hboundary {rel : List Char} (h : AtBoundary '\\' (dir ++ '\\' :: name) rel) :
      ∃ before, namesBehind '\\' rel = before ++ [name] := h.namesBehind_eq hname
  unfold windowsSplitRoot
  split
  · rename_i rest hpath
    rw [← hpath]
    exact (rel_splitShare _).imp id hboundary
  · rename_i rest _ hpath
    exact Or.inr (hboundary (Or.inr ⟨[], hpath⟩))
  · rename_i c rest _ hpath
    exact Or.inr (hboundary (Or.inr ⟨[c, ':'], hpath⟩))
  · rename_i c rest hroot _ hpath
    -- a drive without a root takes up two characters of the directory
    refine Or.inr ?_
    rcases dir with _ | ⟨d, _ | ⟨e, dir⟩⟩
    · exact absurd (List.cons.inj hpath).1.symm hroot
    · obtain ⟨-, hcolon⟩ := List.cons.inj hpath
      exact absurd (List.cons.inj hcolon).1 (by decide)
    · obtain ⟨-, hrest⟩ := List.cons.inj hpath
      obtain ⟨-, rfl⟩ := List.cons.inj hrest
      exact ⟨_, namesBehind_append_cons hname dir⟩
  · exact Or.inr (hboundary (Or.inl rfl))

theorem backslashed_of_notMem {path : List Char} (h : '/' ∉ path) : backslashed path = path :=
  (List.map_congr_left fun _ hc => if_neg (ne_of_mem_of_not_mem hc h)).trans (List.map_id' path)

/-- A name at the end of a Windows path is its last part, unless there is the anchor only. -/
theorem getLast?_windowsParts {name : List Char} (hname : IsName '\\' name)
    (hslash : '/' ∉ name) (dir : List Char) :
    (windowsParts (dir ++ '/' :: name)).length ≤ 1 ∨
      (windowsParts (dir ++ '/' :: name)).getLast? = some name := by
  have hpath : backslashed (dir ++ '/' :: name) = backslashed dir ++ '\\' :: name :=
    calc backslashed (dir ++ '/' :: name)
        = backslashed dir ++ '\\' :: backslashed name := by simp [backslashed]
      _ = backslashed dir ++ '\\' :: name := by rw [backslashed_of_notMem hslash]
  simp only [windowsParts]
  rw [hpath]
  rcases rel_windowsSplitRoot hname (backslashed dir) with hempty | ⟨before, hbefore⟩
  · left
    rw [hempty]
    have hnames : namesBehind '\\' [] = [] := by decide
    rw [hnames, anchored]
    split_ifs <;> simp
  · right
    rw [hbefore]
    exact getLast?_anchored _ before name

/-! ### Bare names -/

theorem posixParts_of_isName {name : List Char} (h : IsName '/' name) :
    posixParts name = [name] := by
  have hnames := namesBehind_of_isName h
  unfold posixParts
  split
  · exact absurd List.mem_cons_self h.sep_notMem
  · exact absurd List.mem_cons_self h.sep_notMem
  · exact absurd List.mem_cons_self h.sep_notMem
  · rw [hnames]
    rfl

theorem windowsParts_of_isName {name : List Char} (h : IsName '\\' name) (hslash : '/' ∉ name)
    (hcolon : ':' ∉ name) : windowsParts name = [name] := by
  have hroot : windowsSplitRoot name = ⟨[], [], name⟩ := by
    unfold windowsSplitRoot
    split
    · exact absurd List.mem_cons_self h.sep_notMem
    · exact absurd List.mem_cons_self h.sep_notMem
    · exact absurd (List.mem_cons_of_mem _ List.mem_cons_self) hcolon
    · exact absurd (List.mem_cons_of_mem _ List.mem_cons_self) hcolon
    · rfl
  rw [windowsParts, backslashed_of_notMem hslash, hroot]
  simp only [namesBehind_of_isName h]
  rfl

end ZubotIngestion
