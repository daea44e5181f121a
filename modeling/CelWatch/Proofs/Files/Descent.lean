import CelWatch.Files.Tree
import Mathlib.Data.List.Infix

/-!
Paths of names. An absolute path without dots leads to where its names lead, one
entry below the other; slashes that stand in a row or at the end add nothing.
The directories above it are those of the beginnings of its names, the longest
first.
-/

namespace CelWatch

namespace FilePath

/-- The names in a path, without the empty pieces. -/
def names (path : FilePath) : List (List UInt8) :=
  path.pieces.filter (· ≠ [])

/-- No piece goes up or stays by its own name. -/
def IsDotless (piece : List UInt8) : Prop := piece ≠ [0x2E] ∧ piece ≠ [0x2E, 0x2E]

/-- An absolute path without dots for pieces, like that of a file URI. -/
structure IsPlain (path : FilePath) : Prop where
  absolute : path.bytes.head? = some slash
  dotless : ∀ piece ∈ path.pieces, IsDotless piece

/-- What an entry of a directory can be called. -/
structure IsName (name : List UInt8) : Prop where
  ne_nil : name ≠ []
  dotless : IsDotless name
  slashless : slash ∉ name

section Pieces

variable {front rest name piece : List UInt8} {path : FilePath}

theorem piecesOf_ne_nil (bytes : List UInt8) : piecesOf bytes ≠ [] := by
  cases bytes with
  | nil => simp [piecesOf]
  | cons b rest =>
      rw [piecesOf]
      split
      · simp
      · split
        · simp
        · simp

theorem piecesOf_prepend {first : List UInt8} {later : List (List UInt8)} (hname : slash ∉ name)
    (h : piecesOf rest = first :: later) : piecesOf (name ++ rest) = (name ++ first) :: later := by
  induction name with
  | nil => exact h
  | cons b name ih =>
      obtain ⟨hb, hmore⟩ := not_or.mp (mt List.mem_cons.mpr hname)
      rw [List.cons_append, piecesOf, if_neg (Ne.symm hb), ih hmore]
      rfl

theorem piecesOf_slashless (h : slash ∉ name) : piecesOf name = [name] := by
  have hpieces := piecesOf_prepend h (show piecesOf [] = [[]] from rfl)
  rwa [List.append_nil] at hpieces

/-- A slash ends a piece. -/
theorem piecesOf_append (front rest : List UInt8) :
    piecesOf (front ++ slash :: rest) = piecesOf front ++ piecesOf rest := by
  induction front with
  | nil => simp [piecesOf]
  | cons b front ih =>
      rw [List.cons_append, piecesOf, piecesOf, ih]
      by_cases hb : b = slash
      · rw [if_pos hb, if_pos hb, List.cons_append]
      · rw [if_neg hb, if_neg hb]
        obtain ⟨first, later, hfront⟩ := List.exists_cons_of_ne_nil (piecesOf_ne_nil front)
        rw [hfront]
        rfl

theorem slashless_of_mem_piecesOf {bytes : List UInt8} (h : piece ∈ piecesOf bytes) :
    slash ∉ piece := by
  induction bytes generalizing piece with
  | nil =>
      obtain rfl := List.mem_singleton.mp h
      simp
  | cons b bytes ih =>
      rw [piecesOf] at h
      by_cases hb : b = slash
      · rw [if_pos hb] at h
        rcases List.mem_cons.mp h with rfl | hlater
        · simp
        · exact ih hlater
      · rw [if_neg hb] at h
        obtain ⟨first, later, hbytes⟩ := List.exists_cons_of_ne_nil (piecesOf_ne_nil bytes)
        rw [hbytes] at h ih
        rcases List.mem_cons.mp h with rfl | hlater
        · have hfirst := ih List.mem_cons_self
          simp [Ne.symm hb, hfirst]
        · exact ih (List.mem_cons_of_mem _ hlater)

theorem IsPlain.pieces_eq (h : path.IsPlain) : path.pieces = [] :: path.pieces.tail := by
  obtain ⟨rest, hbytes⟩ := List.head?_eq_some_iff.mp h.absolute
  rw [pieces, hbytes, piecesOf, if_pos rfl]
  rfl

theorem IsPlain.names_tail (h : path.IsPlain) : path.names = path.pieces.tail.filter (· ≠ []) := by
  rw [names, h.pieces_eq]
  simp

/-- Behind the path of a directory the name of an entry is one name more. -/
theorem IsPlain.join_pieces (h : path.IsPlain) (hname : IsName name) :
    ∃ front, (path.join name).pieces = [] :: front ++ [name] ∧
      front.filter (· ≠ []) = path.names ∧ ∀ piece ∈ front, IsDotless piece := by
  have hne : path.bytes ≠ [] := by
    intro hnil
    have habsolute := h.absolute
    rw [hnil] at habsolute
    cases habsolute
  have hlast := piecesOf_slashless hname.slashless
  by_cases hend : path.bytes.getLast? = some slash
  · obtain ⟨front, hbytes⟩ := List.getLast?_eq_some_iff.mp hend
    have hpath : path.pieces = piecesOf front ++ [[]] := by
      rw [pieces, hbytes]
      exact piecesOf_append front []
    have hjoin : (path.join name).pieces = piecesOf front ++ [name] := by
      rw [join, if_pos (.inr hend), pieces, hbytes, List.append_assoc, List.singleton_append,
        piecesOf_append, hlast]
    obtain ⟨first, later, hfront⟩ := List.exists_cons_of_ne_nil (piecesOf_ne_nil front)
    rw [hfront] at hpath hjoin
    obtain rfl : first = [] := (List.cons.inj (hpath.symm.trans h.pieces_eq)).1
    refine ⟨later, hjoin, ?_, ?_⟩
    · rw [names, hpath]
      simp
    · intro piece member
      apply h.dotless
      rw [hpath]
      exact List.mem_cons_of_mem _ (List.mem_append_left _ member)
  · have hjoin : (path.join name).pieces = path.pieces ++ [name] := by
      rw [join, if_neg (by simp [hne, hend]), pieces, piecesOf_append, hlast]
      rfl
    refine ⟨path.pieces.tail, ?_, h.names_tail.symm, ?_⟩
    · rw [hjoin, h.pieces_eq]
      rfl
    · exact fun piece member => h.dotless piece (List.mem_of_mem_tail member)

theorem IsPlain.join_names (h : path.IsPlain) (hname : IsName name) :
    (path.join name).names = path.names ++ [name] := by
  obtain ⟨front, hpieces, hfront, _⟩ := h.join_pieces hname
  rw [names, hpieces, ← hfront]
  simp [hname.ne_nil]

theorem IsPlain.join (h : path.IsPlain) (hname : IsName name) : (path.join name).IsPlain := by
  obtain ⟨front, hpieces, _, hdotless⟩ := h.join_pieces hname
  constructor
  · obtain ⟨rest, hbytes⟩ := List.head?_eq_some_iff.mp h.absolute
    rw [FilePath.join]
    split
    · rw [hbytes]
      rfl
    · rw [hbytes]
      rfl
  · intro piece member
    rw [hpieces] at member
    rcases List.mem_append.mp member with hbefore | hlast
    · rcases List.mem_cons.mp hbefore with rfl | hfront
      · simp [IsDotless]
      · exact hdotless piece hfront
    · obtain rfl := List.mem_singleton.mp hlast
      exact hname.dotless

end Pieces

section Ancestors

variable {pieces : List (List UInt8)} {path : FilePath}

theorem piecesOf_flatMap_slash (h : ∀ piece ∈ pieces, slash ∉ piece) :
    piecesOf (pieces.flatMap (slash :: ·)) = [] :: pieces := by
  induction pieces with
  | nil => rfl
  | cons piece pieces ih =>
      obtain ⟨hpiece, hlater⟩ := List.forall_mem_cons.mp h
      have hpieces := piecesOf_prepend hpiece (ih hlater)
      rw [List.append_nil] at hpieces
      rw [List.flatMap_cons, List.cons_append, piecesOf, if_pos rfl, hpieces]

/-- The path of some pieces leads where these do; without any it is the root. -/
theorem ofPieces_spec (hslashless : ∀ piece ∈ pieces, slash ∉ piece)
    (hdotless : ∀ piece ∈ pieces, IsDotless piece) :
    (ofPieces pieces).IsPlain ∧ (ofPieces pieces).names = pieces.filter (· ≠ []) := by
  have hnil : IsDotless [] := by simp [IsDotless]
  cases pieces with
  | nil =>
      refine ⟨⟨rfl, ?_⟩, rfl⟩
      intro piece member
      have hempty : piece = [] := by simpa [FilePath.pieces, ofPieces, piecesOf] using member
      exact hempty ▸ hnil
  | cons first later =>
      have hpieces : (ofPieces (first :: later)).pieces = [] :: first :: later :=
        piecesOf_flatMap_slash hslashless
      refine ⟨⟨rfl, ?_⟩, ?_⟩
      · intro piece member
        rw [hpieces] at member
        rcases List.mem_cons.mp member with rfl | hlater
        · exact hnil
        · exact hdotless piece hlater
      · rw [names, hpieces]
        simp

theorem isIdle_iff {piece : List UInt8} (h : IsDotless piece) :
    isIdle piece = true ↔ piece = [] := by
  simp [isIdle, h.1]

theorem filter_dropWhile_isIdle (h : ∀ piece ∈ pieces, IsDotless piece) :
    (pieces.dropWhile isIdle).filter (· ≠ []) = pieces.filter (· ≠ []) := by
  induction pieces with
  | nil => rfl
  | cons piece pieces ih =>
      obtain ⟨hpiece, hlater⟩ := List.forall_mem_cons.mp h
      by_cases hidle : isIdle piece = true
      · rw [List.dropWhile_cons_of_pos hidle, ih hlater, (isIdle_iff hpiece).mp hidle]
        simp
      · rw [List.dropWhile_cons_of_neg hidle]

/-- The directories above a path, with its pieces in reverse: each has one name
less than the one before it. -/
theorem above_spec (hslashless : ∀ piece ∈ pieces, slash ∉ piece)
    (hdotless : ∀ piece ∈ pieces, IsDotless piece) :
    (∀ directory ∈ above pieces, directory.IsPlain) ∧
      (above pieces).map names = (pieces.filter (· ≠ [])).tails.tail.map List.reverse := by
  induction pieces with
  | nil => exact ⟨by simp [above], rfl⟩
  | cons piece outer ih =>
      obtain ⟨_, hslashes⟩ := List.forall_mem_cons.mp hslashless
      obtain ⟨hpiece, hdots⟩ := List.forall_mem_cons.mp hdotless
      obtain ⟨hplain, hnames⟩ := ih hslashes hdots
      rw [above]
      by_cases hidle : isIdle piece = true
      · obtain rfl := (isIdle_iff hpiece).mp hidle
        rw [if_pos hidle, List.filter_cons_of_neg (by simp)]
        exact ⟨hplain, hnames⟩
      · have hname : piece ≠ [] := fun hnil => hidle ((isIdle_iff hpiece).mpr hnil)
        have hkept : ∀ other ∈ (outer.dropWhile isIdle).reverse, other ∈ outer :=
          fun other member => (List.dropWhile_sublist _).mem (List.mem_reverse.mp member)
        obtain ⟨hfirst, hfirstNames⟩ :=
          ofPieces_spec (fun other member => hslashes _ (hkept other member))
            fun other member => hdots _ (hkept other member)
        rw [List.filter_reverse, filter_dropWhile_isIdle hdots] at hfirstNames
        rw [if_neg hidle]
        refine ⟨List.forall_mem_cons.mpr ⟨hfirst, hplain⟩, ?_⟩
        rw [List.map_cons, hfirstNames, hnames]
        simp only [ne_eq, decide_not, List.filter_cons, hname, decide_false, Bool.not_false,
          if_true, List.tails_cons, List.tail_cons]
        cases (outer.filter fun piece => !decide (piece = [])) with
        | nil => rfl
        | cons _ _ => rfl

/-- A path and the directories above it are those of the beginnings of its names. -/
theorem IsPlain.ancestors_spec (h : path.IsPlain) :
    (∀ directory ∈ path.ancestors, directory.IsPlain) ∧
      path.ancestors.map names = path.names.reverse.tails.map List.reverse := by
  have hmem : ∀ piece ∈ path.pieces.tail.reverse, piece ∈ path.pieces := fun piece member =>
    List.mem_of_mem_tail (List.mem_reverse.mp member)
  obtain ⟨hplain, hnames⟩ := above_spec
    (fun piece member => slashless_of_mem_piecesOf (hmem piece member))
    fun piece member => h.dotless piece (hmem piece member)
  rw [List.filter_reverse, ← h.names_tail] at hnames
  refine ⟨List.forall_mem_cons.mpr ⟨h, hplain⟩, ?_⟩
  rw [ancestors, List.map_cons, hnames]
  cases hreverse : path.names.reverse with
  | nil => simpa using hreverse
  | cons last outer => simp [← hreverse]

end Ancestors

end FilePath

namespace FileTree

open FilePath

/-- What names lead to, one entry below the other. -/
def at? (tree : FileTree) : List (List UInt8) → Option FileTree
  | [] => some tree
  | name :: rest => (tree.child? name).bind (at? · rest)

section Walk

variable {tree here : FileTree} {above : List FileTree} {pieces : List (List UInt8)}
  {name : List UInt8} {path : FilePath}

theorem walk?_empty (h : here.isDirectory = true) :
    walk? above here ([] :: pieces) = walk? above here pieces := by
  rw [walk?]
  simp [h, isIdle]

theorem walk?_name (hname : name ≠ []) (hdotless : IsDotless name) :
    walk? above here (name :: pieces) =
      (here.child? name).bind fun next => walk? (here :: above) next pieces := by
  have hidle : isIdle name = false := by
    rw [Bool.eq_false_iff, Ne, isIdle_iff hdotless]
    exact hname
  cases here with
  | file content => rfl
  | directory entries =>
      rw [walk?]
      simp only [isDirectory, hidle, hdotless.2]
      cases (directory entries).child? name with
      | none => rfl
      | some next => rfl

theorem at?_append (first second : List (List UInt8)) :
    tree.at? (first ++ second) = (tree.at? first).bind (at? · second) := by
  induction first generalizing tree with
  | nil => rfl
  | cons name rest ih =>
      rw [List.cons_append, at?, at?, Option.bind_assoc]
      exact congrArg _ (funext fun next => ih)

/-- Nothing is in a file, and a slash behind one leads nowhere. -/
theorem walk?_file {content : List UInt8} (h : pieces ≠ []) :
    walk? above (.file content) pieces = none := by
  obtain ⟨first, later, rfl⟩ := List.exists_cons_of_ne_nil h
  rfl

theorem at?_file {content : List UInt8} {names : List (List UInt8)} (h : names ≠ []) :
    (file content).at? names = none := by
  obtain ⟨first, later, rfl⟩ := List.exists_cons_of_ne_nil h
  rfl

theorem at?_concat (names : List (List UInt8)) (name : List UInt8) :
    tree.at? (names ++ [name]) = (tree.at? names).bind (·.child? name) := by
  rw [at?_append]
  refine congrArg _ (funext fun next => ?_)
  exact Option.bind_fun_some (next.child? name)

/-- A walk that ends with a name goes from entry to entry, as the names of its
pieces do. -/
theorem walk?_concat (h : ∀ piece ∈ pieces, IsDotless piece) (hname : IsName name) :
    walk? above here (pieces ++ [name]) = here.at? (pieces.filter (· ≠ []) ++ [name]) := by
  induction pieces generalizing above here with
  | nil => exact walk?_name hname.ne_nil hname.dotless
  | cons piece pieces ih =>
      obtain ⟨hpiece, hlater⟩ := List.forall_mem_cons.mp h
      by_cases hempty : piece = []
      · subst hempty
        cases here with
        | directory entries =>
            rw [List.cons_append, walk?_empty rfl, ih hlater, List.filter_cons_of_neg (by simp)]
        | file content => rw [walk?_file (by simp), at?_file (by simp)]
      · rw [List.cons_append, walk?_name hempty hpiece, List.filter_cons_of_pos (by simp [hempty])]
        exact congrArg _ (funext fun next => ih hlater)

/-- A walk to a directory may also end with a slash. -/
theorem walk?_directory (h : ∀ piece ∈ pieces, IsDotless piece) :
    (walk? above here pieces).filter isDirectory =
      (here.at? (pieces.filter (· ≠ []))).filter isDirectory := by
  induction pieces generalizing above here with
  | nil => rfl
  | cons piece pieces ih =>
      obtain ⟨hpiece, hlater⟩ := List.forall_mem_cons.mp h
      by_cases hempty : piece = []
      · subst hempty
        rw [List.filter_cons_of_neg (by simp)]
        cases here with
        | directory entries => rw [walk?_empty rfl, ih hlater]
        | file content =>
            rw [walk?_file (by simp)]
            cases hnames : pieces.filter (· ≠ []) with
            | nil => rfl
            | cons first later => rfl
      · rw [walk?_name hempty hpiece, List.filter_cons_of_pos (by simp [hempty]), at?]
        cases here.child? piece with
        | none => rfl
        | some next => exact ih hlater

/-- The entry of a name in the directory that a path leads to. -/
theorem get?_join (h : path.IsPlain) (hname : IsName name) :
    tree.get? (path.join name) = tree.at? (path.names ++ [name]) := by
  obtain ⟨front, hpieces, hfront, hdotless⟩ := h.join_pieces hname
  rw [get?, hpieces]
  exact (walk?_concat hdotless hname).trans (by rw [hfront])

/-- The directory that a path leads to. -/
theorem get?_eq_directory_iff {entries : List (List UInt8 × FileTree)} (h : path.IsPlain) :
    tree.get? path = some (.directory entries) ↔
      tree.at? path.names = some (.directory entries) := by
  have hwalk : (tree.get? path).filter isDirectory = (tree.at? path.names).filter isDirectory := by
    rw [get?, h.pieces_eq, h.names_tail]
    exact walk?_directory fun piece member => h.dotless piece (List.mem_of_mem_tail member)
  have hfilter : ∀ found : Option FileTree, found = some (.directory entries) ↔
      found.filter isDirectory = some (.directory entries) := by
    intro found
    rw [Option.filter_eq_some_iff]
    simp [isDirectory]
  rw [hfilter, hwalk, ← hfilter]

end Walk

end FileTree

end CelWatch
