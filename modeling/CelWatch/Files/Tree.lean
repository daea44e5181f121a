import CelWatch.Files.Access

/-!
A tree of files as a value. An absolute path is walked piece by piece: an empty
piece or a dot stays where it is and two dots go up, but only a directory can
be passed through.
-/

namespace CelWatch

/-- A name is what stands between two slashes of a path. -/
inductive FileTree where
  | file (content : List UInt8)
  | directory (entries : List (List UInt8 × FileTree))
deriving Repr, Inhabited

namespace FileTree

def empty : FileTree := .directory []

def isDirectory : FileTree → Bool
  | .directory _ => true
  | .file _ => false

def entries : FileTree → List (List UInt8 × FileTree)
  | .directory entries => entries
  | .file _ => []

/-- The entry of a name. -/
def child? (tree : FileTree) (name : List UInt8) : Option FileTree :=
  (tree.entries.find? fun entry => entry.1 = name).map Prod.snd

/-- The directory above and those above it, for two dots. The root is above
itself. -/
def up (here : FileTree) : List FileTree → FileTree × List FileTree
  | [] => (here, [])
  | parent :: above => (parent, above)

/-- What the pieces of a path lead to from `here`; `above` holds the directories
passed through, the nearest first. -/
def walk? (above : List FileTree) (here : FileTree) : List (List UInt8) → Option FileTree
  | [] => some here
  | piece :: rest =>
    if !here.isDirectory then none
    else if FilePath.isIdle piece then walk? above here rest
    else if piece = [0x2E, 0x2E] then
      let (parent, above) := here.up above
      walk? above parent rest
    else match here.child? piece with
      | some next => walk? (here :: above) next rest
      | none => none

/-- What an absolute path leads to. -/
def get? (tree : FileTree) (path : FilePath) : Option FileTree :=
  match path.pieces with
  | [] :: rest => walk? [] tree rest
  | _ => none

/-- Puts an entry of a name in place of an earlier one or at the end. -/
def setEntry (name : List UInt8) (next : FileTree) :
    List (List UInt8 × FileTree) → List (List UInt8 × FileTree)
  | [] => [(name, next)]
  | (other, tree) :: rest =>
    if other = name then (name, next) :: rest else (other, tree) :: setEntry name next rest

/-- Puts a tree at the end of a path of names. Directories that are missing on
the way are made, and a file on the way gives place to one. -/
def insert (tree leaf : FileTree) : List (List UInt8) → FileTree
  | [] => leaf
  | name :: rest =>
    .directory (setEntry name (insert ((tree.child? name).getD empty) leaf rest) tree.entries)

/-- Makes a directory and those above it; what is there stays. -/
def makeDirectory (tree : FileTree) : List (List UInt8) → FileTree
  | [] => if tree.isDirectory then tree else empty
  | name :: rest =>
    .directory (setEntry name (makeDirectory ((tree.child? name).getD empty) rest) tree.entries)

/-- The answers that a tree gives. -/
def access (tree : FileTree) : FileAccess Id where
  isFile path := match tree.get? path with
    | some (.file _) => true
    | _ => false
  read path := match tree.get? path with
    | some (.file content) => .ok content
    | some (.directory _) => .error .isDirectory
    | none => .error .notFound
  subdirectories path := match tree.get? path with
    | some (.directory entries) =>
      (entries.filter fun entry => entry.2.isDirectory).map fun entry => path.join entry.1
    | _ => []

end FileTree

end CelWatch
