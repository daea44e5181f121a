import CelWatch.FilePath

/-!
What the program asks of the files around it. It never writes.
-/

namespace CelWatch

/-- Why the content of a file cannot be had. -/
inductive ReadFault where
  | notFound
  | isDirectory
  /-- The content is not valid UTF-8. -/
  | notText
  | unreadable
deriving DecidableEq, Repr

/-- The questions about files, answered in a monad `m`. -/
structure FileAccess (m : Type → Type) where
  /-- Whether a path leads to a file; a directory is none. -/
  isFile : FilePath → m Bool
  read : FilePath → m (Except ReadFault (List UInt8))
  /-- The paths of the directories in a directory; none when there is no such
  directory. -/
  subdirectories : FilePath → m (List FilePath)

end CelWatch
