import CelWatch.Diagnostic
import CelWatch.Document.Identity

/-!
Snapshots of documents, and contexts, which are snapshots with what parsing
made of the document.
-/

namespace CelWatch

/-- The text of a document at a version. -/
structure Snapshot where
  uri : Uri
  text : String
  /-- Grows with every edit. -/
  version : Int
  /-- The path that an engine is given. -/
  path : FilePath
  /-- The identity gives the path. -/
  derived : path = uri.derivedPath
deriving DecidableEq, Repr

namespace Snapshot

/-- The snapshot of a document, with the path that its identity gives. -/
def ofText (uri : Uri) (text : String) (version : Int) : Snapshot :=
  ⟨uri, text, version, uri.derivedPath, rfl⟩

theorem eq_of {first second : Snapshot} (huri : first.uri = second.uri)
    (htext : first.text = second.text) (hversion : first.version = second.version) :
    first = second := by
  obtain ⟨uri, text, version, _, rfl⟩ := first
  obtain ⟨_, _, _, _, rfl⟩ := second
  cases huri
  cases htext
  cases hversion
  rfl

end Snapshot

/-- A value with an identity: two are the same when they were made together,
whatever their values. -/
structure Shared (α : Type) where
  identity : Nat
  value : α
deriving DecidableEq, Repr

/-- What is known of a document. -/
structure Context (Tree Metadata : Type) where
  /-- The snapshot received last. -/
  snapshot : Snapshot
  path : FilePath
  /-- Absent before the first parse, and when a parse gave none. -/
  tree : Option (Shared Tree)
  diagnostics : List Diagnostic
  /-- Present when the tree is. -/
  metadata : Option (Shared Metadata)
  /-- The version that tree, diagnostics and metadata are of. -/
  parsedVersion : Option Int
deriving DecidableEq, Repr

namespace Context

variable {Tree Metadata : Type}

/-- A snapshot that no parse has seen. -/
def unparsed (snapshot : Snapshot) : Context Tree Metadata :=
  ⟨snapshot, snapshot.path, none, [], none, none⟩

/-- Whether the results are of a version. -/
def isParsedAt (context : Context Tree Metadata) (version : Int) : Bool :=
  context.parsedVersion == some version

theorem isParsedAt_iff {context : Context Tree Metadata} {version : Int} :
    context.isParsedAt version = true ↔ context.parsedVersion = some version := by
  simp [isParsedAt]

/-- Whether the results are of the snapshot. -/
def isFresh (context : Context Tree Metadata) : Bool :=
  context.isParsedAt context.snapshot.version

/-- Takes a new snapshot and keeps the results. -/
def update (context : Context Tree Metadata) (snapshot : Snapshot) : Context Tree Metadata :=
  { context with snapshot := snapshot, path := snapshot.path }

/-- Whether two contexts are equal; trees and metadata are compared by
identity. -/
def isSame (a b : Context Tree Metadata) : Bool :=
  a.snapshot == b.snapshot && a.path == b.path && a.parsedVersion == b.parsedVersion &&
    a.diagnostics == b.diagnostics &&
    a.tree.map Shared.identity == b.tree.map Shared.identity &&
    a.metadata.map Shared.identity == b.metadata.map Shared.identity

/-- One line that tells what the context holds. -/
def describe (context : Context Tree Metadata) : String :=
  let version := match context.parsedVersion with
    | none => "None"
    | some version => "Some(" ++ toString version ++ ")"
  "Context \x7b uri: " ++ Text.quoted context.snapshot.uri.text.toList ++
    ", version: " ++ toString context.snapshot.version ++
    ", path: " ++ context.path.quoted ++
    ", has_tree: " ++ toString context.tree.isSome ++
    ", diagnostics: " ++ toString context.diagnostics.length ++
    ", has_metadata: " ++ toString context.metadata.isSome ++
    ", parsed_version: " ++ version ++ " \x7d"

end Context

end CelWatch
