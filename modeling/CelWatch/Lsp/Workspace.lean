import CelWatch.Engine.Cel
import CelWatch.Lsp.DocumentSymbol
import CelWatch.Lsp.Feed
import CelWatch.Lsp.Notification
import CelWatch.Schedule.Clock
import CelWatch.Settings.Environment

/-!
The documents that the editor has sent, with the scheduler that parses them.
What the scheduler publishes goes to the editor as one round after another.
-/

namespace CelWatch.Lsp

/-- What the editor and the log are told. -/
structure Report where
  notifications : List Notification
  warnings : List Warning

namespace Report

def quiet : Report := ⟨[], []⟩

def append (first second : Report) : Report :=
  ⟨first.notifications ++ second.notifications, first.warnings ++ second.warnings⟩

end Report

/-- An engine whose trees are searched for symbols. -/
def symbolPipeline (engine : Engine CelTree) : Pipeline CelTree SymbolTable :=
  ⟨engine, symbolExtractor⟩

structure Workspace where
  setup : Setup CelTree SymbolTable
  scheduler : Timed CelTree SymbolTable
  /-- The last snapshot of each document that was not closed after it. A change
  puts one here even if the document was never opened. -/
  documents : Registry Uri Snapshot
  feed : Feed

namespace Workspace

/-- What an effect tells, and the feed after it. -/
def tell (feed : Feed) : Effect → Report × Feed
  | .published diagnostics =>
    let (publications, next) := feed.next diagnostics
    (⟨publications.map Notification.publication, []⟩, next)
  | .reported event => (⟨[.telemetry event], []⟩, feed)
  | .warned warning => (⟨[], [warning]⟩, feed)
  | .parsed _ _ _ => (.quiet, feed)
  | .armed _ _ => (.quiet, feed)

def tellAll (feed : Feed) : List Effect → Report × Feed
  | [] => (.quiet, feed)
  | effect :: rest =>
    let (first, next) := tell feed effect
    let (later, last) := tellAll next rest
    (first.append later, last)

/-- A workspace without documents. -/
def startWith (config : SchedulerConfig) (pipeline : Pipeline CelTree SymbolTable) : Workspace :=
  ⟨⟨config, pipeline⟩, .initial, .empty, .initial⟩

/-- The workspace of some settings, and the warnings about them. -/
def start (settings : Settings) : Workspace × List Warning :=
  let (environment, warnings) := settings.environmentWithWarnings
  (startWith settings.schedulerConfig (symbolPipeline (celEngine environment)), warnings)

/-- Moves the time on and hands over events. -/
def advanceWith (workspace : Workspace) (duration : Nat) (events : List Event) :
    Workspace × List (Reply CelTree SymbolTable) × Report :=
  let (scheduler, replies, effects) :=
    workspace.scheduler.advanceWith workspace.setup duration events
  let (report, feed) := tellAll workspace.feed effects
  ({ workspace with scheduler, feed }, replies, report)

def wait (workspace : Workspace) (duration : Nat) : Workspace × Report :=
  let (next, _, report) := workspace.advanceWith duration []
  (next, report)

/-- Takes the text of a document that was opened or changed. -/
def edit (workspace : Workspace) (snapshot : Snapshot) : Workspace × Report :=
  let documents := workspace.documents.insert snapshot.uri snapshot
  let (next, _, report) := { workspace with documents }.advanceWith 0 [.edit snapshot]
  (next, report)

def close (workspace : Workspace) (uri : Uri) : Workspace × Report :=
  let documents := workspace.documents.erase uri
  let (next, _, report) := { workspace with documents }.advanceWith 0 [.close uri]
  (next, report)

/-- The results for the last snapshot of a document; none for a document without
one. -/
def current (workspace : Workspace) (uri : Uri) :
    Workspace × Option (Context CelTree SymbolTable) × Report :=
  match workspace.documents.get? uri with
  | none => (workspace, none, .quiet)
  | some snapshot =>
    let (next, replies, report) := workspace.advanceWith 0 [.parseNow snapshot]
    match replies with
    | [.context context] => (next, some context, report)
    | _ => (next, none, report)

/-- The symbols of a context, when its results are of its text: their places
count in the text that was parsed. -/
def symbolsOf (context : Context CelTree SymbolTable) : Option (List DocumentSymbol) :=
  if context.isFresh then
    context.metadata.map fun table => documentSymbols table.value context.snapshot.text
  else none

end Workspace

end CelWatch.Lsp
