import CelWatch.Lsp.Catalogue
import CelWatch.Lsp.Message
import CelWatch.Lsp.Workspace
import CelWatch.Settings.Discovery

/-!
The server as the editor sees it: messages come in one by one, and time passes
between them. It works between `initialize` and `shutdown`; before and after,
requests are refused and notifications pass without effect. After `exit` it
takes nothing more.
-/

namespace CelWatch.Lsp

inductive Server where
  | waiting
  | running (workspace : Workspace)
  /-- Nothing is taken up any more, but what is under way goes on. -/
  | shutDown (workspace : Workspace)
  | exited

/-- What a message brings about outside the server. -/
structure Answer where
  response : Option Response
  report : Report

namespace Answer

def quiet : Answer := ⟨none, .quiet⟩

/-- The answer to a request; a message without an identifier gets none. -/
def respond (message : Message) (result : Except Fault Json) (report : Report) : Answer :=
  ⟨message.id.map (⟨·, result⟩), report⟩

def refuse (message : Message) (fault : Fault) : Answer :=
  respond message (.error fault) .quiet

end Answer

/-- What the editor is told about the server. -/
def capabilities : Json := .object [
  ("capabilities", .object [
    ("textDocumentSync", .object [
      ("openClose", .bool true),
      ("change", .ofNat 1),
      ("save", .object [("includeText", .bool false)])]),
    ("documentSymbolProvider", .bool true)]),
  ("serverInfo", .object [("name", .string "celsync"), ("version", .string "0.1.0")])]

/-- What a message asks of a running server. -/
inductive Task where
  | greet
  | edit (snapshot : Option Snapshot)
  | save (uri : Uri)
  | close (uri : Uri)
  | listSymbols (uri : Uri)
  /-- A request that the server knows and does not answer. -/
  | decline
  | ignore

/-- How a message is to be sent: with an identifier or without. -/
inductive MessageKind where
  | request
  | notification
deriving DecidableEq, Repr

/-- The messages that a running server knows: their kind, and their task for
some parameters, if these are as they must be. -/
def knownMessage? (method : String) : Option (MessageKind × (Json → Option Task)) :=
  match method with
  | "initialized" => some (.notification, fun params =>
      (Shape.initialized.read? params).map fun _ => .greet)
  | "textDocument/didOpen" => some (.notification, fun params =>
      (Params.opened? params).map fun snapshot => .edit (some snapshot))
  | "textDocument/didChange" => some (.notification, fun params =>
      (Params.changed? params).map .edit)
  | "textDocument/didSave" => some (.notification, fun params => (Params.saved? params).map .save)
  | "textDocument/didClose" => some (.notification, fun params =>
      (Params.closed? params).map .close)
  | "textDocument/documentSymbol" => some (.request, fun params =>
      (Params.symbols? params).map .listSymbols)
  | _ =>
    if method ∈ Catalogue.ignored then some (.notification, fun _ => some .ignore)
    else (Catalogue.refused.lookup method).map fun shape =>
      (.request, fun params => (shape.read? params).map fun _ => .decline)

namespace Workspace

/-- Does a task; the result is that of a request. -/
def perform (workspace : Workspace) : Task → Workspace × Except Fault Json × Report
  | .greet =>
    (workspace, .ok .null, ⟨[.logMessage "CEL parse scheduler initialized"], []⟩)
  | .edit none => (workspace, .ok .null, .quiet)
  | .edit (some snapshot) =>
    let (next, report) := workspace.edit snapshot
    (next, .ok .null, report)
  | .save uri =>
    let (next, _, report) := workspace.current uri
    (next, .ok .null, report)
  | .close uri =>
    let (next, report) := workspace.close uri
    (next, .ok .null, report)
  | .listSymbols uri =>
    let (next, context, report) := workspace.current uri
    let symbols := context.bind symbolsOf
    (next, .ok (Json.ofOption (Json.ofList DocumentSymbol.toJson) symbols), report)
  | .decline => (workspace, .error .methodNotFound, .quiet)
  | .ignore => (workspace, .ok .null, .quiet)

/-- Takes a message that the server knows. One that was sent as the wrong kind
has no effect; if an answer can be given, it is a refusal. -/
def receive (workspace : Workspace) (message : Message) (kind : MessageKind)
    (task? : Json → Option Task) : Workspace × Answer :=
  if message.id.isSome != (kind = .request : Bool) then
    (workspace, .refuse message .invalidRequest)
  else match message.params.bind task? with
    | none => (workspace, .refuse message .invalidParams)
    | some task =>
      let (next, result, report) := workspace.perform task
      (next, .respond message result report)

end Workspace

namespace Server

/-- Why a server that does not work refuses requests. -/
def fault : Server → Fault
  | .waiting => .notInitialized
  | _ => .invalidRequest

/-- The server with the time moved on. -/
def wait (server : Server) (duration : Nat) : Server × Report :=
  match server with
  | .running workspace =>
    let (next, report) := workspace.wait duration
    (.running next, report)
  | .shutDown workspace =>
    let (next, report) := workspace.wait duration
    (.shutDown next, report)
  | server => (server, .quiet)

/-- Takes a message that only a running server acts on. -/
def receiveKnown (server : Server) (message : Message) (kind : MessageKind)
    (task? : Json → Option Task) : Server × Answer :=
  match server with
  | .running workspace =>
    let (next, answer) := workspace.receive message kind task?
    (.running next, answer)
  | server => (server, .refuse message server.fault)

/-- Takes a message of a method that the server does not know. Those whose
names start with `$/` may be passed over. -/
def receiveUnknown (server : Server) (message : Message) : Server × Answer :=
  if "$/".toList.isPrefixOf message.method.toList then (server, .quiet)
  else (server, .refuse message .methodNotFound)

/-- Ends the work. It takes no parameters, but ends with them too. -/
def shutdown (server : Server) (message : Message) : Server × Answer :=
  match server with
  | .running workspace =>
    let result := if message.params.isSome then .error .invalidParams else .ok .null
    (.shutDown workspace, .respond message result .quiet)
  | server => (server, .refuse message server.fault)

variable {m : Type → Type} [Monad m]

/-- The settings for the directory that the editor works in. -/
def settingsFor (files : FileAccess m) : Option FilePath → m (Settings × List Warning)
  | none => return (.default, [])
  | some root => do
    let found ← Settings.discover files root
    return (found.settings, found.warnings)

/-- Begins the work, unless it has begun before. -/
def begin (files : FileAccess m) (server : Server) (message : Message) :
    m (Server × Answer) := do
  match server with
  | .waiting =>
    if message.id.isNone then return (server, .quiet)
    match message.params.bind Params.opening? with
    | none => return (server, .refuse message .invalidParams)
    | some root =>
      let (settings, found) ← settingsFor files root
      let (workspace, built) := Workspace.start settings
      return (.running workspace, .respond message (.ok capabilities) ⟨[], found ++ built⟩)
  | server => return (server, .refuse message .invalidRequest)

/-- Takes a message; `none` once the server has exited. -/
def receive? (files : FileAccess m) (server : Server) (message : Message) :
    m (Option (Server × Answer)) := do
  match server, message.method with
  | .exited, _ => return none
  | _, "exit" => return some (.exited, .quiet)
  | server, "shutdown" => return some (server.shutdown message)
  | server, "initialize" => return some (← server.begin files message)
  | server, method =>
    if method = Catalogue.cancellation then
      return some (server, .refuse message .invalidRequest)
    match knownMessage? method with
    | some (kind, task?) => return some (server.receiveKnown message kind task?)
    | none => return some (server.receiveUnknown message)

end Server

end CelWatch.Lsp
