import CelWatch.Json.Read
import CelWatch.Lsp.Framing
import CelWatch.Lsp.Server

/-!
The language server on standard input and output. While it waits for the next
message it lets the time of the server pass, so that timers fire.
-/

namespace CelWatch.Main

open Lsp

/-- The entry of a path, which the system can be asked about. -/
def entry (path : FilePath) : IO.FS.DirEntry := { root := "/", fileName := path.display }

/-- Whether the system says that a path leads to something of a type. -/
def hasType (type : IO.FS.FileType) (path : FilePath) : IO Bool := do
  try
    return (← (entry path).path.metadata).type == type
  catch _ => return false

def read (path : FilePath) : IO (Except ReadFault (List UInt8)) := do
  try
    return .ok (← IO.FS.readBinFile (entry path).path).toList
  catch
    | .noFileOrDirectory .. => return .error .notFound
    | _ => return .error .unreadable

def subdirectories (path : FilePath) : IO (List FilePath) := do
  try
    let entries ← (entry path).path.readDir
    let paths := entries.toList.map fun found => path.join (FilePath.ofString found.fileName).bytes
    paths.filterM (hasType .dir)
  catch _ => return []

/-- The files of the system. -/
def files : FileAccess IO := ⟨hasType .file, read, subdirectories⟩

/-- Reads header lines up to the empty one; gives the length they tell. -/
partial def readHeaders (input : IO.FS.Stream) (length : Option Nat) : IO (Option Nat) := do
  let line ← input.getLine
  if line.isEmpty then return none
  if Framing.isEnd line then return length
  readHeaders input ((Framing.contentLength? line).or length)

/-- Reads some bytes, or fewer at the end of the input. -/
partial def readBytes (input : IO.FS.Stream) (count : Nat) (before : ByteArray) :
    IO ByteArray := do
  if before.size ≥ count then return before
  let more ← input.read (USize.ofNat (count - before.size))
  if more.isEmpty then return before
  readBytes input count (before ++ more)

/-- Reads a message; `none` at the end of the input. -/
def readMessage (input : IO.FS.Stream) : IO (Option Json) := do
  match ← readHeaders input none with
  | none => return none
  | some length =>
    let bytes ← readBytes input length .empty
    return ((Text.decode? bytes.toList).bind Json.parse?).getD .null

def send (output : IO.FS.Stream) (json : Json) : IO Unit := do
  output.putStr (Framing.frame json)
  output.flush

/-- Sends what the editor is told, and writes warnings to the log. -/
def deliver (output : IO.FS.Stream) (answer : Answer) : IO Unit := do
  for warning in answer.report.warnings do
    IO.eprintln warning.message
  for notification in answer.report.notifications do
    match notification.toJson with
    | .object members => send output (.object (("jsonrpc", .string "2.0") :: members))
    | other => send output other
  match answer.response with
  | some response => send output response.toJson
  | none => return

/-- Serves until the input ends or the server exits. `now` is the time in
milliseconds that the server knows of. -/
partial def serve (input output : IO.FS.Stream) (server : Server) (now : Nat)
    (next : Task (Except IO.Error (Option Json))) : IO Unit := do
  let present ← IO.monoMsNow
  let (server, report) := server.wait (present - now)
  deliver output ⟨none, report⟩
  if !(← IO.hasFinished next) then
    IO.sleep 5
    serve input output server present next
  else match next.get with
    | .ok (some json) =>
      let server ← match Message.ofJson? json with
        | none => pure server
        | some message =>
          match ← server.receive? files message with
          | none => pure server
          | some (server, answer) =>
            deliver output answer
            pure server
      match server with
      | .exited => return
      | server => serve input output server present (← IO.asTask (readMessage input))
    | _ => return

end CelWatch.Main

def main : IO Unit := do
  let input ← IO.getStdin
  let output ← IO.getStdout
  let first ← IO.asTask (CelWatch.Main.readMessage input)
  CelWatch.Main.serve input output .waiting (← IO.monoMsNow) first
