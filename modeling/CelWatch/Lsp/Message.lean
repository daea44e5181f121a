import CelWatch.Json.Basic

/-!
Messages from the editor, and the responses to those that ask for one. A
message with an identifier is a request, one without is a notification.
-/

namespace CelWatch.Lsp

structure Message where
  method : String
  id : Option Json
  params : Option Json

/-- The message that a value stands for. -/
def Message.ofJson? (json : Json) : Option Message := do
  let method ← (← json.get? "method").string?
  pure ⟨method, json.get? "id", json.get? "params"⟩

/-- Why a request is refused. -/
inductive Fault where
  | notInitialized
  | invalidRequest
  | methodNotFound
  | invalidParams
deriving DecidableEq, Repr

def Fault.code : Fault → Int
  | .notInitialized => -32002
  | .invalidRequest => -32600
  | .methodNotFound => -32601
  | .invalidParams => -32602

def Fault.message : Fault → String
  | .notInitialized => "Server not initialized"
  | .invalidRequest => "Invalid request"
  | .methodNotFound => "Method not found"
  | .invalidParams => "Invalid params"

structure Response where
  id : Json
  result : Except Fault Json

/-- The response as it is sent. -/
def Response.toJson (response : Response) : Json :=
  let outcome : String × Json := match response.result with
    | .ok value => ("result", value)
    | .error fault =>
      ("error", .object [("code", .ofInt fault.code), ("message", .string fault.message)])
  .object [("jsonrpc", .string "2.0"), outcome, ("id", response.id)]

end CelWatch.Lsp
