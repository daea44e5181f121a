/-!
JSON values and their text. An object keeps its members in the order in which
they were written.
-/

namespace CelWatch

inductive Json where
  | null
  | bool (value : Bool)
  /-- The number `mantissa · 10 ^ exponent`; a number written without a
  fraction and without an exponent has exponent zero. -/
  | number (mantissa : Int) (exponent : Int)
  | string (value : String)
  | array (items : List Json)
  | object (members : List (String × Json))
deriving Repr, Inhabited

namespace Json

def ofInt (value : Int) : Json := .number value 0

def ofNat (value : Nat) : Json := .number value 0

/-- `null` for `none`. -/
def ofOption {α : Type} (f : α → Json) : Option α → Json
  | none => .null
  | some value => f value

def ofList {α : Type} (f : α → Json) (values : List α) : Json :=
  .array (values.map f)

/-- The value of a member. Of several members of one name the last counts. -/
def get? (json : Json) (name : String) : Option Json :=
  match json with
  | .object members => (members.reverse.find? fun member => member.1 == name).map Prod.snd
  | _ => none

/-- The value of a member, when it is there and is not `null`. -/
def given? (json : Json) (name : String) : Option Json :=
  match json.get? name with
  | some .null => none
  | found => found

def string? : Json → Option String
  | .string value => some value
  | _ => none

def int? : Json → Option Int
  | .number value 0 => some value
  | _ => none

def nat? : Json → Option Nat
  | .number (.ofNat value) 0 => some value
  | _ => none

def bool? : Json → Option Bool
  | .bool value => some value
  | _ => none

def items? : Json → Option (List Json)
  | .array items => some items
  | _ => none

def members? : Json → Option (List (String × Json))
  | .object members => some members
  | _ => none

def hexDigit (n : Nat) : Char :=
  if n < 10 then Char.ofNat (48 + n) else Char.ofNat (87 + n)

/-- The written form of a character inside a string. -/
def escapeChar (c : Char) : List Char :=
  if c = '"' then ['\\', '"']
  else if c = '\\' then ['\\', '\\']
  else if c.toNat < 0x20 then
    ['\\', 'u', '0', '0', hexDigit (c.toNat / 16), hexDigit (c.toNat % 16)]
  else [c]

def quote (text : String) : String :=
  String.ofList ('"' :: text.toList.flatMap escapeChar ++ ['"'])

def renderNumber (mantissa exponent : Int) : String :=
  if exponent = 0 then toString mantissa else toString mantissa ++ "e" ++ toString exponent

mutual

/-- The text of a value, without blanks. -/
def render : Json → String
  | .null => "null"
  | .bool true => "true"
  | .bool false => "false"
  | .number mantissa exponent => renderNumber mantissa exponent
  | .string value => quote value
  | .array items => "[" ++ String.intercalate "," (renderItems items) ++ "]"
  | .object members => "\x7b" ++ String.intercalate "," (renderMembers members) ++ "\x7d"

def renderItems : List Json → List String
  | [] => []
  | item :: rest => render item :: renderItems rest

def renderMembers : List (String × Json) → List String
  | [] => []
  | (name, value) :: rest => (quote name ++ ":" ++ render value) :: renderMembers rest

end

end Json

end CelWatch
