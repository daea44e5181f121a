import CelWatch.Json.Basic
import CelWatch.Uri.Parse

/-!
Shapes of parameters. Reading a value by a shape checks it and brings records
into one form: a record may be written as an object, with members it does not
know, or, if the shape allows it, as an array of its members in order.
-/

namespace CelWatch.Lsp

mutual

inductive Shape where
  | any
  | null
  | bool
  | string
  | number
  | integer (low high : Int)
  /-- One of some words, alone or as the only member of an object, with `null`. -/
  | word (words : List String)
  | uri
  | list (item : Shape)
  /-- An array of exactly these items. -/
  | tuple (items : List Shape)
  /-- An object whose names and values are not fixed. -/
  | dictionary (name value : Shape)
  | either (first second : Shape)
  | record (byPosition : Bool) (fields : List Field)
  /-- A record in which members that it does not know have a shape too. -/
  | openRecord (fields : List Field) (other : Shape)
  /-- A record whose other members depend on the word in one of them. In an
  array that word comes first. -/
  | tagged (tag : String) (cases : List Case)

/-- A member of a record. -/
inductive Field where
  | required (name : String) (shape : Shape)
  /-- It may be `null`, which is the same as missing. -/
  | optional (name : String) (shape : Shape)
  /-- It may be missing, also at the end of an array. -/
  | defaulted (name : String) (shape : Shape)

/-- What the word of a tagged record stands for. -/
inductive Case where
  | mk (word : String) (shape : Shape)

end

namespace Field

def name : Field → String
  | .required name _ => name
  | .optional name _ => name
  | .defaulted name _ => name

def isDefaulted : Field → Bool
  | .defaulted _ _ => true
  | _ => false

/-- The members that the items of an array stand for. -/
def ofItems? (fields : List Field) (items : List Json) : Option Json :=
  if items.length ≤ fields.length && (fields.drop items.length).all isDefaulted then
    some (.object ((fields.map name).zip items))
  else none

end Field

/-- The word that a value spells. -/
def spelledWord? : Json → Option String
  | .string word => some word
  | .object [(word, .null)] => some word
  | _ => none

/-- The text of a URI in normal form. -/
def normalUri? (json : Json) : Option Json := do
  let text ← json.string?
  match Uri.parse text with
  | .ok found => some (.string found.text)
  | .error _ => none

namespace Shape

mutual

/-- Reads a value; `none` when it does not have the shape. -/
def read? : Shape → Json → Option Json
  | .any, json => some json
  | .null, json =>
    match json with
    | .null => some .null
    | _ => none
  | .bool, json => json.bool?.map .bool
  | .string, json => json.string?.map .string
  | .number, json =>
    match json with
    | .number mantissa exponent => some (.number mantissa exponent)
    | _ => none
  | .integer low high, json => do
    let value ← json.int?
    if low ≤ value ∧ value ≤ high then some (.ofInt value) else none
  | .word words, json => do
    let word ← spelledWord? json
    if words.contains word then some (.string word) else none
  | .uri, json => normalUri? json
  | .list item, json => do
    let items ← json.items?
    pure (.array (← items.mapM fun json => item.read? json))
  | .tuple items, json => do
    pure (.array (← readItems items (← json.items?)))
  | .dictionary name value, json => do
    let members ← json.members?
    pure (.object (← members.mapM fun member => do
      let read ← name.read? (.string member.1)
      pure ((← read.string?), ← value.read? member.2)))
  | .either first second, json =>
    match first.read? json with
    | some value => some value
    | none => second.read? json
  | .record byPosition fields, json =>
    match json with
    | .object _ => (readFields fields json).map .object
    | .array items =>
      if byPosition then do
        pure (.object (← readFields fields (← Field.ofItems? fields items)))
      else none
    | _ => none
  | .openRecord fields other, json => do
    let members ← json.members?
    let known ← readFields fields json
    let names := fields.map Field.name
    let more ← (members.filter fun member => !names.contains member.1).mapM fun member => do
      pure (member.1, ← other.read? member.2)
    pure (.object (known ++ more))
  | .tagged tag cases, json =>
    match json with
    | .object _ => do readCase cases (← (← json.get? tag).string?) json
    | .array (.string head :: items) => readCase cases head (.array items)
    | _ => none

/-- Reads the items of an array, each by its own shape. -/
def readItems : List Shape → List Json → Option (List Json)
  | [], [] => some []
  | shape :: rest, json :: later => do
    let value ← shape.read? json
    pure (value :: (← readItems rest later))
  | _, _ => none

/-- Reads the members of a record. -/
def readFields : List Field → Json → Option (List (String × Json))
  | [], _ => some []
  | .required name shape :: rest, json => do
    let value ← shape.read? (← json.given? name)
    pure ((name, value) :: (← readFields rest json))
  | .optional name shape :: rest, json => do
    match json.given? name with
    | none => readFields rest json
    | some value =>
      let value ← shape.read? value
      pure ((name, value) :: (← readFields rest json))
  | .defaulted name shape :: rest, json => do
    match json.get? name with
    | none => readFields rest json
    | some value =>
      let value ← shape.read? value
      pure ((name, value) :: (← readFields rest json))

/-- Reads what a word stands for. -/
def readCase : List Case → String → Json → Option Json
  | [], _, _ => none
  | .mk wanted shape :: rest, found, json =>
    if wanted = found then shape.read? json else readCase rest found json

end

end Shape

end CelWatch.Lsp
