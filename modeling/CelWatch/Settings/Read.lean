import CelWatch.Settings.Basic
import CelWatch.Toml.Read

/-!
Settings read from the text of a settings file. A member that settings do not
know is passed over; a member of the wrong form spoils the file. A group of
settings is a table, or an array that gives all of them in their order.
-/

namespace CelWatch.Settings

open Toml (Value Members)

/-- The member by which a date or time counts as a table. -/
def datetimeMember : String := "$__toml_private_datetime"

/-- The members of a value that is a table or counts as one. -/
def members? : Value → Option Members
  | .table _ members => some members
  | .datetime standard => some [(datetimeMember, .string standard)]
  | _ => none

/-- The items of a value that is an array or an array of tables. -/
def items? : Value → Option (List Value)
  | .array items => some items
  | .rows tables => some (tables.reverse.map (.table .header))
  | _ => none

/-- The values that a group gives for some names. -/
def fields? (names : List String) (value : Value) : Option (List (Option Value)) :=
  match members? value, items? value with
  | some members, _ => some (names.map members.get?)
  | none, some items =>
    if names.length ≤ items.length then some ((items.take names.length).map some) else none
  | none, none => none

/-- Reads a value that may be missing. -/
def given? {α : Type} (read : Value → Option α) : Option Value → Option (Option α)
  | none => some none
  | some value => (read value).map some

def text? : Value → Option String
  | .string value => some value
  | _ => none

def texts? (value : Value) : Option (List String) := do
  (← items? value).mapM text?

/-- A whole number that is not negative. -/
def milliseconds? : Value → Option Nat
  | .integer (.ofNat value) => some value
  | _ => none

/-- Names with texts. -/
def entries? (value : Value) : Option (List (String × String)) := do
  (← members? value).mapM fun (name, value) => (text? value).map fun text => (name, text)

def scheduler? (value : Value) : Option SchedulerSettings := do
  match ← fields? ["debounce_ms"] value with
  | [debounce] => pure ⟨← given? milliseconds? debounce⟩
  | _ => none

def documents? (value : Value) : Option DocumentSettings := do
  match ← fields? ["sources", "templates"] value with
  | [sources, templates] => pure ⟨← given? texts? sources, ← given? texts? templates⟩
  | _ => none

def environment? (value : Value) : Option EnvironmentSettings := do
  match ← fields? ["container", "extensions", "variables"] value with
  | [container, extensions, variableTypes] =>
    pure ⟨← given? text? container, ← given? texts? extensions, ← given? entries? variableTypes⟩
  | _ => none

/-- The settings that a document says. -/
def ofMembers? (document : Members) : Option Settings := do
  let scheduler ← given? scheduler? (document.get? "scheduler")
  let documents ← given? documents? (document.get? "documents")
  let environment ← given? environment? (document.get? "env")
  pure ⟨scheduler, documents, environment⟩

/-- Reads the text of a settings file. -/
def parse? (text : String) : Option Settings := do
  ofMembers? (← Toml.parse? text)

end CelWatch.Settings
