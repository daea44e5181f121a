import CelWatch.Toml.Value

/-!
How the lines of a document build its tables. A header opens a table or adds a
row; an assignment puts a value behind a dotted key. Nothing that was written
is written over: a line that would do so is refused.
-/

namespace CelWatch.Toml.Members

/-- Changes the member of a name, or adds it. -/
def alter? (name : String) (f : Option Value → Option Value) : Members → Option Members
  | [] => (f none).map fun value => [(name, value)]
  | (other, value) :: rest =>
    if other = name then (f (some value)).map fun value => (name, value) :: rest
    else (alter? name f rest).map ((other, value) :: ·)

/-- Adds a member; refuses a name that is taken. -/
def add? (name : String) (value : Value) : Members → Option Members :=
  alter? name fun
    | none => some value
    | some _ => none

/-- Changes the members of the table that a path of headers leads to. Tables
that are missing on the way are made; of an array of tables the path takes the
last row. -/
def atHeader? (f : Members → Option Members) : List String → Members → Option Members
  | [] => f
  | name :: path => alter? name fun
    | none => (atHeader? f path []).map (.table .implicit)
    | some (.table .inline _) => none
    | some (.table kind inner) => (atHeader? f path inner).map (.table kind)
    | some (.rows (row :: earlier)) => (atHeader? f path row).map fun row => .rows (row :: earlier)
    | some _ => none

/-- Puts a value behind a dotted key. The key may pass through tables that
headers only named in passing, but it ends in a table that dotted keys made,
unless it is a single name. -/
def assign? (name : String) (value : Value) : List String → Members → Option Members
  | [] => add? name value
  | step :: path => alter? step fun
    | none => (assign? name value path []).map (.table .dotted)
    | some (.table .dotted inner) => (assign? name value path inner).map (.table .dotted)
    | some (.table .implicit inner) =>
      if path.isEmpty then none else (assign? name value path inner).map (.table .implicit)
    | some (.rows (row :: earlier)) =>
      if path.isEmpty then none
      else (assign? name value path row).map fun row => .rows (row :: earlier)
    | some _ => none

/-- Opens the table of a header. It may have been named in passing before, but
not written. -/
def openTable? (name : String) : Members → Option Members :=
  alter? name fun
    | none => some (.table .header [])
    | some (.table .implicit inner) => some (.table .header inner)
    | some _ => none

/-- Adds a row to the array of tables of a header. -/
def openRow? (name : String) : Members → Option Members :=
  alter? name fun
    | none => some (.rows [[]])
    | some (.rows tables) => some (.rows ([] :: tables))
    | some _ => none

end CelWatch.Toml.Members
