/-!
TOML values. A table keeps how it came to be, because that decides what a later
line may add to it.
-/

namespace CelWatch.Toml

/-- How a table came to be. -/
inductive TableKind where
  /-- Only named on the way to another table by a header. -/
  | implicit
  /-- Made by a dotted key. -/
  | dotted
  /-- Named by a header of its own. -/
  | header
  /-- Written between braces, and closed with them. -/
  | inline
deriving DecidableEq, Repr

inductive Value where
  | string (value : String)
  | integer (value : Int)
  /-- A number with a fraction or an exponent, or none at all, as written. -/
  | float (written : String)
  | boolean (value : Bool)
  /-- A date, a time or both, in standard form. -/
  | datetime (standard : String)
  | array (items : List Value)
  | table (kind : TableKind) (members : List (String × Value))
  /-- The rows of an array of tables, the last one first. -/
  | rows (tables : List (List (String × Value)))
deriving Repr, Inhabited

/-- The members of a table. No two have one name. -/
abbrev Members := List (String × Value)

/-- The value of a member. -/
def Members.get? (members : Members) (name : String) : Option Value :=
  (members.find? fun member => member.1 == name).map Prod.snd

end CelWatch.Toml
