import CelWatch.Settings.Basic
import CelWatch.Typing.Environment
import CelWatch.Warning

/-!
The environment that settings ask for. Settings that say nothing of it get all
extensions. An entry that cannot be used is left out with a warning, and the
others count.
-/

namespace CelWatch.Settings

/-- What a name in the settings adds; `none` when it names no extension. -/
def extension? (name : String) : Option (Environment → Environment) :=
  match name with
  | "all" => some Environment.extendAll
  | "strings" => some (·.extend .strings)
  | "string" => some (·.extend .strings)
  | "math" => some (·.extend .math)
  | "encoders" => some (·.extend .encoders)
  | "encoder" => some (·.extend .encoders)
  | "optionals" => some (·.extend .optionals)
  | "optional" => some (·.extend .optionals)
  | _ => none

/-- Adds what a name in the settings stands for. -/
def addExtension (built : Environment × List Warning) (name : String) :
    Environment × List Warning :=
  match extension? name with
  | some extend => (extend built.1, built.2)
  | none => (built.1, built.2 ++ [.unknownExtension name])

/-- Declares a variable by the text of its type. -/
def addVariable (built : Environment × List Warning) (entry : String × String) :
    Environment × List Warning :=
  match TypeText.ofString entry.2 with
  | .ok ty => (built.1.declare entry.1 ty, built.2)
  | .error cause => (built.1, built.2 ++ [.badVariable entry.1 cause])

/-- The environment with the warnings about what was left out. -/
def environmentWithWarnings (settings : Settings) : Environment × List Warning :=
  match settings.environment with
  | none => (.full, [])
  | some given =>
    let extended := (given.extensions.getD []).foldl addExtension (.standard, [])
    let built := (given.variableTypes.getD []).foldl addVariable extended
    ({ built.1 with container := given.container.getD "" }, built.2)

end CelWatch.Settings
