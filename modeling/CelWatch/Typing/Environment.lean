import CelWatch.Typing.Extension

/-!
Environments: what the names of an expression mean.
-/

namespace CelWatch

structure Environment where
  /-- Where names that are not found as they are written are looked up. -/
  container : String
  /-- Variables by name; no two have one name. -/
  variableTypes : List (String × Ty)
  /-- Functions; of two with one name the first counts. -/
  functions : List Function
deriving DecidableEq, Repr

namespace Environment

/-- The standard names and no others. -/
def standard : Environment := ⟨"", Standard.variableTypes, Standard.functions⟩

/-- Adds the functions of an extension. -/
def extend (environment : Environment) (extension : Extension) : Environment :=
  { environment with functions := environment.functions ++ extension.functions }

/-- Gives a name a type, whatever it meant before. -/
def declare (environment : Environment) (name : String) (ty : Ty) : Environment :=
  { environment with
    variableTypes := (name, ty) :: environment.variableTypes.filter fun entry => entry.1 != name }

/-- Adds the functions of all extensions, and the type of optional values under
its own name, which no extension has by itself. -/
def extendAll (environment : Environment) : Environment :=
  (Extension.all.foldl extend environment).declare "optional_type" (.typeOf (.optional .dyn))

/-- The standard names with those of all extensions. -/
def full : Environment := standard.extendAll

def variableType? (environment : Environment) (name : String) : Option Ty :=
  environment.variableTypes.lookup name

def function? (environment : Environment) (name : String) : Option Function :=
  environment.functions.find? (·.name == name)

end Environment

end CelWatch
