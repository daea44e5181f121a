import CelWatch.Settings.Environment

/-!
What the variables of the settings make of an environment. Each entry either
declares its name or is refused with a warning, whatever the other entries are:
the environment takes the declarations in their order, and the refusals become
the warnings.
-/

namespace CelWatch

/-- Gives names their types, one after the other. -/
def Environment.declareAll (environment : Environment) (entries : List (String × Ty)) :
    Environment :=
  entries.foldl (fun built entry => built.declare entry.1 entry.2) environment

namespace Settings

/-- What an entry declares, when its text is that of a type. -/
def declared? (entry : String × String) : Option (String × Ty) :=
  match TypeText.ofString entry.2 with
  | .ok ty => some (entry.1, ty)
  | .error _ => none

/-- The warning about an entry that declares nothing. -/
def refused? (entry : String × String) : Option Warning :=
  match TypeText.ofString entry.2 with
  | .ok _ => none
  | .error cause => some (.badVariable entry.1 cause)

section Entries

variable {name text : String} {cause : TypeText.TypeError}

theorem declared?_of_error (h : TypeText.ofString text = .error cause) :
    declared? (name, text) = none := by
  rw [declared?, h]

theorem refused?_of_error (h : TypeText.ofString text = .error cause) :
    refused? (name, text) = some (.badVariable name cause) := by
  rw [refused?, h]

theorem foldl_addVariable (entries : List (String × String)) (built : Environment × List Warning) :
    entries.foldl addVariable built =
      (built.1.declareAll (entries.filterMap declared?), built.2 ++ entries.filterMap refused?) := by
  induction entries generalizing built with
  | nil => simp [Environment.declareAll]
  | cons entry rest ih =>
      rw [List.foldl_cons, ih]
      cases hread : TypeText.ofString entry.2 with
      | ok ty => simp [addVariable, declared?, refused?, hread, Environment.declareAll]
      | error cause => simp [addVariable, declared?, refused?, hread]

end Entries

/-- The settings with these variables. -/
def withVariables (settings : Settings) (given : EnvironmentSettings)
    (entries : List (String × String)) : Settings :=
  { settings with environment := some { given with variableTypes := some entries } }

/-- The entries count by what they declare and by why they are refused. -/
theorem environmentWithWarnings_withVariables (settings : Settings) (given : EnvironmentSettings)
    (entries : List (String × String)) :
    let extended := (given.extensions.getD []).foldl addExtension (.standard, [])
    (settings.withVariables given entries).environmentWithWarnings =
      ({ extended.1.declareAll (entries.filterMap declared?) with
          container := given.container.getD "" },
        extended.2 ++ entries.filterMap refused?) := by
  intro extended
  have hfold := foldl_addVariable entries extended
  simp only [environmentWithWarnings, withVariables, Option.getD_some]
  rw [hfold]

/-- An entry that is refused changes nothing but the warnings. -/
theorem environment_of_refused (settings : Settings) (given : EnvironmentSettings)
    {name text : String} {cause : TypeText.TypeError} (before after : List (String × String))
    (h : TypeText.ofString text = .error cause) :
    let built := (settings.withVariables given (before ++ (name, text) :: after)).environmentWithWarnings
    built.1 = (settings.withVariables given (before ++ after)).environmentWithWarnings.1 ∧
      .badVariable name cause ∈ built.2 := by
  intro built
  have hbuilt : built = _ := environmentWithWarnings_withVariables settings given _
  rw [hbuilt, environmentWithWarnings_withVariables]
  constructor
  · simp [declared?_of_error h]
  · simp [refused?_of_error h]

end Settings

end CelWatch
