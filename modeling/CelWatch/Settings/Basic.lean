import CelWatch.Document.Identity

/-!
Settings: what a settings file can say. What it does not say has a default.
-/

namespace CelWatch

/-- What settings say about the scheduler. -/
structure SchedulerSettings where
  /-- Milliseconds without an edit before a document is parsed. -/
  debounce : Option Nat
deriving DecidableEq, Repr, Inhabited

/-- What settings say about the documents that are parsed. -/
structure DocumentSettings where
  sources : Option (List String)
  templates : Option (List String)
deriving DecidableEq, Repr, Inhabited

/-- What settings say about the names that expressions can use. -/
structure EnvironmentSettings where
  container : Option String
  extensions : Option (List String)
  /-- Names with the texts of their types; no name is given twice. -/
  variableTypes : Option (List (String × String))
deriving DecidableEq, Repr, Inhabited

structure Settings where
  scheduler : Option SchedulerSettings
  documents : Option DocumentSettings
  environment : Option EnvironmentSettings
deriving DecidableEq, Repr, Inhabited

/-- How a scheduler works. -/
structure SchedulerConfig where
  /-- Milliseconds without an edit before a document is parsed. -/
  debounce : Nat
  allowList : AllowList
deriving DecidableEq, Repr, Inhabited

/-- Milliseconds without an edit, where settings do not say it. -/
def defaultDebounce : Nat := 300

namespace Settings

/-- The settings that say nothing. -/
def default : Settings := ⟨none, none, none⟩

/-- The scheduler that the settings ask for. -/
def schedulerConfig (settings : Settings) : SchedulerConfig where
  debounce := (settings.scheduler.bind (·.debounce)).getD defaultDebounce
  allowList := .ofExtensions
    ((settings.documents.bind (·.sources)).getD AllowList.standard.sources)
    ((settings.documents.bind (·.templates)).getD AllowList.standard.templates)

end Settings

end CelWatch
