import CelWatch.Settings.TypeText
import CelWatch.Uri.Basic

/-!
What the program tells its log when it goes on in spite of something.
-/

namespace CelWatch

inductive Warning where
  | unknownExtension (name : String)
  | badVariable (name : String) (cause : TypeText.TypeError)
  | unreadableSettings (path : FilePath)
  | badSettings (path : FilePath)
  /-- Why the parse of a document at a version failed. -/
  | parseFailure (uri : Uri) (version : Int) (detail : String)
  | beforeInitialize
deriving DecidableEq, Repr

def Warning.message : Warning → String
  | .unknownExtension _ => "ignoring unknown extension"
  | .badVariable _ cause => "skipping variable with bad type: " ++ cause.message
  | .unreadableSettings path => "failed to read " ++ path.display
  | .badSettings path => "failed to parse " ++ path.display
  | .parseFailure _ _ _ => "unexpected failure while parsing document"
  | .beforeInitialize => "document event before initialize; ignoring"

end CelWatch
