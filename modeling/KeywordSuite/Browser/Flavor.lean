import KeywordSuite.Log.Level
import KeywordSuite.Session.Config
import KeywordSuite.Text.Lower

/-! # Flavors and engines of browsers -/

namespace KeywordSuite

namespace BrowserFlavor

/-- The flavor of a name, without regard to case or blanks around it. -/
def ofName? (name : String) : Option BrowserFlavor :=
  all.find? fun flavor => flavor.label == Text.lower (Text.strip name)

def resolve (name : String) : BrowserFlavor := (ofName? name).getD .chrome

def resolveLines (name : String) : List (LogLevel × String) :=
  if (ofName? name).isSome then []
  else [(.warning, "Unsupported browser '" ++ name ++ "'. Defaulting to Chrome.")]

def engine : BrowserFlavor → String
  | .chrome | .edge => "chromium"
  | .firefox => "firefox"
  | .safari => "webkit"

/-- The release channel of a flavor's engine, where it is not the engine's own. -/
def channel? : BrowserFlavor → Option String
  | .edge => some "msedge"
  | _ => none

end BrowserFlavor

end KeywordSuite
