import KeywordSuite.Session.Config

/-! # Calls on a browser session -/

namespace KeywordSuite

/-- Sessions are numbered from one in the order they are created. -/
abbrev SessionId := Nat

inductive SessionCall
  | navigate (url : String)
  | click (selector : String)
  | fill (selector text : String)
  | isEnabled (selector : String)
  | isChecked (selector : String)
  | waitForState (selector state : String)
  | title
  | saveScreenshot (path : String)
  | quit
  deriving DecidableEq, Repr

abbrev SessionCall.Reply : SessionCall → Type
  | .isEnabled _ | .isChecked _ => Bool
  | .title => String
  | .navigate _ | .click _ | .fill .. | .waitForState .. | .saveScreenshot _ | .quit => Unit

def SessionCall.method : SessionCall → String
  | .navigate _ => "navigate"
  | .click _ => "click"
  | .fill .. => "fill"
  | .isEnabled _ => "is_enabled"
  | .isChecked _ => "is_checked"
  | .waitForState .. => "wait_for_state"
  | .title => "title"
  | .saveScreenshot _ => "save_screenshot"
  | .quit => "quit"

def SessionCall.arguments : SessionCall → List String
  | .navigate url => [url]
  | .click selector | .isEnabled selector | .isChecked selector => [selector]
  | .fill selector text => [selector, text]
  | .waitForState selector state => [selector, state]
  | .saveScreenshot path => [path]
  | .title | .quit => []

end KeywordSuite
