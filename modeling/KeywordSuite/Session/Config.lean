import KeywordSuite.Fault.Checked

/-! # Configuration of a browser session -/

namespace KeywordSuite

structure SessionConfig where
  browser : String := "chrome"
  headless : Bool := false
  maximizeWindow : Bool := true
  implicitWaitSeconds : Int := 10
  pageLoadTimeoutSeconds : Int := 60
  viewportWidth : Int := 1920
  viewportHeight : Int := 1080
  deriving DecidableEq, Repr, Inhabited

def SessionConfig.model : String := "SessionConfig"

def SessionConfig.read (data : Entries Value) : Checked SessionConfig :=
  SessionConfig.mk
    <$> field data "browser" (some "chrome") Read.text
    <*> field data "headless" (some false) Read.bool
    <*> field data "maximize_window" (some true) Read.bool
    <*> field data "implicit_wait_seconds" (some 10) (Read.intAtLeast 0)
    <*> field data "page_load_timeout_seconds" (some 60) (Read.intAtLeast 1)
    <*> field data "viewport_width" (some 1920) (Read.intAtLeast 1)
    <*> field data "viewport_height" (some 1080) (Read.intAtLeast 1)

def SessionConfig.toEntries (c : SessionConfig) : Entries Value := [
  ("browser", .text c.browser),
  ("headless", .bool c.headless),
  ("maximize_window", .bool c.maximizeWindow),
  ("implicit_wait_seconds", .int c.implicitWaitSeconds),
  ("page_load_timeout_seconds", .int c.pageLoadTimeoutSeconds),
  ("viewport_width", .int c.viewportWidth),
  ("viewport_height", .int c.viewportHeight)]

inductive BrowserFlavor
  | chrome
  | firefox
  | edge
  | safari
  deriving DecidableEq, Repr

def BrowserFlavor.label : BrowserFlavor → String
  | .chrome => "chrome"
  | .firefox => "firefox"
  | .edge => "edge"
  | .safari => "safari"

def BrowserFlavor.all : List BrowserFlavor := [.chrome, .firefox, .edge, .safari]

end KeywordSuite
