import KeywordSuite.Browser.Flavor
import KeywordSuite.Host.Basic
import KeywordSuite.Log.Lines
import KeywordSuite.Session.Registry

/-! # Automated browser sessions

A session holds an automation engine, a browser, a context and a page, which are opened in this
order and closed in the other. What it asks of the engine is data, so that any engine will do.
-/

namespace KeywordSuite

inductive EngineCall
  | start
  | launch (engine : String) (options : Entries Value)
  | newContext (options : Entries Value)
  | setTimeout (milliseconds : Int)
  | setNavigationTimeout (milliseconds : Int)
  | newPage
  | goto (url : String)
  | title
  | url
  | click (selector : String)
  | fill (selector text : String)
  | isVisible (selector : String)
  | isEnabled (selector : String)
  | isChecked (selector : String)
  | waitFor (selector state : String)
  | screenshot (path : String)
  | closePage
  | closeContext
  | closeBrowser
  | stop

namespace EngineCall

abbrev Reply : EngineCall → Type
  | .title | .url => String
  | .isVisible _ | .isEnabled _ | .isChecked _ => Bool
  | _ => Unit

def name : EngineCall → String
  | .start => "start"
  | .launch .. => "launch"
  | .newContext _ => "new_context"
  | .setTimeout _ => "set_default_timeout"
  | .setNavigationTimeout _ => "set_default_navigation_timeout"
  | .newPage => "new_page"
  | .goto _ => "goto"
  | .title => "title"
  | .url => "url"
  | .click _ => "click"
  | .fill .. => "fill"
  | .isVisible _ => "is_visible"
  | .isEnabled _ => "is_enabled"
  | .isChecked _ => "is_checked"
  | .waitFor .. => "wait_for"
  | .screenshot _ => "screenshot"
  | .closePage => "page.close"
  | .closeContext => "context.close"
  | .closeBrowser => "browser.close"
  | .stop => "stop"

def arguments : EngineCall → List Value
  | .launch engine options => [.text engine, .dict options]
  | .newContext options => [.dict options]
  | .setTimeout ms | .setNavigationTimeout ms => [.int ms]
  | .goto address => [.text address, .dict [("wait_until", .text "load")]]
  | .click selector | .isVisible selector | .isEnabled selector | .isChecked selector =>
    [.text selector]
  | .fill selector text => [.text selector, .text text]
  | .waitFor selector state => [.text selector, .dict [("state", .text state)]]
  | .screenshot path => [.dict [("path", .text path), ("full_page", .bool false)]]
  | .start | .newPage | .title | .url | .closePage | .closeContext | .closeBrowser | .stop => []

end EngineCall

namespace SessionConfig

/-- Only Chromium is started maximized, and only where it has a window. -/
def maximized (c : SessionConfig) : Bool :=
  c.maximizeWindow && !c.headless && (BrowserFlavor.resolve c.browser).engine == "chromium"

def launchOptions (c : SessionConfig) : Entries Value :=
  [("headless", .bool c.headless)]
  ++ (match (BrowserFlavor.resolve c.browser).channel? with
    | some channel => [("channel", .text channel)]
    | none => [])
  ++ (if c.maximized then [("args", .list [.text "--start-maximized"])] else [])

/-- A maximized window gives the viewport; otherwise the configuration does. -/
def contextOptions (c : SessionConfig) : Entries Value :=
  if c.maximized then [("no_viewport", .bool true)]
  else [("viewport", .dict [("width", .int c.viewportWidth), ("height", .int c.viewportHeight)])]

end SessionConfig

structure SessionParts where
  engine : Bool := false
  browser : Bool := false
  context : Bool := false
  page : Bool := false
  deriving DecidableEq, Repr, Inhabited

/-- The parts of one session beside the host. -/
structure Piloted (ε : Type) where
  parts : SessionParts
  host : Host ε

abbrev Engine (ε : Type) := (call : EngineCall) → Act (Host ε) call.Reply

namespace Piloted

variable {ε α : Type} (engine : Engine ε)

def onHost (act : Act (Host ε) α) : Act (Piloted ε) α :=
  Act.zoom Piloted.host (fun host p => { p with host }) act

def call (c : EngineCall) : Act (Piloted ε) c.Reply := onHost (engine c)

def note (level : LogLevel) (message : String) : Act (Piloted ε) Unit :=
  onHost (Host.logging level message)

def change (f : SessionParts → SessionParts) : Act (Piloted ε) Unit :=
  modify fun p => { p with parts := f p.parts }

def noteAll : List (LogLevel × String) → Act (Piloted ε) Unit
  | [] => return ()
  | (level, message) :: rest => do
    note level message
    noteAll rest

/-- Opens engine, browser, context and page under the policy of a configuration. -/
def start (c : SessionConfig) : Act (Piloted ε) Unit := do
  noteAll (BrowserFlavor.resolveLines c.browser)
  let flavor := BrowserFlavor.resolve c.browser
  call engine .start
  change fun parts => { parts with engine := true }
  note .info ("Starting " ++ flavor.label ++ " browser")
  call engine (.launch flavor.engine c.launchOptions)
  change fun parts => { parts with browser := true }
  call engine (.newContext c.contextOptions)
  change fun parts => { parts with context := true }
  call engine (.setTimeout (c.implicitWaitSeconds * 1000))
  call engine (.setNavigationTimeout (c.pageLoadTimeoutSeconds * 1000))
  call engine .newPage
  change fun parts => { parts with page := true }

def onPage (c : EngineCall) : Act (Piloted ε) c.Reply := do
  if (← get).parts.page then call engine c
  else throw (.plain .runtime "Browser not started. Call start() first.")

def navigate (url : String) : Act (Piloted ε) Unit := do
  note .info "Navigating to URL"
  let start := (← get).host.elapsed
  onPage engine (.goto url)
  let elapsed := ((← get).host.elapsed - start) * 1000.0
  note .debug (measurementLine "page_navigation" (floatText elapsed) "ms")

def waitableStates : List String := ["visible", "hidden", "attached", "detached"]

def waitForState (selector state : String) : Act (Piloted ε) Unit :=
  if waitableStates.contains state then onPage engine (.waitFor selector state)
  else throw (.plain .value ("Unsupported element state: " ++ state))

def saveScreenshot (path : String) : Act (Piloted ε) Unit := do
  onHost (Host.makePath (FilePath.ofText path).parent)
  onPage engine (.screenshot (FilePath.ofText path).text)

def closePart (isOpen : Bool) (label : String) (c : EngineCall) : Act (Piloted ε) (List String) := do
  if isOpen then
    match ← (call engine c).attempt with
    | .ok _ => return []
    | .error fault => return [label ++ ": " ++ fault.message]
  else return []

/-- Closes everything that is open; what went wrong is told at the end. -/
def quit : Act (Piloted ε) Unit := do
  let parts := (← get).parts
  let page ← closePart engine parts.page "page" .closePage
  let context ← closePart engine parts.context "context" .closeContext
  let browser ← closePart engine parts.browser "browser" .closeBrowser
  change fun parts => { engine := parts.engine }
  let stop ← closePart engine parts.engine "playwright" .stop
  change fun _ => {}
  match page ++ context ++ browser ++ stop with
  | [] => note .info "Browser stopped"
  | faults =>
    throw (.plain .runtime ("Browser teardown incomplete: " ++ "; ".intercalate faults))

/-- Starts a session; if that fails, whatever part of it did start is closed. -/
def create (c : SessionConfig) : Act (Piloted ε) Unit := do
  match ← (start engine c).attempt with
  | .ok _ => return ()
  | .error fault =>
    if let .error other ← (quit engine).attempt then
      note .debug ("Cleanup after failed start also failed: " ++ other.message)
    throw fault

def serve : (c : SessionCall) → Act (Piloted ε) c.Reply
  | .navigate url => navigate engine url
  | .click selector => onPage engine (.click selector)
  | .fill selector text => onPage engine (.fill selector text)
  | .isEnabled selector => onPage engine (.isEnabled selector)
  | .isChecked selector => onPage engine (.isChecked selector)
  | .waitForState selector state => waitForState engine selector state
  | .title => onPage engine .title
  | .saveScreenshot path => saveScreenshot engine path
  | .quit => quit engine

end Piloted

abbrev SessionFleet := List (SessionId × SessionParts)

namespace SessionFleet

variable {ε α : Type}

/-- Acts on the session of a number; its parts are kept whatever happens. -/
def pilot (kept : Place ε SessionFleet) (session : SessionId) (act : Act (Piloted ε) α) :
    Act (Host ε) α :=
  Act.make fun h =>
    let parts := (List.lookup session (kept.get h.outer)).getD {}
    let (r, p) := act.run ⟨parts, h⟩
    let fleet := (session, p.parts) :: (kept.get p.host.outer).filter fun entry => entry.1 ≠ session
    (r, { p.host with outer := kept.set fleet p.host.outer })

def backend (engine : Engine ε) (kept : Place ε SessionFleet) (defaultConfig : SessionConfig) :
    SessionBackend (Host ε) where
  log level message h := h.note level message
  create session config := pilot kept session do
    Piloted.change fun _ => {}
    Piloted.create engine config
  browse session call := pilot kept session (Piloted.serve engine call)
  defaultConfig := defaultConfig

end SessionFleet

end KeywordSuite
