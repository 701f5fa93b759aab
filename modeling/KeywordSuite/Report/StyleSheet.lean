/-! # Style sheets

A style sheet is a list of rules, each on one line or with a line for every declaration.
-/

namespace KeywordSuite

structure StyleRule where
  selector : String
  declarations : List String
  /-- Whether every declaration has a line of its own. -/
  spread : Bool

namespace StyleRule

def indent (width : Nat) : String := String.ofList (List.replicate width ' ')

def text (width : Nat) (r : StyleRule) : String :=
  let head := indent width ++ r.selector ++ " \x7b"
  if r.spread then
    head ++ "\n"
      ++ String.join (r.declarations.map fun d => indent (width + 4) ++ d ++ ";\n")
      ++ indent width ++ "\x7d\n"
  else head ++ String.join (r.declarations.map fun d => " " ++ d ++ ";") ++ " \x7d\n"

def sheetText (width : Nat) (rules : List StyleRule) : String := String.join (rules.map (text width))

end StyleRule

def reportStyle : List StyleRule := [
  ⟨"body",
    ["font-family: -apple-system, BlinkMacSystemFont, 'Segoe UI', Roboto, sans-serif",
      "margin: 0", "padding: 20px", "background: #f5f5f5", "line-height: 1.6"], true⟩,
  ⟨".container",
    ["max-width: 1400px", "margin: 0 auto", "background: white", "padding: 30px",
      "border-radius: 8px", "box-shadow: 0 2px 8px rgba(0,0,0,0.1)"], true⟩,
  ⟨"h1, h2, h3", ["color: #333"], false⟩,
  ⟨".report-info", ["color: #666", "margin-bottom: 20px"], false⟩,
  ⟨".summary",
    ["display: grid", "grid-template-columns: repeat(auto-fit, minmax(180px, 1fr))", "gap: 20px",
      "margin: 30px 0"], true⟩,
  ⟨".metric",
    ["background: #f9f9f9", "padding: 20px", "border-radius: 6px", "text-align: center"], true⟩,
  ⟨".metric-value", ["font-size: 2.2em", "font-weight: bold"], false⟩,
  ⟨".metric-label",
    ["color: #666", "font-size: 0.9em", "text-transform: uppercase",
      "letter-spacing: 1px"], true⟩,
  ⟨".passed", ["color: #4caf50"], false⟩,
  ⟨".failed", ["color: #f44336"], false⟩,
  ⟨".warning", ["color: #ff9800"], false⟩,
  ⟨".info", ["color: #2196f3"], false⟩,
  ⟨".running", ["color: #9e9e9e"], false⟩,
  ⟨"table", ["width: 100%", "border-collapse: collapse", "margin: 10px 0"], false⟩,
  ⟨"th, td", ["padding: 8px 12px", "text-align: left", "border-bottom: 1px solid #e0e0e0"], false⟩,
  ⟨"th", ["background: #f5f5f5", "font-weight: 600"], false⟩,
  ⟨".test-case",
    ["border: 1px solid #e0e0e0", "border-left: 6px solid #9e9e9e", "border-radius: 6px",
      "padding: 15px 20px", "margin: 20px 0"], true⟩,
  ⟨".test-case.passed", ["border-left-color: #4caf50"], false⟩,
  ⟨".test-case.failed", ["border-left-color: #f44336"], false⟩,
  ⟨".test-header", ["display: flex", "justify-content: space-between", "color: #333"], false⟩,
  ⟨".category",
    ["background: #e8eaf6", "padding: 2px 8px", "border-radius: 4px", "font-size: 0.85em"], true⟩,
  ⟨".details", ["font-family: monospace", "margin: 10px 0"], false⟩,
  ⟨".screenshot-container", ["margin: 10px 0"], false⟩,
  ⟨".screenshot-container img",
    ["max-width: 600px", "border: 1px solid #ddd", "border-radius: 4px"], false⟩,
  ⟨".footer",
    ["margin-top: 40px", "padding-top: 20px", "border-top: 1px solid #e0e0e0",
      "text-align: center", "color: #666", "font-size: 0.9em"], true⟩]

def mailStyle : List StyleRule := [
  ⟨"body", ["font-family: Arial, sans-serif", "margin: 20px"], false⟩,
  ⟨"table", ["border-collapse: collapse", "width: 100%", "margin: 20px 0"], false⟩,
  ⟨"th, td", ["border: 1px solid #ddd", "padding: 8px", "text-align: left"], false⟩,
  ⟨"th", ["background-color: #f2f2f2"], false⟩,
  ⟨".passed", ["color: green", "font-weight: bold"], false⟩,
  ⟨".failed", ["color: red", "font-weight: bold"], false⟩,
  ⟨".summary",
    ["background-color: #f9f9f9", "padding: 15px", "border-radius: 5px",
      "margin: 20px 0"], false⟩,
  ⟨".header",
    ["background-color: #e6f3ff", "padding: 15px", "border-radius: 5px",
      "margin: 20px 0"], false⟩]

end KeywordSuite
