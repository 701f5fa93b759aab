import KeywordSuite.Number.Layout

/-! # Markup with inserted text

A page is a list of segments: markup, which is written as it stands, and inserted text, which is
escaped. No inserted text can end the markup it stands in.
-/

namespace KeywordSuite

inductive Segment
  | markup (s : String)
  | inserted (s : String)
  deriving DecidableEq, Repr

abbrev Page := List Segment

namespace Markup

def escapeChar : Char → List Char
  | '&' => "&amp;".toList
  | '<' => "&lt;".toList
  | '>' => "&gt;".toList
  | '"' => "&#34;".toList
  | '\'' => "&#39;".toList
  | c => [c]

def escape (s : String) : String := String.ofList (s.toList.flatMap escapeChar)

def renderSegment : Segment → String
  | .markup s => s
  | .inserted s => escape s

def render (page : Page) : String := String.join (page.map renderSegment)

def number (n : Int) : Segment := .inserted (toString n)

end Markup

end KeywordSuite
