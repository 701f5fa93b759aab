import KeywordSuite.Text.Range

/-! # Blank characters

What counts as space around a text: the spaces and line separators of every script, and the ASCII
separators 1C to 1F.
-/

namespace KeywordSuite

namespace Text

def blankRanges : CodeRanges := [
    (0x9, 0xd), (0x1c, 0x20), (0x85, 0x85), (0xa0, 0xa0), (0x1680, 0x1680),
    (0x2000, 0x200a), (0x2028, 0x2029), (0x202f, 0x202f), (0x205f, 0x205f), (0x3000, 0x3000)]

def isBlank (c : Char) : Bool := blankRanges.has c.toNat

/-- A list without the elements at both ends that satisfy `p`. -/
def trimEnds (p : Char → Bool) (cs : List Char) : List Char :=
  ((cs.dropWhile p).reverse.dropWhile p).reverse

def stripChars (cs : List Char) : List Char := trimEnds isBlank cs

def strip (s : String) : String := String.ofList (stripChars s.toList)

def isBlankText (s : String) : Bool := s.toList.all isBlank

end Text

end KeywordSuite
