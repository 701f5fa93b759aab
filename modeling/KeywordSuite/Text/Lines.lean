/-! # Line breaks -/

namespace KeywordSuite

namespace Text

def plainLines : List Char → List Char
  | '\r' :: '\n' :: rest => '\n' :: plainLines rest
  | '\r' :: rest => '\n' :: plainLines rest
  | c :: rest => c :: plainLines rest
  | [] => []

end Text

end KeywordSuite
