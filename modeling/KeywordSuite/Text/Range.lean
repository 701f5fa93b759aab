/-! # Tables of code points

Properties of characters are tables of ascending ranges, and letter case is a table of runs.
-/

namespace KeywordSuite

namespace Text

/-- Inclusive ranges of code points in ascending order. -/
abbrev CodeRanges := List (Nat × Nat)

def CodeRanges.has : CodeRanges → Nat → Bool
  | [], _ => false
  | (first, last) :: rest, n =>
    if n < first then false else if n ≤ last then true else CodeRanges.has rest n

/-- Runs `(first, last, step, distance)` of letters whose image lies at one distance, ascending. -/
abbrev CaseRuns := List (Nat × Nat × Nat × Int)

def CaseRuns.image : CaseRuns → Nat → Nat
  | [], n => n
  | (first, last, step, distance) :: rest, n =>
    if n < first then n
    else if n ≤ last && (n - first) % step == 0 then (n + distance).toNat
    else CaseRuns.image rest n

end Text

end KeywordSuite
