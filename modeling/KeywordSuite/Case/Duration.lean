import KeywordSuite.Fault.Basic

/-! # Durations as the summary shows them -/

namespace KeywordSuite

def wholeDurationText (seconds : Int) : String :=
  if seconds < 60 then toString seconds ++ " seconds"
  else if seconds < 3600 then
    toString (seconds / 60) ++ " minutes " ++ toString (seconds % 60) ++ " seconds"
  else toString (seconds / 3600) ++ " hours " ++ toString (seconds % 3600 / 60) ++ " minutes"

/-- Fractions of a second are dropped; a duration without end has no text. -/
def durationText (seconds : Float) : Except Fault String :=
  match DoubleClass.ofFloat seconds with
  | .nan => .error (.plain .value "cannot convert float NaN to integer")
  | .infinite _ => .error (.plain .overflow "cannot convert float infinity to integer")
  | .finite negative size =>
    let whole : Int := size.ratio.num / size.ratio.den
    .ok (wholeDurationText (if negative then -whole else whole))

end KeywordSuite
