import KeywordSuite.CommandLine.Run
import KeywordSuite.Rehearsal.Basic

/-! # Rehearsed runs

A run from the command line that works with the stand-ins of a rehearsal.
-/

namespace KeywordSuite

namespace Stage

def equipment : Equipment Rehearsal where
  engine := engine
  mailServer := mailServer
  platform := platform
  sleep := sleep
  document := documentPlace
  shelf := shelfPlace
  html := htmlPlace
  reporter := reporterPlace 0
  fleet := fleetPlace

/-- What a rehearsed run came to, and what it left. -/
def rehearse (environment : Entries String) (o : CommandOptions) (h : Stage) :
    Except Fault Conclusion × World Stage :=
  (o.run equipment [] environment).run ⟨.empty, h⟩

end Stage

end KeywordSuite
