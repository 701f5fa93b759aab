import KeywordSuite.Proofs.Session.Journal
import KeywordSuite.Proofs.Suite.Agreement

/-!
# Recording changes nothing

A suite whose sessions are recorded has the same outcome as one whose sessions are not, and leaves
the same world but for the journal.
-/

namespace KeywordSuite

variable {ω α : Type}

def World.plain (w : World (Recorded ω)) : World ω := ⟨w.sessions, w.outer.outer⟩

/-- Beside a journal, the same state. -/
def Recorded.Beside (x : Recorded ω) (outer : ω) : Prop := x.outer = outer

theorem agree_noting (events : Except Fault α → List SessionEvent) (act : Act ω α) :
    Act.Agree Recorded.Beside (Recorded.noting events act) act := by
  rintro x _ rfl
  exact ⟨rfl, rfl⟩

theorem agree_lift (act : Act ω α) : Act.Agree Recorded.Beside (Recorded.lift act) act := by
  rintro x _ rfl
  exact ⟨rfl, rfl⟩

theorem agree_recordedCapture (device : CaptureDevice ω) :
    CaptureDevice.Agree Recorded.Beside device.recorded device := by
  cases device with
  | absent => exact .absent
  | screenshots directory => exact .screenshots directory
  | other onDemand onFailure => exact .other (fun _ _ => agree_lift _) fun _ _ _ _ => agree_lift _

theorem recorded_agrees (s : Surroundings ω) : s.recorded.AgreeFully Recorded.Beside s where
  log level message := by rintro x _ rfl; rfl
  create n config := agree_noting _ _
  browse n call := agree_noting _ _
  defaultConfig := rfl
  closeFault := rfl
  now := by rintro x _ rfl; rfl
  localNow := by rintro x _ rfl; rfl
  stopwatch := by rintro x _ rfl; rfl
  sleep _ := agree_lift _
  listActive := agree_lift _
  loadInput _ := agree_lift _
  loadKeywords _ := agree_lift _
  capture := agree_recordedCapture s.capture
  outside _ _ := agree_lift _
  report call := by
    have device : s.recorded.report = s.report.map fun tell call => Recorded.lift (tell call) := rfl
    unfold Surroundings.tellReport
    rw [device]
    cases s.report with
    | none => exact Act.agree_pure none
    | some tell => exact (agree_lift _).zoom
  inform listener news := by
    have device : s.recorded.listeners =
        s.listeners.map fun l => ⟨l.name, fun news => Recorded.lift (l.tell news)⟩ := rfl
    unfold Surroundings.inform
    rw [device, List.getElem?_map]
    cases s.listeners[listener]? with
    | none => exact Act.agree_pure ()
    | some l => exact (agree_lift _).zoom

/-- A recorded suite ends as it does without the journal. -/
theorem runSuite_recorded (s : Surroundings ω) (plan : SuitePlan) (schedule : List Nat) (w : World (Recorded ω)) :
    s.runSuite plan schedule w.plain =
      ((s.recorded.runSuite plan schedule w).1, (s.recorded.runSuite plan schedule w).2.plain) := by
  have beside : World.Related Recorded.Beside w w.plain := ⟨rfl, rfl⟩
  obtain ⟨outcome, related⟩ := (recorded_agrees s).runSuite plan schedule beside
  exact Prod.ext outcome.symm (World.eq_of_related related)

end KeywordSuite
