import KeywordSuite.Proofs.Keyword.Dispatch
import KeywordSuite.Proofs.Case.Stages
import KeywordSuite.Proofs.Suite.Agreement

/-!
# Surroundings in which everything told is overheard

Every call on the report and all news for a listener are noted before they reach it, whatever it then
does. What is noted changes nothing, and only telling is noted.
-/

namespace KeywordSuite

inductive Telling
  | report (call : ReportCall)
  | news (listener : Nat) (news : SuiteNews)

def Telling.isNews : Telling → Bool
  | .report _ => false
  | .news .. => true

structure Overheard (ω : Type) where
  outer : ω
  /-- What was told, in order. -/
  heard : List Telling

namespace Overheard

variable {ω α : Type}

def lift (act : Act ω α) : Act (Overheard ω) α :=
  Act.zoom Overheard.outer (fun outer x => { x with outer }) act

/-- Notes that something is told, and tells it. -/
def noting (telling : Telling) (act : Act ω α) : Act (Overheard ω) α :=
  Act.make fun x =>
    let (r, outer) := act.run x.outer
    (r, ⟨outer, x.heard ++ [telling]⟩)

end Overheard

variable {ω α : Type}

def CaptureDevice.overheard : CaptureDevice ω → CaptureDevice (Overheard ω)
  | .absent => .absent
  | .screenshots directory => .screenshots directory
  | .other onDemand onFailure => .other (fun label unit => Overheard.lift (onDemand label unit))
      fun testId testName reason unit => Overheard.lift (onFailure testId testName reason unit)

def Listener.overheard (n : Nat) (l : Listener ω) : Listener (Overheard ω) :=
  ⟨l.name, fun news => Overheard.noting (.news n news) (l.tell news)⟩

namespace Surroundings

/-- The same surroundings, where what is told is noted. -/
def overheard (s : Surroundings ω) : Surroundings (Overheard ω) where
  log level message x := { x with outer := s.log level message x.outer }
  create session config := Overheard.lift (s.create session config)
  browse session call := Overheard.lift (s.browse session call)
  defaultConfig := s.defaultConfig
  closeFault := s.closeFault
  now x := s.now x.outer
  localNow x := s.localNow x.outer
  stopwatch x := s.stopwatch x.outer
  sleep seconds := Overheard.lift (s.sleep seconds)
  source := ⟨Overheard.lift s.source.listActive, fun testId => Overheard.lift (s.source.loadInput testId),
    fun testId => Overheard.lift (s.source.loadKeywords testId)⟩
  report := s.report.map fun tell call => Overheard.noting (.report call) (tell call)
  capture := s.capture.overheard
  listeners := s.listeners.mapIdx Listener.overheard
  outside action arguments := Overheard.lift (s.outside action arguments)

/-- What of a script is heard: without a report nothing is told to it. -/
def heard (s : Surroundings ω) (script : List Telling) : List Telling :=
  script.filter fun t => s.report.isSome || t.isNews

variable (s : Surroundings ω)

theorem heard_append (first second : List Telling) : s.heard (first ++ second) = s.heard first ++ s.heard second :=
  List.filter_append ..

theorem heard_news (n : Nat) (news : SuiteNews) : s.heard [.news n news] = [.news n news] := by
  simp [heard, Telling.isNews]

end Surroundings

/-! ## Overhearing changes nothing -/

/-- Beside what was heard, the same state. -/
def Overheard.Beside (x : Overheard ω) (outer : ω) : Prop := x.outer = outer

theorem agree_overheard (act : Act ω α) : Act.Agree Overheard.Beside (Overheard.lift act) act := by
  rintro x _ rfl
  exact ⟨rfl, rfl⟩

theorem agree_telling (telling : Telling) (act : Act ω α) :
    Act.Agree Overheard.Beside (Overheard.noting telling act) act := by
  rintro x _ rfl
  exact ⟨rfl, rfl⟩

theorem agree_overheardCapture (device : CaptureDevice ω) :
    CaptureDevice.Agree Overheard.Beside device.overheard device := by
  cases device with
  | absent => exact .absent
  | screenshots directory => exact .screenshots directory
  | other onDemand onFailure => exact .other (fun _ _ => agree_overheard _) fun _ _ _ _ => agree_overheard _

theorem overheard_agrees (s : Surroundings ω) : s.overheard.AgreeFully Overheard.Beside s where
  log level message := by rintro x _ rfl; rfl
  create _ _ := agree_overheard _
  browse _ _ := agree_overheard _
  defaultConfig := rfl
  closeFault := rfl
  now := by rintro x _ rfl; rfl
  localNow := by rintro x _ rfl; rfl
  stopwatch := by rintro x _ rfl; rfl
  sleep _ := agree_overheard _
  listActive := agree_overheard _
  loadInput _ := agree_overheard _
  loadKeywords _ := agree_overheard _
  capture := agree_overheardCapture s.capture
  outside _ _ := agree_overheard _
  report call := by
    have device : s.overheard.report =
        s.report.map fun tell call => Overheard.noting (.report call) (tell call) := rfl
    unfold Surroundings.tellReport
    rw [device]
    cases s.report with
    | none => exact Act.agree_pure none
    | some tell => exact (agree_telling _ _).zoom
  inform listener news := by
    have device : s.overheard.listeners = s.listeners.mapIdx Listener.overheard := rfl
    unfold Surroundings.inform
    rw [device, List.getElem?_mapIdx]
    cases s.listeners[listener]? with
    | none => exact Act.agree_pure ()
    | some l => exact (agree_telling _ _).zoom

/-! ## What is heard of an operation -/

section

variable {s : Surroundings ω}

/-- The same state, with this heard. -/
def Overheard.Hears (heard : List Telling) (x y : Overheard ω) : Prop := x = y ∧ x.heard = heard

theorem hears_lift (heard : List Telling) (act : Act ω α) :
    Act.Agree (Overheard.Hears heard) (Overheard.lift act) (Overheard.lift act) := by
  rintro x _ ⟨rfl, hx⟩
  exact ⟨rfl, rfl, hx⟩

theorem hears_capture (heard : List Telling) (device : CaptureDevice ω) :
    CaptureDevice.Agree (Overheard.Hears heard) device.overheard device.overheard := by
  cases device with
  | absent => exact .absent
  | screenshots directory => exact .screenshots directory
  | other onDemand onFailure => exact .other (fun _ _ => hears_lift _ _) fun _ _ _ _ => hears_lift _ _

theorem hears_silence (s : Surroundings ω) (heard : List Telling) :
    s.overheard.Agree (Overheard.Hears heard) s.overheard where
  log level message := by rintro x _ ⟨rfl, hx⟩; exact ⟨rfl, hx⟩
  create _ _ := hears_lift _ _
  browse _ _ := hears_lift _ _
  defaultConfig := rfl
  closeFault := rfl
  now := by rintro x _ ⟨rfl, -⟩; rfl
  localNow := by rintro x _ ⟨rfl, -⟩; rfl
  stopwatch := by rintro x _ ⟨rfl, -⟩; rfl
  sleep _ := hears_lift _ _
  listActive := hears_lift _ _
  loadInput _ := hears_lift _ _
  loadKeywords _ := hears_lift _ _
  capture := hears_capture heard s.capture
  outside _ _ := hears_lift _ _

/-- An operation that tells nothing is not heard. -/
theorem heard_silent (op : SharedOp) (silent : op.isTelling = false) (w : World (Overheard ω)) :
    ((s.overheard.handle op).run w).2.outer.heard = w.outer.heard :=
  ((hears_silence s w.outer.heard).handle silent w w ⟨rfl, rfl, rfl⟩).2.2.2

theorem heard_report (call : ReportCall) (w : World (Overheard ω)) :
    ((s.overheard.handle (.report call)).run w).2.outer.heard = w.outer.heard ++ s.heard [.report call] := by
  have device : s.overheard.report =
      s.report.map fun tell call => Overheard.noting (.report call) (tell call) := rfl
  have handled : s.overheard.handle (.report call) = s.overheard.tellReport call := rfl
  rw [handled]
  unfold Surroundings.tellReport Surroundings.heard
  rw [device]
  cases s.report with
  | none => exact (List.append_nil _).symm
  | some tell => rfl

theorem heard_inform {n : Nat} (hn : n < s.listeners.length) (news : SuiteNews) (w : World (Overheard ω)) :
    ((s.overheard.handle (.inform n news)).run w).2.outer.heard = w.outer.heard ++ [.news n news] := by
  have device : s.overheard.listeners = s.listeners.mapIdx Listener.overheard := rfl
  have handled : s.overheard.handle (.inform n news) = s.overheard.inform n news := rfl
  rw [handled]
  unfold Surroundings.inform
  rw [device, List.getElem?_mapIdx, List.getElem?_eq_getElem hn]
  rfl

end

end KeywordSuite
