import KeywordSuite.Keyword.Browser
import KeywordSuite.Proofs.Actions
import KeywordSuite.Proofs.Protocol

/-!
# What the keywords that drive the browser are made of

A few parts, put together one after another or attempted, make up every keyword that drives the browser.
What holds of the parts and is kept on the way holds of all of them.
-/

namespace KeywordSuite

/-- Operations that do not load definitions, inform listeners or reach outside. -/
def SharedOp.drives : SharedOp → Bool
  | .loadInput _ | .loadKeywords _ | .inform .. | .outside .. => false
  | _ => true

def KeywordOp.drives : KeywordOp → Bool
  | .shared op => op.drives
  | _ => true

namespace BrowserKeyword

/-- A procedure made of the parts that a keyword for a test case may use. -/
inductive Assembled (id : CaseIdentity) : {α : Type} → KeywordProcedure α → Prop
  | pure {α : Type} (a : α) : Assembled id (pure a)
  | ofExcept {α : Type} {r : Except Fault α} (ordinary : Ordinary r) : Assembled id (KeywordProcedure.ofExcept r)
  | bind {α β : Type} {p : KeywordProcedure α} {f : α → KeywordProcedure β} :
      Assembled id p → (∀ a, Assembled id (f a)) → Assembled id (p >>= f)
  | attempt {α : Type} {p : KeywordProcedure α} : Assembled id p → Assembled id (Procedure.attempt p)
  | log (level : LogLevel) (message : String) : Assembled id (KeywordProcedure.log level message)
  /-- The report is told something of the test case, and whatever that comes to, at most logged. -/
  | report {α : Type} {call : ReportCall} {message : Fault → String} {a : α}
      {f : Except Fault (Option String) → KeywordProcedure α} (own : call.testId? = some id.testId)
      (told : ∀ answer, f (.ok answer) = Pure.pure a)
      (failed : ∀ fault, f (.error fault) = do KeywordProcedure.log .error (message fault); Pure.pure a) :
      Assembled id ((KeywordProcedure.shared (.report call)).attempt >>= f)
  /-- What only has to do with the context. -/
  | inner (op : KeywordOp) (inner : ∀ op', op ≠ .shared op') : Assembled id (KeywordProcedure.perform op)
  | openSession (config : Option SessionConfig) : Assembled id (KeywordProcedure.shared (.openSession config id.unit))
  | closeSession : Assembled id (KeywordProcedure.shared (.closeSession id.unit))
  | capture (label : String) : Assembled id (KeywordProcedure.shared (.captureOnDemand label id.unit))
  | sleep (seconds : Float) : Assembled id (KeywordProcedure.shared (.sleep seconds))
  | browse {call : SessionCall} (stays : call ≠ .quit) : Assembled id (browse id call)

namespace Assembled

variable {id : CaseIdentity}

theorem inputText (key : String) : Assembled id (KeywordProcedure.inputText key) := by
  unfold KeywordProcedure.inputText
  apply (Assembled.inner (.input key) (by simp)).bind
  intro found
  split
  · exact .pure none
  · exact .pure none
  · exact (Assembled.ofExcept (ordinary_mapError _)).bind fun text => .pure (some text)

theorem filled (key : String) : Assembled id (filled key) := by
  apply (inputText key).bind
  intro found
  split <;> exact .pure _

theorem logAll : ∀ lines, Assembled id (logAll lines)
  | [] => .pure ()
  | (level, message) :: rest => (Assembled.log level message).bind fun _ => logAll rest

theorem tell (level : EntryLevel) (message : String) : Assembled id (tell id level message) :=
  .report rfl (fun _ => rfl) fun _ => (bind_pure _).symm

theorem announce (message : String) : Assembled id (announce id message) :=
  (Assembled.log _ _).bind fun _ => tell _ _

theorem succeed (message : String) : Assembled id (succeed id message) :=
  (Assembled.log _ _).bind fun _ => (tell _ _).bind fun _ => .pure _

theorem refuse (message : String) (soft : Bool) : Assembled id (refuse id message soft) := by
  have rest : Assembled id (do BrowserKeyword.tell id .failed message; return .bool false : KeywordProcedure Value) :=
    (tell _ _).bind fun _ => .pure _
  unfold BrowserKeyword.refuse
  apply (Assembled.log _ _).bind
  intro _
  cases soft with
  | true => exact rest
  | false => exact (Assembled.inner (.fail message) (by simp)).bind fun _ => rest

theorem guarded (action : String) {body : KeywordProcedure Value} (soft : Bool)
    (h : Assembled id body) : Assembled id (guarded id action body soft) := by
  apply h.attempt.bind
  intro r
  cases r with
  | ok v => exact .pure v
  | error fault => exact refuse _ soft

theorem captured (label caption : String) : Assembled id (BrowserKeyword.capture id label caption) := by
  apply (Assembled.capture label).bind
  intro path
  dsimp only
  split
  · exact .pure _
  · exact .pure _
  · exact .report rfl (fun _ => rfl) fun _ => rfl

theorem visit (url : String) : Assembled id (visit id url) := by
  apply guarded
  apply (Assembled.browse (by simp)).bind
  intro _
  apply (succeed _).bind
  intro done
  exact (captured _ _).bind fun _ => .pure done

theorem isInState (element : String) (state : ElementState) : Assembled id (isInState id element state) := by
  cases state with
  | visible => exact (Assembled.browse (by simp)).bind fun _ => .pure true
  | hidden => exact (Assembled.browse (by simp)).bind fun _ => .pure true
  | enabled => exact Assembled.browse (by simp)
  | disabled => exact (Assembled.browse (by simp)).bind fun _ => .pure _
  | checked => exact Assembled.browse (by simp)

variable (settings : Settings)

theorem openBrowser : Assembled id (openBrowser settings id) := by
  apply (announce _).bind
  intro _
  apply guarded
  apply (Assembled.openSession _).bind
  intro session
  exact (Assembled.inner (.attach (some session)) (by simp)).bind fun _ => succeed _

theorem closeBrowser : Assembled id (closeBrowser id) := by
  apply (announce _).bind
  intro _
  apply (Assembled.closeSession).attempt.bind
  intro closed
  cases closed with
  | error fault => exact refuse _ true
  | ok _ => exact (Assembled.inner (.attach none) (by simp)).bind fun _ => succeed _

theorem navigateTo : Assembled id (navigateTo settings id) := by
  apply (announce _).bind
  intro _
  apply (filled _).bind
  intro url
  cases url with
  | some url => exact visit url
  | none =>
    apply (logAll _).bind
    intro _
    split
    · exact refuse _ _
    · exact refuse _ _
    · exact (announce _).bind fun _ => visit _

theorem click : Assembled id (click id) := by
  apply (announce _).bind
  intro _
  apply (filled _).bind
  intro element
  cases element with
  | none => exact refuse _ _
  | some element =>
    apply guarded
    exact (Assembled.browse (by simp)).bind fun _ => succeed _

theorem typeText : Assembled id (typeText id) := by
  apply (announce _).bind
  intro _
  apply (filled _).bind
  intro element
  cases element with
  | none => exact refuse _ _
  | some element =>
    apply (inputText _).bind
    intro text
    apply guarded
    exact (Assembled.browse (by simp)).bind fun _ => succeed _

theorem verifyElement : Assembled id (verifyElement id) := by
  apply (announce _).bind
  intro _
  apply (filled _).bind
  intro element
  cases element with
  | none => exact refuse _ _
  | some element =>
    apply (filled _).bind
    intro state
    dsimp only
    split
    · exact refuse _ _
    · apply guarded
      apply (isInState _ _).bind
      intro holds
      cases holds with
      | true => exact succeed _
      | false => exact refuse _ _

theorem verifyTitle : Assembled id (verifyTitle id) := by
  apply (announce _).bind
  intro _
  apply (filled _).bind
  intro expected
  cases expected with
  | none => exact refuse _ _
  | some expected =>
    apply Assembled.bind
    · exact Assembled.attempt (Assembled.browse (by simp))
    · intro title
      cases title with
      | error fault => exact refuse _ _
      | ok actual =>
        dsimp only
        split
        · exact succeed _
        · exact refuse _ _

theorem wait : Assembled id (wait id) := by
  apply (filled _).bind
  intro raw
  dsimp only
  split
  · exact refuse _ _
  · split
    · exact refuse _ _
    · apply (announce _).bind
      intro _
      exact (Assembled.sleep _).bind fun _ => .pure _

theorem takeScreenshot : Assembled id (takeScreenshot id) := by
  apply (filled _).bind
  intro name
  apply (captured _ _).bind
  intro path
  cases path with
  | none => exact refuse _ _
  | some path => exact (Assembled.inner (.put "LAST_SCREENSHOT" (.text path)) (by simp)).bind fun _ => .pure _

/-! ## The operations of assembled procedures -/

/-- A procedure that neither loads definitions nor informs listeners. -/
abbrev Drives {α : Type} (p : KeywordProcedure α) : Prop := Procedure.Only (fun op => op.drives = true) p

theorem drives_browse (id : CaseIdentity) (call : SessionCall) : Drives (BrowserKeyword.browse id call) := by
  have performs : ∀ op : KeywordOp, op.drives = true → Drives (KeywordProcedure.perform op) :=
    fun _ drives => Procedure.only_perform drives
  have asks : Drives (do
      let session ← KeywordProcedure.shared (.currentSession id.unit)
      KeywordProcedure.perform (.attach (some session))
      return session : KeywordProcedure SessionId) :=
    (performs (.shared _) rfl).bind fun _ => (performs (.attach _) rfl).bind fun _ => Procedure.only_pure _
  have finds : Drives (BrowserKeyword.session id) := by
    refine (performs .attached rfl).bind fun attached => ?_
    cases attached with
    | none => exact asks
    | some session =>
      refine (performs (.shared (.isCurrent session _)) rfl).bind fun current => ?_
      cases (current : Bool) with
      | true => exact Procedure.only_pure _
      | false => exact asks
  exact finds.bind fun _ => performs (.shared _) rfl

theorem drives {α : Type} {p : KeywordProcedure α} (h : Assembled id p) : Drives p := by
  induction h with
  | pure a => exact Procedure.only_pure a
  | @ofExcept _ r _ => cases r <;> exact trivial
  | bind _ _ ihp ihf => exact Procedure.Only.bind ihp ihf
  | attempt _ ih => exact Procedure.Only.attempt ih
  | log level message => exact Procedure.only_perform rfl
  | @report _ call _ _ _ _ told failed =>
    have tells : Drives (KeywordProcedure.shared (.report call)) := Procedure.only_perform rfl
    refine tells.attempt.bind fun answer => ?_
    cases answer with
    | ok answer =>
      rw [told]
      exact Procedure.only_pure _
    | error fault =>
      rw [failed]
      exact Procedure.Only.bind (Procedure.only_perform rfl) fun _ => Procedure.only_pure _
  | inner op inner =>
    cases op with
    | shared op => exact absurd rfl (inner op)
    | _ => exact Procedure.only_perform rfl
  | openSession | closeSession | capture | sleep => exact Procedure.only_perform rfl
  | browse => exact drives_browse _ _

end Assembled

def IsBuiltIn (body : KeywordBody) : Prop :=
  ∃ settings, ∃ d ∈ (provider settings).declarations, d.body = some body

theorem assembled_of_isBuiltIn {body : KeywordBody} (h : IsBuiltIn body) (id : CaseIdentity) :
    Assembled id (body id) := by
  obtain ⟨settings, d, hd, hbody⟩ := h
  simp only [provider, List.mem_cons, List.not_mem_nil, or_false] at hd
  rcases hd with rfl | rfl | rfl | rfl | rfl | rfl | rfl | rfl | rfl <;> cases hbody
  · exact .openBrowser settings
  · exact .closeBrowser
  · exact .navigateTo settings
  · exact .click
  · exact .typeText
  · exact .verifyElement
  · exact .verifyTitle
  · exact .wait
  · exact .takeScreenshot

end BrowserKeyword

end KeywordSuite
