import KeywordSuite.Proofs.Entries
import KeywordSuite.Proofs.Keyword.Assembly
import KeywordSuite.Proofs.Keyword.Dispatch

/-!
# How the keywords that drive the browser mark a failure

A mandatory keyword that answers with a failure has given one reason for it, whichever way it failed. Before that it
only did what gives no reason, and after it only the report is told, so no second reason can come, and what raises has
given none.
-/

namespace KeywordSuite

variable {ω α β : Type} {s : Surroundings ω}

/-! ## What gives no reason -/

/-- Scratch values that can all be written into a result. -/
def Context.HoldsTexts (c : Context) : Prop := ∀ entry ∈ c.scratch, ∃ text, entry.2 = .text text

structure Context.Spares (before after : Context) : Prop where
  failures : after.failures = before.failures
  texts : before.HoldsTexts → after.HoldsTexts

theorem Context.Spares.refl (c : Context) : c.Spares c := ⟨rfl, id⟩

theorem Context.Spares.trans {c c' c'' : Context} (h : c.Spares c') (h' : c'.Spares c'') : c.Spares c'' :=
  ⟨h'.failures.trans h.failures, h'.texts ∘ h.texts⟩

/-- Operations that give no reason and put nothing but texts into the scratch space. -/
def KeywordOp.IsQuiet : KeywordOp → Prop
  | .fail _ => False
  | .put _ value => ∃ text, value = .text text
  | _ => True

namespace KeywordProcedure

variable (s) in
/-- Run in any context, the procedure gives no reason. -/
def Quiet (p : KeywordProcedure α) : Prop := ∀ c w, Meets s.actual p.runIn c w fun r c' _ => Ordinary r ∧ c.Spares c'

theorem quiet_pure (a : α) : Quiet s (pure a) := fun c _ => ⟨ordinary_ok a, .refl c⟩

theorem quiet_ofExcept {r : Except Fault α} (ordinary : Ordinary r) : Quiet s (KeywordProcedure.ofExcept r) := by
  intro c w
  cases r with
  | ok a => exact ⟨ordinary, .refl c⟩
  | error fault => exact ⟨ordinary, .refl c⟩

theorem Quiet.bind {p : KeywordProcedure α} {f : α → KeywordProcedure β} (first : Quiet s p) (rest : ∀ a, Quiet s (f a)) :
    Quiet s (p >>= f) := by
  intro c w
  rw [meets_keyword_bind]
  refine (first c w).mono ?_
  intro r c' w' told
  obtain ⟨ordinary, spares⟩ := told
  cases r with
  | ok a => exact (rest a c' w').mono fun _ _ _ later => ⟨later.1, spares.trans later.2⟩
  | error fault =>
    exact ⟨faulty_error (ordinary fault rfl), spares⟩

theorem Quiet.attempt {p : KeywordProcedure α} (h : Quiet s p) : Quiet s (Procedure.attempt p) := by
  intro c w
  rw [runIn_attempt, meets_attempt]
  refine (h c w).mono ?_
  intro r c' w' told
  rw [settled_of_ordinary told.1]
  exact ⟨ordinary_ok r, told.2⟩

theorem meets_log {c : Context} {w : World ω} {level : LogLevel} {message : String}
    {post : Except Fault Unit → Context → World ω → Prop} :
    Meets s.actual (KeywordProcedure.log level message).runIn c w post ↔ post (.ok ()) c (s.logged level message w) :=
  meets_keyword_perform.trans (meets_contextLog level message)

variable (hs : s.Uninterrupted)
include hs

theorem quiet_perform (op : KeywordOp) (quiet : op.IsQuiet) : Quiet s (KeywordProcedure.perform op) := by
  intro c w
  rw [meets_keyword_perform]
  cases op with
  | fail reason => exact quiet.elim
  | put key value =>
    obtain ⟨text, rfl⟩ := quiet
    exact ⟨ordinary_ok _, rfl, fun texts => Entries.forall_set (p := fun v : Value => ∃ text, v = .text text) texts ⟨text, rfl⟩⟩
  | cleanUp =>
    refine (Surroundings.meets_cleanUp hs).mono ?_
    intro _ _ _ told
    obtain ⟨rfl, rfl⟩ := told
    exact ⟨ordinary_ok _, rfl, fun _ => nofun⟩
  | shared op =>
    refine (meets_ordinaryPerform hs op).mono ?_
    intro _ _ _ told
    obtain ⟨ordinary, rfl⟩ := told
    exact ⟨ordinary, .refl _⟩
  | _ => exact ⟨ordinary_ok _, rfl, id⟩

theorem quiet_shared (op : SharedOp) : Quiet s (KeywordProcedure.shared op) := quiet_perform hs (.shared op) trivial

theorem quiet_log (level : LogLevel) (message : String) : Quiet s (KeywordProcedure.log level message) :=
  quiet_shared hs _

theorem quiet_inputText (key : String) : Quiet s (inputText key) := by
  unfold inputText
  apply (quiet_perform hs (.input key) trivial).bind
  intro found
  split
  · exact quiet_pure none
  · exact quiet_pure none
  · exact (quiet_ofExcept (ordinary_mapError _)).bind fun text => quiet_pure (some text)

end KeywordProcedure

/-! ## What a keyword answers -/

/-- A keyword's outcome and the contexts before and after it. A refusal of a mandatory keyword has given one reason, and
no other outcome any. -/
structure Marked (mandatory : Bool) (outcome : Except Fault Value) (before after : Context) : Prop where
  ordinary : Ordinary outcome
  texts : before.HoldsTexts → after.HoldsTexts
  refused : mandatory = true → outcome = .ok (.bool false) → ∃ reason, after.failures = before.failures ++ [reason]
  kept : mandatory = false ∨ outcome ≠ .ok (.bool false) → after.failures = before.failures
  plain : ∀ v, outcome = .ok v → Verdict.ofReturned v = .failure → v = .bool false

theorem Marked.after {mandatory : Bool} {outcome : Except Fault Value} {c c' c'' : Context}
    (h : Marked mandatory outcome c' c'') (spares : c.Spares c') : Marked mandatory outcome c c'' where
  ordinary := h.ordinary
  texts := h.texts ∘ spares.texts
  refused must same := spares.failures ▸ h.refused must same
  kept other := (h.kept other).trans spares.failures
  plain := h.plain

namespace KeywordProcedure

variable {mandatory : Bool}

variable (s mandatory) in
/-- Run in any context, the keyword marks a failure it answers with, and nothing else. -/
def Marks (p : KeywordProcedure Value) : Prop := ∀ c w, Meets s.actual p.runIn c w fun r c' _ => Marked mandatory r c c'

theorem marks_return {v : Value} (fine : Verdict.ofReturned v ≠ .failure) : Marks s mandatory (pure v) := by
  intro c w
  have other : v ≠ .bool false := by
    rintro rfl
    exact fine rfl
  refine ⟨ordinary_ok v, id, fun _ same => ?_, fun _ => rfl, fun _ same failure => ?_⟩
  · cases same
    exact absurd rfl other
  · cases same
    exact absurd failure fine

theorem Quiet.marks {p : KeywordProcedure α} {f : α → KeywordProcedure Value} (first : Quiet s p)
    (rest : ∀ a, Marks s mandatory (f a)) : Marks s mandatory (p >>= f) := by
  intro c w
  rw [meets_keyword_bind]
  refine (first c w).mono ?_
  intro r c' w' told
  obtain ⟨ordinary, spares⟩ := told
  cases r with
  | error fault =>
    exact ⟨faulty_error (ordinary fault rfl), spares.texts, nofun, fun _ => spares.failures, nofun⟩
  | ok a =>
    exact (rest a c' w').mono fun _ _ _ later => later.after spares

end KeywordProcedure

namespace BrowserKeyword

open KeywordProcedure

variable (hs : s.Uninterrupted) {mandatory : Bool} {id : CaseIdentity} {body : KeywordProcedure Value}
include hs

/-- Telling the report comes to an end whatever the report does. -/
theorem meets_tell (level : EntryLevel) (message : String) {c : Context} {w : World ω} :
    Meets s.actual (tell id level message).runIn c w fun r c' _ => r = .ok () ∧ c' = c := by
  unfold tell
  rw [meets_keyword_bind, runIn_attempt, meets_attempt, KeywordProcedure.shared, meets_keyword_perform]
  refine (meets_ordinaryPerform hs (.report _)).mono ?_
  intro r c' w' told
  obtain ⟨ordinary, rfl⟩ := told
  rw [settled_of_ordinary ordinary]
  cases r with
  | ok _ => exact ⟨rfl, rfl⟩
  | error fault => exact meets_log.2 ⟨rfl, rfl⟩

theorem quiet_tell (level : EntryLevel) (message : String) : Quiet s (tell id level message) := by
  intro c w
  refine (meets_tell hs level message).mono ?_
  intro _ _ _ told
  obtain ⟨rfl, rfl⟩ := told
  exact ⟨ordinary_ok _, .refl _⟩

theorem quiet_announce (message : String) : Quiet s (announce id message) :=
  (quiet_log hs _ _).bind fun _ => quiet_tell hs _ _

theorem quiet_filled (key : String) : Quiet s (filled key) := by
  apply (quiet_inputText hs key).bind
  intro found
  split <;> exact quiet_pure _

theorem quiet_logAll : ∀ lines, Quiet s (logAll lines)
  | [] => quiet_pure ()
  | (level, message) :: rest => (quiet_log hs level message).bind fun _ => quiet_logAll rest

theorem quiet_capture (label caption : String) : Quiet s (capture id label caption) := by
  apply (quiet_shared hs _).bind
  intro path
  split
  · exact quiet_pure _
  · exact quiet_pure _
  · apply (quiet_shared hs _).attempt.bind
    intro told
    cases told with
    | ok _ => exact quiet_pure _
    | error fault => exact (quiet_log hs _ _).bind fun _ => quiet_pure _

theorem quiet_browse (call : SessionCall) : Quiet s (browse id call) := by
  unfold browse session
  refine Quiet.bind ?_ fun session => quiet_shared hs _
  apply (quiet_perform hs .attached trivial).bind
  intro attached
  have attaches : Quiet s (do
      let session ← KeywordProcedure.shared (.currentSession id.unit)
      KeywordProcedure.perform (.attach (some session))
      return session) :=
    (quiet_shared hs _).bind fun session => (quiet_perform hs (.attach (some session)) trivial).bind fun _ => quiet_pure _
  cases attached with
  | none => exact (quiet_pure _).bind fun current => attaches
  | some session =>
    apply (quiet_shared hs _).bind
    intro current
    cases current with
    | false => exact attaches
    | true => exact quiet_pure _

theorem marks_succeed (message : String) : Marks s mandatory (succeed id message) := by
  apply (quiet_log hs _ _).marks
  intro _
  apply (quiet_tell hs _ _).marks
  intro _
  exact marks_return (by decide)

/-- The one place where a reason is given; nothing after it can fail. -/
theorem marks_refuse (message : String) : Marks s mandatory (refuse id message !mandatory) := by
  intro c w
  unfold refuse
  rw [meets_keyword_bind, meets_log]
  cases mandatory with
  | false =>
    dsimp only
    simp only [Bool.not_false, Bool.not_true, Bool.false_eq_true, if_false]
    rw [meets_keyword_bind]
    refine (meets_tell hs .failed message).mono ?_
    intro _ _ _ told
    obtain ⟨rfl, rfl⟩ := told
    exact ⟨ordinary_ok _, fun texts => texts, nofun, fun _ => rfl, fun v same _ => by cases same; rfl⟩
  | true =>
    dsimp only
    simp only [Bool.not_true, Bool.not_false, if_true]
    rw [meets_keyword_bind, meets_keyword_perform, KeywordOp.serve, meets_contextFail]
    dsimp only
    rw [meets_keyword_bind]
    refine (meets_tell hs .failed message).mono ?_
    intro _ _ _ told
    obtain ⟨rfl, rfl⟩ := told
    exact ⟨ordinary_ok _, fun texts => texts, fun _ _ => ⟨message, rfl⟩, fun other => by simp at other,
      fun v same _ => by cases same; rfl⟩

theorem Marks.guarded (action : String) (h : Marks s mandatory body) : Marks s mandatory (guarded id action body !mandatory) := by
  intro c w
  unfold BrowserKeyword.guarded
  rw [meets_keyword_bind, runIn_attempt, meets_attempt]
  refine (h c w).mono ?_
  intro r c' w' marked
  rw [settled_of_ordinary marked.ordinary]
  cases r with
  | ok v => exact marked
  | error fault =>
    -- What raised has given no reason, so the one of the refusal is the only one.
    have spares : c.Spares c' := ⟨marked.kept (.inr nofun), marked.texts⟩
    exact (marks_refuse hs _ c' w').mono fun _ _ _ refused => refused.after spares

/-! ## The keywords -/

variable (settings : Settings)

theorem marks_openBrowser : Marks s true (openBrowser settings id) := by
  apply (quiet_announce hs _).marks
  intro _
  apply Marks.guarded hs
  apply (quiet_shared hs _).marks
  intro session
  exact (quiet_perform hs (.attach (some session)) trivial).marks fun _ => marks_succeed hs _

/-- A session is always closed in the end, so the refusal that would give no reason is never reached. -/
theorem marks_closeBrowser : Marks s true (closeBrowser id) := by
  have rest : Marks s true (do
      KeywordProcedure.perform (.attach none)
      succeed id "Browser closed successfully") :=
    (quiet_perform hs (.attach none) trivial).marks fun _ => marks_succeed hs _
  apply (quiet_announce hs _).marks
  intro _ c w
  rw [meets_keyword_bind, runIn_attempt, meets_attempt, KeywordProcedure.shared, meets_keyword_perform]
  refine meets_perform.2 ⟨w, rfl, ?_⟩
  intro _ same
  subst same
  obtain ⟨x, closed⟩ := SessionBackend.close_ok hs.closes (hs.browse · .quit) id.unit w
  have answered : ((s.handle (.closeSession id.unit)).run w).1 = .ok () := congrArg Prod.fst closed
  rw [answered]
  exact rest c _

theorem marks_visit (url : String) : Marks s true (visit id url) := by
  apply Marks.guarded hs
  apply (quiet_browse hs _).marks
  intro _
  unfold succeed
  simp only [bind_assoc, pure_bind]
  apply (quiet_log hs _ _).marks
  intro _
  apply (quiet_tell hs _ _).marks
  intro _
  exact (quiet_capture hs _ _).marks fun _ => marks_return (by decide)

theorem marks_navigateTo : Marks s true (navigateTo settings id) := by
  apply (quiet_announce hs _).marks
  intro _
  apply (quiet_filled hs _).marks
  intro url
  cases url with
  | some url => exact marks_visit hs url
  | none =>
    apply (quiet_logAll hs _).marks
    intro _
    split
    · exact marks_refuse hs _
    · exact marks_refuse hs _
    · exact (quiet_announce hs _).marks fun _ => marks_visit hs _

theorem marks_click : Marks s true (click id) := by
  apply (quiet_announce hs _).marks
  intro _
  apply (quiet_filled hs _).marks
  intro element
  cases element with
  | none => exact marks_refuse hs _
  | some element =>
    apply Marks.guarded hs
    exact (quiet_browse hs _).marks fun _ => marks_succeed hs _

theorem marks_typeText : Marks s true (typeText id) := by
  apply (quiet_announce hs _).marks
  intro _
  apply (quiet_filled hs _).marks
  intro element
  cases element with
  | none => exact marks_refuse hs _
  | some element =>
    apply (quiet_inputText hs _).marks
    intro text
    apply Marks.guarded hs
    exact (quiet_browse hs _).marks fun _ => marks_succeed hs _

theorem quiet_isInState (element : String) (state : ElementState) : Quiet s (isInState id element state) := by
  cases state with
  | visible => exact (quiet_browse hs _).bind fun _ => quiet_pure true
  | hidden => exact (quiet_browse hs _).bind fun _ => quiet_pure true
  | enabled => exact quiet_browse hs _
  | disabled => exact (quiet_browse hs _).bind fun _ => quiet_pure _
  | checked => exact quiet_browse hs _

theorem marks_verifyElement : Marks s true (verifyElement id) := by
  apply (quiet_announce hs _).marks
  intro _
  apply (quiet_filled hs _).marks
  intro element
  cases element with
  | none => exact marks_refuse hs _
  | some element =>
    apply (quiet_filled hs _).marks
    intro state
    dsimp only
    split
    · exact marks_refuse hs _
    · apply Marks.guarded hs
      apply (quiet_isInState hs _ _).marks
      intro holds
      cases holds with
      | true => exact marks_succeed hs _
      | false => exact marks_refuse hs _

theorem marks_verifyTitle : Marks s false (verifyTitle id) := by
  apply (quiet_announce hs _).marks
  intro _
  apply (quiet_filled hs _).marks
  intro expected
  cases expected with
  | none => exact marks_refuse hs _
  | some expected =>
    apply (quiet_browse hs _).attempt.marks
    intro title
    cases title with
    | error fault => exact marks_refuse hs _
    | ok actual =>
      dsimp only
      split
      · exact marks_succeed hs _
      · exact marks_refuse hs _

theorem marks_wait : Marks s true (wait id) := by
  apply (quiet_filled hs _).marks
  intro raw
  dsimp only
  split
  · exact marks_refuse hs _
  · split
    · exact marks_refuse hs _
    · apply (quiet_announce hs _).marks
      intro _
      exact (quiet_shared hs _).marks fun _ => marks_return (by decide)

theorem marks_takeScreenshot : Marks s false (takeScreenshot id) := by
  apply (quiet_filled hs _).marks
  intro name
  apply (quiet_capture hs _ _).marks
  intro path
  cases path with
  | none => exact marks_refuse hs _
  | some path =>
    exact (quiet_perform hs (.put "LAST_SCREENSHOT" (.text path)) ⟨path, rfl⟩).marks fun _ => marks_return (by decide)

theorem marks_declared {d : KeywordDeclaration} (declared : d ∈ (provider settings).declarations) {body : KeywordBody}
    (there : d.body = some body) : Marks s d.mandatory (body id) := by
  simp only [provider, List.mem_cons, List.not_mem_nil, or_false] at declared
  rcases declared with rfl | rfl | rfl | rfl | rfl | rfl | rfl | rfl | rfl <;> cases there
  · exact marks_openBrowser hs settings
  · exact marks_closeBrowser hs
  · exact marks_navigateTo hs settings
  · exact marks_click hs
  · exact marks_typeText hs
  · exact marks_verifyElement hs
  · exact marks_verifyTitle hs
  · exact marks_wait hs
  · exact marks_takeScreenshot hs

end BrowserKeyword

end KeywordSuite
