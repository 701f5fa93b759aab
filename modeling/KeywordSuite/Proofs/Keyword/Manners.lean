import KeywordSuite.Proofs.Keyword.Assembly
import KeywordSuite.Proofs.Session.Journal

/-!
# How keywords deal with sessions

A test case that deals well with sessions drives a session only while it knows it to be the live one
of its unit, never quits one by itself, and touches no other unit. The keywords that drive the
browser do so, and so does every keyword that leaves driving to them.
-/

namespace KeywordSuite

/-! ## The protocol of a test case -/

/-- What a test case knows of the live session of its unit. -/
inductive Grip
  | unknown
  | holds (session : SessionId)
  | released

/-- What it knows, and the failure it has shown: the identifier and the name of a test case. -/
structure CaseStage where
  grip : Grip
  shown : Option (String × String)

def SharedOp.unit? : SharedOp → Option UnitId
  | .openSession _ unit | .closeSession unit | .resetSession unit | .currentSession unit
  | .isActive unit | .isCurrent _ unit | .captureOnDemand _ unit | .captureOnFailure _ _ _ unit => some unit
  | _ => none

/-- Operations that always come to a value. -/
def SharedOp.neverFails : SharedOp → Bool
  | .log .. | .now | .stopwatch | .closeSession _ | .resetSession _ | .isActive _ | .isCurrent .. => true
  | _ => false

/-- Operations that may leave a session to be closed, or have it do something. -/
def SharedOp.isBusy : SharedOp → Bool
  | .openSession .. | .captureOnDemand .. | .captureOnFailure .. | .browse .. => true
  | _ => false

def Grip.after (g : Grip) : (op : SharedOp) → Except Fault op.Reply → Grip
  | .openSession .., .ok n => .holds n
  | .currentSession _, .ok n => .holds n
  | .isCurrent n _, .ok true => .holds n
  | .closeSession _, _ => .released
  | .resetSession _, _ => .released
  | _, _ => g

def SharedOp.shown? : SharedOp → Option (String × String)
  | .captureOnFailure testId testName _ _ => some (testId, testName)
  | _ => none

/--
The protocol of a test case on a unit. A session is only driven while it is held, and after the
failure of the test case is shown no session is opened or driven.
-/
def caseProtocol (u : UnitId) : Protocol SharedOp.Reply CaseStage where
  begins g op h :=
    (∀ unit, op.unit? = some unit → unit = u) ∧
    (∀ session call, op = .browse session call → g.grip = .holds session ∧ call ≠ .quit) ∧
    (op.isBusy = true → g.shown = none) ∧
    (h = g ∨ ∃ failure, op.shown? = some failure ∧ h = { g with shown := some failure })
  answers _ op reply := op.neverFails = true → ∃ a, reply = .ok a
  next g op reply := { g with grip := g.grip.after op reply }

/-- Operations on the own unit that do not drive a session. -/
def SharedOp.IsModest (u : UnitId) (op : SharedOp) : Prop :=
  (∀ unit, op.unit? = some unit → unit = u) ∧ ∀ session call, op ≠ .browse session call

section

variable {u : UnitId} {g : CaseStage}

theorem begins_modest {op : SharedOp} (h : op.IsModest u) (hb : op.isBusy = true → g.shown = none) :
    (caseProtocol u).begins g op g :=
  ⟨h.1, fun session call hop => absurd hop (h.2 session call), hb, .inl rfl⟩

theorem modest_of_isApart (op : SharedOp) (h : op.isApart = true) : op.IsModest u := by
  refine ⟨fun unit hu => ?_, fun session call hop => ?_⟩
  · cases op <;> simp_all [SharedOp.unit?, SharedOp.isApart]
  · subst hop
    cases h

/-! ## Procedures that keep to it while the test case has not failed -/

def PoliteProgram (u : UnitId) {α : Type} (p : Program KeywordOp.Reply α) : Prop :=
  ∀ c g, c.identity.unit = u → g.shown = none →
    (KeywordOp.runProgram p c).Keeps (caseProtocol u) g fun r h =>
      r.2.identity.unit = u ∧ h.shown = none

/-- Run in a context of the unit, the procedure keeps to the protocol and leaves the context there. -/
def Polite (u : UnitId) {α : Type} (p : KeywordProcedure α) : Prop := PoliteProgram u (ExceptT.run p)

variable {α β : Type}

theorem PoliteProgram.bind {p : Program KeywordOp.Reply α} {f : α → Program KeywordOp.Reply β}
    (hp : PoliteProgram u p) (hf : ∀ a, PoliteProgram u (f a)) : PoliteProgram u (p.bind f) := by
  intro c g hc hg
  rw [KeywordOp.runProgram_bind, Program.keeps_bind]
  apply (hp c g hc hg).mono
  intro r h hr
  exact hf r.1 r.2 h hr.1 hr.2

theorem polite_pure (a : α) : Polite u (pure a) := fun _ _ hc hg => ⟨hc, hg⟩

theorem polite_throw (fault : Fault) : Polite u (throw fault : KeywordProcedure α) :=
  fun _ _ hc hg => ⟨hc, hg⟩

theorem Polite.bind {p : KeywordProcedure α} {f : α → KeywordProcedure β} (hp : Polite u p)
    (hf : ∀ a, Polite u (f a)) : Polite u (p >>= f) := by
  apply PoliteProgram.bind hp
  intro r
  cases r with
  | ok a => exact hf a
  | error fault => exact polite_throw fault

theorem Polite.attempt {p : KeywordProcedure α} (hp : Polite u p) : Polite u (Procedure.attempt p) := by
  apply PoliteProgram.bind hp
  intro r
  cases r with
  | ok a => exact polite_pure (Except.ok a)
  | error fault => exact fun _ _ hc hg => ⟨hc, hg⟩

theorem polite_ofExcept (e : Except Fault α) : Polite u (KeywordProcedure.ofExcept e) := by
  cases e with
  | ok a => exact polite_pure a
  | error fault => exact polite_throw fault

theorem caseProtocol_cleanUp {c : Context} (hc : c.identity.unit = u) :
    Meets (caseProtocol u) ContextProcedure.cleanUp c g fun r c' h =>
      r = .ok () ∧ c'.identity = c.identity ∧ h.shown = g.shown := by
  have serves : ∀ op : SharedOp, op.unit? = some c.identity.unit → op.isBusy = false →
      op.neverFails = true → (caseProtocol u).Serves (fun h => h.shown = g.shown) op := by
    intro op own idle answers h hh
    have modest : op.IsModest u := by
      refine ⟨fun unit hu => ?_, fun session call hop => ?_⟩
      · rw [own] at hu
        exact (Option.some.inj hu).symm.trans hc
      · subst hop
        cases own
    have begins := begins_modest (g := h) modest fun busy => by rw [idle] at busy; cases busy
    exact ⟨h, begins, fun reply hreply => ⟨hreply answers, hh⟩⟩
  refine (meets_cleanUp (fun session => serves _ rfl rfl rfl) (serves _ rfl rfl rfl) rfl).mono ?_
  intro r c' h hr
  obtain ⟨rfl, rfl, kept⟩ := hr
  exact ⟨rfl, rfl, kept⟩

def KeywordOp.IsModest (u : UnitId) : KeywordOp → Prop
  | .shared op => op.IsModest u
  | _ => True

theorem polite_serve {op : KeywordOp} (h : op.IsModest u) {c : Context} (hc : c.identity.unit = u)
    (hg : g.shown = none) : Meets (caseProtocol u) op.serve c g fun _ c' h =>
      c'.identity.unit = u ∧ h.shown = none := by
  cases op with
  | fail reason =>
    have modest : SharedOp.IsModest u (.log .error ("Test failed: " ++ reason)) := modest_of_isApart _ rfl
    have logged : Meets (caseProtocol u) (ContextProcedure.log .error ("Test failed: " ++ reason))
        (c.fail reason) g fun _ c' h => c'.identity.unit = u ∧ h.shown = none :=
      meets_perform.2 ⟨g, begins_modest modest fun _ => hg, fun _ _ => ⟨hc, hg⟩⟩
    exact logged
  | addInput | input | put | scratch | attach | attached | passed => exact ⟨hc, hg⟩
  | cleanUp =>
    apply (caseProtocol_cleanUp hc).mono
    intro r c' h hr
    exact ⟨by rw [hr.2.1]; exact hc, hr.2.2.trans hg⟩
  | shared op =>
    exact meets_perform.2 ⟨g, begins_modest h fun _ => hg, fun _ _ => ⟨hc, hg⟩⟩

theorem polite_perform (op : KeywordOp) (h : op.IsModest u) : Polite u (KeywordProcedure.perform op) :=
  fun _ _ hc hg => meets_keyword_perform.2 (polite_serve h hc hg)

theorem polite_apart (op : SharedOp) (h : op.isApart = true) : Polite u (KeywordProcedure.shared op) :=
  polite_perform (.shared op) (modest_of_isApart op h)

theorem modest_of_unit {op : SharedOp} (h : op.unit? = some u) : op.IsModest u := by
  refine ⟨fun unit hu => ?_, fun session call hop => ?_⟩
  · rw [h] at hu
    exact (Option.some.inj hu).symm
  · subst hop
    cases h

theorem polite_own (op : SharedOp) (h : op.unit? = some u) : Polite u (KeywordProcedure.shared op) :=
  polite_perform (.shared op) (modest_of_unit h)

end

/-! ## Driving a session -/

namespace BrowserKeyword

variable {id : CaseIdentity}

theorem caseProtocol_own {c : Context} {g : CaseStage} {u : UnitId} {op : SharedOp} (own : op.unit? = some u)
    (hg : g.shown = none) {post : Except Fault op.Reply → Context → CaseStage → Prop}
    (h : ∀ reply, (caseProtocol u).answers g op reply →
      post reply c { g with grip := g.grip.after op reply }) :
    Meets (caseProtocol u) (KeywordProcedure.shared op).runIn c g post :=
  meets_keyword_perform.2 (meets_perform.2 ⟨g, begins_modest (modest_of_unit own) fun _ => hg, h⟩)

theorem meets_session {c : Context} {g : CaseStage} (hc : c.identity.unit = id.unit) (hg : g.shown = none) :
    Meets (caseProtocol id.unit) (session id).runIn c g fun r c' h =>
      c'.identity.unit = id.unit ∧ h.shown = none ∧ ∀ n, r = .ok n → h.grip = .holds n := by
  unfold session
  rw [meets_keyword_bind, meets_keyword_perform]
  -- whether no session is attached or a stale one, the unit is asked for its current session
  have asks : ∀ g : CaseStage, g.shown = none → Meets (caseProtocol id.unit) (do
        let session ← KeywordProcedure.shared (.currentSession id.unit)
        KeywordProcedure.perform (.attach (some session))
        return session : KeywordProcedure SessionId).runIn c g fun r c' h =>
      c'.identity.unit = id.unit ∧ h.shown = none ∧ ∀ n, r = .ok n → h.grip = .holds n := by
    intro g hg
    rw [meets_keyword_bind]
    refine caseProtocol_own rfl hg fun reply _ => ?_
    cases reply with
    | error fault => exact ⟨hc, hg, fun n h => by cases h⟩
    | ok n =>
      refine ⟨hc, hg, fun n' h => ?_⟩
      cases h
      rfl
  simp only [KeywordOp.serve, meets_bind, meets_get, meets_pure]
  cases c.session with
  | none => exact asks g hg
  | some n =>
    dsimp only
    rw [meets_keyword_bind]
    refine caseProtocol_own rfl hg fun reply _ => ?_
    cases reply with
    | error fault => exact ⟨hc, hg, fun n h => by cases h⟩
    | ok current =>
      cases current with
      | false => exact asks _ hg
      | true =>
        refine ⟨hc, hg, fun n' h => ?_⟩
        cases h
        rfl

/-- A session is driven just after it was found to be the live one. -/
theorem polite_browse {call : SessionCall} (h : call ≠ .quit) : Polite id.unit (browse id call) := by
  intro c g hc hg
  have driven : Meets (caseProtocol id.unit) (browse id call).runIn c g fun _ c' h =>
      c'.identity.unit = id.unit ∧ h.shown = none := by
    unfold browse
    rw [meets_keyword_bind]
    refine (meets_session hc hg).mono fun r c' k hk => ?_
    obtain ⟨hc', hk, held⟩ := hk
    cases r with
    | error fault => exact ⟨hc', hk⟩
    | ok n =>
      refine meets_keyword_perform.2 (meets_perform.2
        ⟨k, ⟨?_, ?_, fun _ => hk, .inl rfl⟩, fun _ _ => ⟨hc', hk⟩⟩)
      · intro unit hu
        cases hu
      · intro session call' hop
        cases hop
        exact ⟨held n rfl, h⟩
  exact driven

/-! ## The keywords that drive the browser -/

theorem Assembled.polite {α : Type} {p : KeywordProcedure α} (h : Assembled id p) : Polite id.unit p := by
  induction h with
  | pure a => exact polite_pure a
  | ofExcept _ => exact polite_ofExcept _
  | bind _ _ ihp ihf => exact ihp.bind ihf
  | attempt _ ih => exact ih.attempt
  | log level message => exact polite_apart (.log level message) rfl
  | report _ told failed =>
    apply (polite_apart (.report _) rfl).attempt.bind
    intro answer
    cases answer with
    | ok answer =>
      rw [told]
      exact polite_pure _
    | error fault =>
      rw [failed]
      exact (polite_apart (.log _ _) rfl).bind fun _ => polite_pure _
  | inner op inner =>
    apply polite_perform
    cases op with
    | shared op => exact absurd rfl (inner op)
    | _ => trivial
  | openSession config => exact polite_own _ rfl
  | closeSession => exact polite_own _ rfl
  | capture label => exact polite_own _ rfl
  | sleep seconds => exact polite_apart _ rfl
  | browse stays => exact polite_browse stays

theorem polite_of_isBuiltIn {body : KeywordBody} (h : IsBuiltIn body) (id : CaseIdentity) :
    Polite id.unit (body id) :=
  (assembled_of_isBuiltIn h id).polite

end BrowserKeyword

/-! ## Keywords that leave driving to them -/

/--
A keyword that acts on its context and with modest operations, and that drives a session only by
calling one of the keywords that drive the browser.
-/
inductive Courteous (id : CaseIdentity) {α : Type} : Program KeywordOp.Reply α → Prop
  | done (a : α) : Courteous id (.done a)
  | act (op : KeywordOp) {resume : Except Fault op.Reply → Program KeywordOp.Reply α} :
      op.IsModest id.unit → (∀ reply, Courteous id (resume reply)) → Courteous id (.call op resume)
  | drive {body : KeywordBody} {resume : Except Fault Value → Program KeywordOp.Reply α} :
      BrowserKeyword.IsBuiltIn body → (∀ r, Courteous id (resume r)) →
      Courteous id (Program.bind (ExceptT.run (body id)) resume)

theorem Courteous.polite {id : CaseIdentity} {α : Type} {p : Program KeywordOp.Reply α}
    (h : Courteous id p) : PoliteProgram id.unit p := by
  induction h with
  | done a => exact fun _ _ hc hg => ⟨hc, hg⟩
  | act op modest _ ih =>
    intro c g hc hg
    unfold KeywordOp.runProgram
    rw [Program.keeps_bind]
    refine Program.Keeps.mono ?_ (polite_serve modest hc hg)
    intro r h hr
    exact ih r.1 r.2 h hr.1 hr.2
  | drive builtIn _ ih => exact PoliteProgram.bind (BrowserKeyword.polite_of_isBuiltIn builtIn id) ih

theorem courteous_of_isBuiltIn {body : KeywordBody} (h : BrowserKeyword.IsBuiltIn body) (id : CaseIdentity) :
    Courteous id (ExceptT.run (body id)) := by
  have drives : Courteous id (Program.bind (ExceptT.run (body id)) .done) := .drive h fun r => .done r
  rw [Program.bind_done] at drives
  exact drives

def KeywordRegistry.Courteous (r : KeywordRegistry) : Prop :=
  ∀ name e, r.resolve? name = some e → ∀ id, KeywordSuite.Courteous id (ExceptT.run (e.body id))

end KeywordSuite
