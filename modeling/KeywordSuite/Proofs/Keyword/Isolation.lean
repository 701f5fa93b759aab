import KeywordSuite.Proofs.Case.Tandem
import KeywordSuite.Proofs.Keyword.Manners

/-!
# Keywords that keep to themselves

A keyword keeps to itself if, run on two units in contexts that are alike, it does the same in both
and returns the same verdict. The keywords that drive the browser do so.
-/

namespace KeywordSuite

/-- Two keyword procedures in tandem, each in a context of its own. -/
abbrev KeywordTwin {α β : Type} (u v : UnitId) (R : Ties → α → β → Prop) (k : Ties) (p : KeywordProcedure α)
    (q : KeywordProcedure β) : Prop :=
  ContextTwin u v True R k p.runIn q.runIn

/--
Whatever the two runs are answered alike, the keyword does the same in both: it deals only with its own
context, its own unit and the sessions of that unit.
-/
def KeywordEntry.Isolated (e : KeywordEntry) : Prop :=
  ∀ (id : CaseIdentity) (u : UnitId) (k : Ties),
    KeywordTwin u id.unit (fun _ a b => Verdict.ofReturned a = Verdict.ofReturned b) k
      (e.body { id with unit := u }) (e.body id)

def KeywordRegistry.Isolated (r : KeywordRegistry) : Prop := ∀ name e, r.resolve? name = some e → e.Isolated

section

variable {u v : UnitId} {k : Ties} {α β γ δ : Type} {R : Ties → α → β → Prop} {S : Ties → γ → δ → Prop}

/-! ## Rules -/

theorem keyword_pure {a : α} {b : β} (h : ∀ k₁, k ≤ k₁ → R k₁ a b) : KeywordTwin u v R k (pure a) (pure b) :=
  twin_pure h

theorem KeywordTwin.bind {p : KeywordProcedure α} {q : KeywordProcedure β} {f : α → KeywordProcedure γ}
    {g : β → KeywordProcedure δ} (h : KeywordTwin u v R k p q)
    (rest : ∀ k₁ a b, k ≤ k₁ → R k₁ a b → KeywordTwin u v S k₁ (f a) (g b)) :
    KeywordTwin u v S k (p >>= f) (q >>= g) := by
  unfold KeywordTwin
  rw [KeywordProcedure.runIn_bind, KeywordProcedure.runIn_bind]
  exact Twin.bind h rest

theorem KeywordTwin.attempt {p : KeywordProcedure α} {q : KeywordProcedure β} (h : KeywordTwin u v R k p q) :
    KeywordTwin u v (fun k₁ => Matched True (R k₁)) k (Procedure.attempt p) (Procedure.attempt q) := by
  unfold KeywordTwin
  rw [KeywordProcedure.runIn_attempt, KeywordProcedure.runIn_attempt]
  exact (twin_attempt h).never

/-- A keyword procedure does nothing that matters and comes to a value. -/
abbrev KeywordSolo (u v : UnitId) (ends : α → Prop) (p : KeywordProcedure α) : Prop :=
  Solo (tandem u v) ends p.runIn

theorem KeywordSolo.bind {ends : α → Prop} {ends' : γ → Prop} {p : KeywordProcedure α}
    {f : α → KeywordProcedure γ} (hp : KeywordSolo u v ends p)
    (hf : ∀ a, ends a → KeywordSolo u v ends' (f a)) : KeywordSolo u v ends' (p >>= f) := by
  unfold KeywordSolo
  rw [KeywordProcedure.runIn_bind]
  exact Solo.bind hp hf

theorem keyword_solo {ends : α → Prop} {ends' : β → Prop} {p : KeywordProcedure α} {q : KeywordProcedure β}
    (hp : KeywordSolo u v ends p) (hq : KeywordSolo u v ends' q)
    (related : ∀ k₁ a b, k ≤ k₁ → ends a → ends' b → R k₁ a b) : KeywordTwin u v R k p q :=
  twin_solo hp hq related

theorem solo_log (level : LogLevel) (message : String) :
    KeywordSolo u v (fun _ => True) (KeywordProcedure.log level message) := by
  intro c
  refine meets_keyword_perform.2 (meets_perform.2 ⟨(), trivial, ?_⟩)
  exact fun _ replied => ⟨rfl, (), replied, trivial⟩

theorem solo_report (call : ReportCall) :
    KeywordSolo u v (fun _ => True) (KeywordProcedure.shared (.report call)).attempt := by
  intro c
  rw [KeywordProcedure.runIn_attempt, meets_attempt]
  refine meets_keyword_perform.2 (meets_perform.2 ⟨(), trivial, fun r ordinary => ?_⟩)
  exact ⟨rfl, r, settled_of_ordinary ordinary, trivial⟩

theorem solo_reportThen {ends : α → Prop} {call : ReportCall} {message : Fault → String} {a : α}
    {f : Except Fault (Option String) → KeywordProcedure α} (h : ends a) (told : ∀ answer, f (.ok answer) = pure a)
    (failed : ∀ fault, f (.error fault) = do KeywordProcedure.log .error (message fault); pure a) :
    KeywordSolo u v ends ((KeywordProcedure.shared (.report call)).attempt >>= f) := by
  refine (solo_report call).bind fun r _ => ?_
  cases r with
  | ok answer =>
    rw [told]
    exact solo_pure h
  | error fault =>
    rw [failed]
    exact (solo_log _ _).bind fun _ _ => solo_pure h

theorem keyword_log {level level' : LogLevel} {message message' : String} :
    KeywordTwin u v AnyValues k (KeywordProcedure.log level message) (KeywordProcedure.log level' message') :=
  keyword_solo (solo_log _ _) (solo_log _ _) fun _ _ _ _ _ _ => trivial

theorem keyword_shared {op op' : SharedOp} {R : Ties → op.Reply → op'.Reply → Prop} {fails : Prop}
    (h : Tandem u v k op op' fails R) :
    KeywordTwin u v R k (KeywordProcedure.shared op) (KeywordProcedure.shared op') := by
  unfold KeywordTwin KeywordProcedure.shared
  rw [KeywordProcedure.runIn_perform, KeywordProcedure.runIn_perform]
  exact (twin_perform h).mono (fun _ => trivial) fun _ _ _ _ related => related

theorem keyword_fail {reason reason' : String} (alike : TextAlike reason reason') :
    KeywordTwin u v AnyValues k (KeywordProcedure.perform (.fail reason))
      (KeywordProcedure.perform (.fail reason')) := by
  unfold KeywordTwin
  rw [KeywordProcedure.runIn_perform, KeywordProcedure.runIn_perform]
  exact twin_contextFail alike

theorem keyword_input (key : String) :
    KeywordTwin u v EqualValues k (KeywordProcedure.perform (.input key)) (KeywordProcedure.perform (.input key)) := by
  unfold KeywordTwin
  rw [KeywordProcedure.runIn_perform]
  refine twin_get.bind fun k₁ c c' _ alike => twin_pure fun _ _ => ?_
  exact congrArg (Entries.get? · key) alike.input

theorem keyword_attached : KeywordTwin u v (fun k₁ => Option.Rel fun n m => (n, m) ∈ k₁.sessions) k
    (KeywordProcedure.perform .attached) (KeywordProcedure.perform .attached) := by
  unfold KeywordTwin
  rw [KeywordProcedure.runIn_perform]
  exact twin_get.bind fun k₁ c c' _ alike => twin_pure fun _ later => (alike.later later).session

theorem keyword_attach {session session' : Option SessionId}
    (pair : Option.Rel (fun n m => (n, m) ∈ k.sessions) session session') :
    KeywordTwin u v AnyValues k (KeywordProcedure.perform (.attach session))
      (KeywordProcedure.perform (.attach session')) := by
  unfold KeywordTwin
  rw [KeywordProcedure.runIn_perform, KeywordProcedure.runIn_perform]
  refine twin_modify fun k₁ c c' later alike => ⟨{ alike with session := ?_ }, trivial⟩
  cases pair with
  | none => exact .none
  | some pair => exact .some (later.1 pair)

theorem keyword_put (key : String) {x y : Value} (alike : x.Alike y) :
    KeywordTwin u v AnyValues k (KeywordProcedure.perform (.put key x)) (KeywordProcedure.perform (.put key y)) := by
  unfold KeywordTwin
  rw [KeywordProcedure.runIn_perform, KeywordProcedure.runIn_perform]
  refine twin_modify fun k₁ c c' later contexts => ⟨{ contexts with scratch := ?_ }, trivial⟩
  exact contexts.scratch.set key alike

theorem keyword_ofExcept {r : Except Fault α} (ordinary : Ordinary r) :
    KeywordTwin u v EqualValues k (KeywordProcedure.ofExcept r) (KeywordProcedure.ofExcept r) := by
  cases r with
  | ok a => exact keyword_pure fun _ _ => rfl
  | error fault => exact twin_throw trivial (.refl (ordinary fault rfl))

theorem keyword_inputText (key : String) :
    KeywordTwin u v EqualValues k (KeywordProcedure.inputText key) (KeywordProcedure.inputText key) := by
  unfold KeywordProcedure.inputText
  refine (keyword_input key).bind fun k₁ found _ _ same => ?_
  obtain rfl := same
  split
  · exact keyword_pure fun _ _ => rfl
  · exact keyword_pure fun _ _ => rfl
  · refine (keyword_ofExcept (ordinary_mapError _)).bind fun k₂ text _ _ same => ?_
    exact keyword_pure fun _ _ => congrArg some same

end

/-! ## The keywords that drive the browser -/

namespace BrowserKeyword

variable {id : CaseIdentity} {u : UnitId} {k : Ties}

theorem solo_tell (id : CaseIdentity) {v : UnitId} (level : EntryLevel) (message : String) :
    KeywordSolo u v (fun _ => True) (tell id level message) := by
  refine (solo_report _).bind fun told _ => ?_
  cases told with
  | ok _ => exact solo_pure trivial
  | error fault => exact solo_log _ _

theorem twin_tell {level : EntryLevel} {message message' : String} : KeywordTwin u id.unit AnyValues k
    (tell { id with unit := u } level message) (tell id level message') :=
  keyword_solo (solo_tell _ _ _) (solo_tell _ _ _) fun _ _ _ _ _ _ => trivial

theorem twin_announce {message message' : String} : KeywordTwin u id.unit AnyValues k
    (announce { id with unit := u } message) (announce id message') :=
  keyword_log.bind fun _ _ _ _ _ => twin_tell

theorem twin_succeed {message message' : String} : KeywordTwin u id.unit EqualValues k
    (succeed { id with unit := u } message) (succeed id message') :=
  keyword_log.bind fun _ _ _ _ _ => twin_tell.bind fun _ _ _ _ _ => keyword_pure fun _ _ => rfl

theorem twin_refuse {message message' : String} (alike : TextAlike message message') (soft : Bool) :
    KeywordTwin u id.unit EqualValues k (refuse { id with unit := u } message soft) (refuse id message' soft) := by
  have rest : ∀ k₁, KeywordTwin u id.unit EqualValues k₁
      (do tell { id with unit := u } .failed message; return .bool false : KeywordProcedure Value)
      (do tell id .failed message'; return .bool false) :=
    fun _ => twin_tell.bind fun _ _ _ _ _ => keyword_pure fun _ _ => rfl
  unfold refuse
  refine keyword_log.bind fun k₁ _ _ _ _ => ?_
  cases soft with
  | true => exact rest k₁
  | false => exact (keyword_fail alike).bind fun k₂ _ _ _ _ => rest k₂

theorem twin_guarded (action : String) {body body' : KeywordProcedure Value} (soft : Bool)
    (h : KeywordTwin u id.unit EqualValues k body body') : KeywordTwin u id.unit EqualValues k
      (guarded { id with unit := u } action body soft) (guarded id action body' soft) := by
  refine h.attempt.bind fun k₁ r r' _ matched => ?_
  cases matched with
  | ok same => exact keyword_pure fun _ _ => same
  | error _ alike => exact twin_refuse (alike.message.append_left _) soft

theorem twin_filled (key : String) : KeywordTwin u id.unit EqualValues k (filled key) (filled key) := by
  refine (keyword_inputText key).bind fun k₁ found _ _ same => ?_
  obtain rfl := same
  split <;> exact keyword_pure fun _ _ => rfl

theorem twin_logAll : ∀ lines {k : Ties}, KeywordTwin u id.unit AnyValues k (logAll lines) (logAll lines)
  | [], _ => keyword_pure fun _ _ => trivial
  | _ :: rest, _ => keyword_log.bind fun _ _ _ _ _ => twin_logAll rest

theorem twin_session : KeywordTwin u id.unit (fun k₁ n m => (n, m) ∈ k₁.sessions) k
    (session { id with unit := u }) (session id) := by
  have asks : ∀ k₁, KeywordTwin u id.unit (fun k₂ n m => (n, m) ∈ k₂.sessions) k₁ (do
        let session ← KeywordProcedure.shared (.currentSession u)
        KeywordProcedure.perform (.attach (some session))
        return session : KeywordProcedure SessionId) (do
        let session ← KeywordProcedure.shared (.currentSession id.unit)
        KeywordProcedure.perform (.attach (some session))
        return session) := by
    intro k₁
    refine (keyword_shared .currentSession).bind fun k₂ n m _ pair => ?_
    exact (keyword_attach (.some pair)).bind fun k₃ _ _ later _ => keyword_pure fun _ later' =>
      later'.1 (later.1 pair)
  unfold session
  refine keyword_attached.bind fun k₁ _ _ _ attached => ?_
  cases attached with
  | none => exact asks k₁
  | some pair =>
    refine (keyword_shared (.isCurrent pair)).bind fun k₂ current _ later same => ?_
    obtain rfl := same
    cases current with
    | true => exact keyword_pure fun _ later' => later'.1 (later.1 pair)
    | false => exact asks k₂

theorem twin_browse (call : SessionCall) : KeywordTwin u id.unit EqualValues k
    (browse { id with unit := u } call) (browse id call) :=
  twin_session.bind fun _ _ _ _ pair => keyword_shared (.browse pair call)

theorem twin_capture (label caption : String) : KeywordTwin u id.unit (fun _ => Option.Rel TextAlike) k
    (capture { id with unit := u } label caption) (capture id label caption) := by
  refine (keyword_shared (.captureOnDemand label)).bind fun k₁ path path' _ alike => ?_
  have plain : ∀ {path path' : Option String}, Option.Rel TextAlike path path' →
      KeywordTwin u id.unit (fun _ => Option.Rel TextAlike) k₁ (pure path) (pure path') :=
    fun alike => keyword_pure fun _ _ => alike
  cases alike with
  | none => exact plain .none
  | @some path path' alike =>
    by_cases empty : path = ""
    · have empty' := alike.eq_empty_iff.1 empty
      subst empty empty'
      exact plain (.some alike)
    · have filled := alike.eq_empty_iff.not.1 empty
      dsimp only
      split
      · rename_i h; cases h
      · rename_i h; cases h; exact absurd rfl empty
      · rename_i h
        cases h
        refine keyword_solo (show KeywordSolo u id.unit (· = some path) _ from ?_)
          (show KeywordSolo u id.unit (· = some path') _ from ?_) fun _ _ _ _ ended ended' => ?_
        · exact solo_reportThen rfl (fun _ => rfl) fun _ => rfl
        · exact solo_reportThen rfl (fun _ => rfl) fun _ => rfl
        · rw [ended, ended']
          exact .some alike

theorem twin_visit (url : String) :
    KeywordTwin u id.unit EqualValues k (visit { id with unit := u } url) (visit id url) := by
  apply twin_guarded
  refine (twin_browse _).bind fun k₁ _ _ _ _ => twin_succeed.bind fun k₂ done _ _ same => ?_
  exact (twin_capture _ _).bind fun k₃ _ _ _ _ => keyword_pure fun _ _ => same

theorem twin_isInState (element : String) (state : ElementState) : KeywordTwin u id.unit EqualValues k
    (isInState { id with unit := u } element state) (isInState id element state) := by
  cases state with
  | visible => exact (twin_browse _).bind fun _ _ _ _ _ => keyword_pure fun _ _ => rfl
  | hidden => exact (twin_browse _).bind fun _ _ _ _ _ => keyword_pure fun _ _ => rfl
  | enabled => exact twin_browse (.isEnabled element)
  | disabled =>
    exact (twin_browse (.isEnabled element)).bind fun _ _ _ _ same => keyword_pure fun _ _ => congrArg (! ·) same
  | checked => exact twin_browse (.isChecked element)

variable (settings : Settings)

theorem twin_openBrowser : KeywordTwin u id.unit EqualValues k (openBrowser settings { id with unit := u })
    (openBrowser settings id) := by
  refine twin_announce.bind fun k₁ _ _ _ _ => ?_
  apply twin_guarded
  refine (keyword_shared (.openSession _)).bind fun k₂ n m _ pair => ?_
  exact (keyword_attach (.some pair)).bind fun _ _ _ _ _ => twin_succeed

theorem twin_closeBrowser : KeywordTwin u id.unit EqualValues k (closeBrowser { id with unit := u })
    (closeBrowser id) := by
  refine twin_announce.bind fun k₁ _ _ _ _ => ?_
  refine (keyword_shared .closeSession).attempt.bind fun k₂ r r' _ matched => ?_
  cases matched with
  | error _ alike => exact twin_refuse (alike.message.append_left _) true
  | ok _ => exact (keyword_attach .none).bind fun _ _ _ _ _ => twin_succeed

theorem twin_navigateTo : KeywordTwin u id.unit EqualValues k (navigateTo settings { id with unit := u })
    (navigateTo settings id) := by
  refine twin_announce.bind fun k₁ _ _ _ _ => ?_
  refine (twin_filled _).bind fun k₂ url _ _ same => ?_
  obtain rfl := same
  cases url with
  | some url => exact twin_visit url
  | none =>
    refine (twin_logAll _).bind fun k₃ _ _ _ _ => ?_
    split
    · exact twin_refuse (.same _) _
    · exact twin_refuse (.same _) _
    · exact twin_announce.bind fun _ _ _ _ _ => twin_visit _

theorem twin_click : KeywordTwin u id.unit EqualValues k (click { id with unit := u }) (click id) := by
  refine twin_announce.bind fun k₁ _ _ _ _ => ?_
  refine (twin_filled _).bind fun k₂ element _ _ same => ?_
  obtain rfl := same
  cases element with
  | none => exact twin_refuse (.same _) _
  | some element => exact twin_guarded _ _ ((twin_browse _).bind fun _ _ _ _ _ => twin_succeed)

theorem twin_typeText : KeywordTwin u id.unit EqualValues k (typeText { id with unit := u }) (typeText id) := by
  refine twin_announce.bind fun k₁ _ _ _ _ => ?_
  refine (twin_filled _).bind fun k₂ element _ _ same => ?_
  obtain rfl := same
  cases element with
  | none => exact twin_refuse (.same _) _
  | some element =>
    refine (keyword_inputText _).bind fun k₃ text _ _ same => ?_
    obtain rfl := same
    exact twin_guarded _ _ ((twin_browse _).bind fun _ _ _ _ _ => twin_succeed)

theorem twin_verifyElement : KeywordTwin u id.unit EqualValues k (verifyElement { id with unit := u })
    (verifyElement id) := by
  refine twin_announce.bind fun k₁ _ _ _ _ => ?_
  refine (twin_filled _).bind fun k₂ element _ _ same => ?_
  obtain rfl := same
  cases element with
  | none => exact twin_refuse (.same _) _
  | some element =>
    refine (twin_filled _).bind fun k₃ state _ _ same => ?_
    obtain rfl := same
    dsimp only
    split
    · exact twin_refuse (.same _) _
    · apply twin_guarded
      refine (twin_isInState _ _).bind fun k₄ holds _ _ same => ?_
      obtain rfl := same
      cases holds with
      | true => exact twin_succeed
      | false => exact twin_refuse (.same _) _

theorem twin_verifyTitle : KeywordTwin u id.unit EqualValues k (verifyTitle { id with unit := u })
    (verifyTitle id) := by
  refine twin_announce.bind fun k₁ _ _ _ _ => ?_
  refine (twin_filled _).bind fun k₂ expected _ _ same => ?_
  obtain rfl := same
  cases expected with
  | none => exact twin_refuse (.same _) _
  | some expected =>
    refine KeywordTwin.bind (KeywordTwin.attempt (twin_browse .title)) fun k₃ title _ _ matched => ?_
    cases matched with
    | error _ alike => exact twin_refuse (alike.message.append_left _) _
    | ok same =>
      obtain rfl := same
      dsimp only
      split
      · exact twin_succeed
      · exact twin_refuse (.same _) _

theorem twin_wait : KeywordTwin u id.unit EqualValues k (wait { id with unit := u }) (wait id) := by
  refine (twin_filled _).bind fun k₁ raw _ _ same => ?_
  obtain rfl := same
  dsimp only
  split
  · exact twin_refuse (.same _) _
  · split
    · exact twin_refuse (.same _) _
    · refine twin_announce.bind fun k₂ _ _ _ _ => ?_
      exact (keyword_shared (.sleep _)).bind fun _ _ _ _ _ => keyword_pure fun _ _ => rfl

theorem twin_takeScreenshot : KeywordTwin u id.unit EqualValues k (takeScreenshot { id with unit := u })
    (takeScreenshot id) := by
  refine (twin_filled _).bind fun k₁ name _ _ same => ?_
  obtain rfl := same
  refine (twin_capture _ _).bind fun k₂ path path' _ alike => ?_
  cases alike with
  | none => exact twin_refuse (.same _) _
  | some alike => exact (keyword_put _ (.text alike)).bind fun _ _ _ _ _ => keyword_pure fun _ _ => rfl

theorem isolated_of_isBuiltIn {e : KeywordEntry} (h : IsBuiltIn e.body) : e.Isolated := by
  obtain ⟨settings, d, hd, hbody⟩ := h
  intro id u k
  have equal : KeywordTwin u id.unit EqualValues k (e.body { id with unit := u }) (e.body id) := by
    simp only [provider, List.mem_cons, List.not_mem_nil, or_false] at hd
    rcases hd with rfl | rfl | rfl | rfl | rfl | rfl | rfl | rfl | rfl <;>
      rw [← Option.some.inj hbody]
    · exact twin_openBrowser settings
    · exact twin_closeBrowser
    · exact twin_navigateTo settings
    · exact twin_click
    · exact twin_typeText
    · exact twin_verifyElement
    · exact twin_verifyTitle
    · exact twin_wait
    · exact twin_takeScreenshot
  exact equal.mono (fun _ => trivial) fun _ _ _ _ same => congrArg Verdict.ofReturned same

end BrowserKeyword

end KeywordSuite
