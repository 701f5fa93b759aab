import KeywordSuite.Mail.Delivery
import KeywordSuite.Proofs.Host.Files
import KeywordSuite.Proofs.Report.Escaping
import KeywordSuite.Proofs.Suite.Agreement

/-!
# What sending a mail answers

Every call on a mail server is recorded with how it ended, which changes nothing else. What sending answers
is read off the record: the mail counts as sent if both the message and the farewell went through, and
otherwise the last fault decides whether sending answers at all.
-/

namespace KeywordSuite

/-- A call on a mail server, and how it ended. -/
structure MailExchange where
  call : MailCall
  ended : Except Fault Unit

namespace MailExchange

def fault? (e : MailExchange) : Option Fault := faultOf e.ended

def connects : MailExchange → Bool
  | ⟨.connect .., .ok ()⟩ => true
  | _ => false

def quits : MailExchange → Bool
  | ⟨.quit, _⟩ => true
  | _ => false

end MailExchange

/-! ## A host beside something else -/

namespace Host

variable {ε δ α β : Type}

def beside (h : Host ε) (x : δ) : Host (ε × δ) := ⟨h.origin, h.elapsed, h.files, h.log, (h.outer, x)⟩

def plain (h : Host (ε × δ)) : Host ε := ⟨h.origin, h.elapsed, h.files, h.log, h.outer.1⟩

@[simp] theorem files_beside (h : Host ε) (x : δ) : (h.beside x).files = h.files := rfl

@[simp] theorem localNow_beside (h : Host ε) (x : δ) : (h.beside x).localNow = h.localNow := rfl

@[simp] theorem epochSeconds_beside (h : Host ε) (x : δ) : (h.beside x).epochSeconds = h.epochSeconds := rfl

/-- The same host, beside `x`. -/
def Beside (x : δ) (h : Host (ε × δ)) (h' : Host ε) : Prop := h = h'.beside x

variable {x : δ}

theorem agree_logging (level : LogLevel) (message : String) :
    Act.Agree (Beside (ε := ε) x) (logging level message) (logging level message) := by
  rintro _ h rfl
  exact ⟨rfl, rfl⟩

theorem agree_get {f : Host (ε × δ) → Act (Host (ε × δ)) α} {g : Host ε → Act (Host ε) α}
    (same : ∀ h : Host ε, Act.Agree (Beside x) (f (h.beside x)) (g h)) : Act.Agree (Beside x) (get >>= f) (get >>= g) := by
  refine Act.agree_get ?_
  rintro _ h rfl
  exact same h

theorem agree_writeFile (path : FilePath) (content : FileContent) :
    Act.Agree (Beside (ε := ε) x) (writeFile path content) (writeFile path content) := by
  rintro _ h rfl
  rw [run_writeFile, run_writeFile]
  rw [files_beside, epochSeconds_beside]
  cases h.files.write path content h.epochSeconds <;> exact ⟨rfl, rfl⟩

theorem run_beside {p : Act (Host (ε × δ)) α} {q : Act (Host ε) α} (same : Act.Agree (Beside x) p q) (h : Host ε) :
    p.run (h.beside x) = ((q.run h).1, (q.run h).2.beside x) :=
  Prod.ext (same _ h rfl).1 (same _ h rfl).2

end Host

theorem Act.agree_mapM {σ τ α β : Type} {R : σ → τ → Prop} {f : α → Act σ β} {g : α → Act τ β}
    (same : ∀ a, Act.Agree R (f a) (g a)) : ∀ l : List α, Act.Agree R (l.mapM f) (l.mapM g)
  | [] => Act.agree_pure []
  | a :: l => by
    rw [List.mapM_cons, List.mapM_cons]
    exact (same a).bind fun _ => (Act.agree_mapM same l).bind fun _ => Act.agree_pure _

/-! ## Building a message -/

namespace MailAttachment

variable {ε δ : Type} (settings : Settings) {x : δ}

theorem agree_latestReport :
    Act.Agree (Host.Beside (ε := ε) x) (latestReport settings) (latestReport settings) := by
  refine Host.agree_get fun h => (Act.agree_ofExcept _).bind fun there => ?_
  split
  · exact (Host.agree_logging _ _).bind fun _ => Act.agree_pure none
  · rw [Host.files_beside]
    dsimp only
    split
    · exact (Host.agree_logging _ _).bind fun _ => Act.agree_pure none
    · exact Act.agree_pure _

theorem agree_archiveScreenshots :
    Act.Agree (Host.Beside (ε := ε) x) (archiveScreenshots settings) (archiveScreenshots settings) := by
  refine Host.agree_get fun h => ?_
  rw [Host.files_beside, Host.localNow_beside, Host.epochSeconds_beside]
  dsimp only
  split
  · exact Act.agree_throw _
  · exact (Host.agree_logging _ _).bind fun _ => Act.agree_pure none
  · exact Act.agree_throw _
  · split
    · exact (Host.agree_logging _ _).bind fun _ => Act.agree_pure none
    · exact (Host.agree_writeFile _ _).bind fun _ => (Host.agree_logging _ _).bind fun _ => Act.agree_pure _

theorem agree_ofFile (name : String) (path : FilePath) :
    Act.Agree (Host.Beside (ε := ε) x) (ofFile name path) (ofFile name path) := by
  refine Host.agree_get fun h => ?_
  rw [Host.files_beside]
  split
  · exact Act.agree_throw _
  · exact Act.agree_throw _
  · exact (Host.agree_logging _ _).bind fun _ => Act.agree_pure _

theorem agree_all : Act.Agree (Host.Beside (ε := ε) x) (all settings) (all settings) := by
  have attaches : ∀ (reports archives : String) (report archive : Option FilePath),
      Act.Agree (Host.Beside (ε := ε) x) (do
        let reports ← report.toList.mapM (ofFile reports)
        let archives ← archive.toList.mapM (ofFile archives)
        return reports ++ archives) (do
        let reports ← report.toList.mapM (ofFile reports)
        let archives ← archive.toList.mapM (ofFile archives)
        return reports ++ archives) := fun _ _ _ _ =>
    (Act.agree_mapM (agree_ofFile _) _).bind fun _ => (Act.agree_mapM (agree_ofFile _) _).bind fun _ => Act.agree_pure _
  refine Host.agree_get fun h => (agree_latestReport settings).bind fun report => ?_
  refine (agree_archiveScreenshots settings).attempt.bind fun made => ?_
  cases made with
  | ok archive => exact attaches _ _ report archive
  | error fault =>
    dsimp only
    split
    · exact (Host.agree_logging _ _).bind fun _ => attaches _ _ report none
    · exact (Act.agree_throw fault).bind fun archive => attaches _ _ report archive

end MailAttachment

namespace MailReporter

variable {ε δ : Type} (settings : Settings) {x : δ} (r : MailReporter) (s : SuiteSummary)

theorem agree_message : Act.Agree (Host.Beside (ε := ε) x) (message settings r s) (message settings r s) :=
  Host.agree_get fun h => (Act.agree_ofExcept _).bind fun _ => (MailAttachment.agree_all settings).bind fun _ => by
    rw [Host.localNow_beside]
    exact Act.agree_pure _

end MailReporter

/-! ## Calls on a recorded server -/

/-- Beside a record, the same action; the calls it adds to the record are of a kind that goes with its outcome. -/
def Records {ε α : Type} (told : List MailExchange → Except Fault α → Prop)
    (p : Act (Host (ε × List MailExchange)) α) (q : Act (Host ε) α) : Prop :=
  ∀ (h : Host ε) (calls : List MailExchange), ∃ more,
    p.run (h.beside calls) = ((q.run h).1, (q.run h).2.beside (calls ++ more)) ∧ told more (q.run h).1

/-- The calls of two actions, one after the other, of which the second is left out if the first fails. -/
inductive Onward {α β : Type} (told : List MailExchange → Except Fault α → Prop)
    (next : α → List MailExchange → Except Fault β → Prop) : List MailExchange → Except Fault β → Prop
  | broken {calls : List MailExchange} {fault : Fault} : told calls (.error fault) → Onward told next calls (.error fault)
  | went {calls more : List MailExchange} {a : α} {r : Except Fault β} :
      told calls (.ok a) → next a more r → Onward told next (calls ++ more) r

section

variable {ε α β : Type} {told : List MailExchange → Except Fault α → Prop}
  {next : α → List MailExchange → Except Fault β → Prop} {p : Act (Host (ε × List MailExchange)) α} {q : Act (Host ε) α}

theorem Records.mono {other : List MailExchange → Except Fault α → Prop} (h : Records told p q)
    (weaker : ∀ calls r, told calls r → other calls r) : Records other p q := by
  intro host calls
  obtain ⟨more, same, added⟩ := h host calls
  exact ⟨more, same, weaker _ _ added⟩

theorem Records.bind {f : α → Act (Host (ε × List MailExchange)) β} {g : α → Act (Host ε) β} (first : Records told p q)
    (rest : ∀ a, Records (next a) (f a) (g a)) : Records (Onward told next) (p >>= f) (q >>= g) := by
  intro h calls
  obtain ⟨more, same, added⟩ := first h calls
  rw [Act.run_bind, Act.run_bind, same]
  rcases hq : q.run h with ⟨fault | a, h'⟩ <;> rw [hq] at added
  · exact ⟨more, rfl, .broken added⟩
  · obtain ⟨others, same, then_added⟩ := rest a h' (calls ++ more)
    exact ⟨more ++ others, by rw [← List.append_assoc]; exact same, .went added then_added⟩

theorem Records.outcome (h : Records told p q) :
    Records (fun calls r => ∃ said, told calls said ∧ r = .ok said) p.outcome q.outcome := by
  intro host calls
  obtain ⟨more, same, added⟩ := h host calls
  refine ⟨more, ?_, _, added, rfl⟩
  rw [Act.run_outcome, Act.run_outcome, same]

theorem records_ofExcept (r : Except Fault α) :
    Records (ε := ε) (fun calls r' => calls = [] ∧ r' = r) (Act.ofExcept r) (Act.ofExcept r) := by
  intro h calls
  refine ⟨[], ?_, rfl, by rw [Act.run_ofExcept]⟩
  rw [Act.run_ofExcept, Act.run_ofExcept, List.append_nil]

end

/-- Calls one after another, up to the first that fails. -/
inductive InTurn : List MailCall → List MailExchange → Except Fault Unit → Prop
  | done : InTurn [] [] (.ok ())
  | stopped (call : MailCall) (rest : List MailCall) (fault : Fault) :
      InTurn (call :: rest) [⟨call, .error fault⟩] (.error fault)
  | passed (call : MailCall) {rest : List MailCall} {calls : List MailExchange} {r : Except Fault Unit} :
      InTurn rest calls r → InTurn (call :: rest) (⟨call, .ok ()⟩ :: calls) r

namespace MailServer

variable {ε : Type} (server : MailServer ε)

/-- The same server, with a record of every call on it. -/
def recorded : MailServer (ε × List MailExchange) := fun call => Act.make fun h =>
  let (r, after) := (server call).run h.plain
  (r, after.beside (h.outer.2 ++ [⟨call, r⟩]))

def inTurn : List MailCall → Act (Host ε) Unit
  | [] => pure ()
  | call :: rest => do server call; inTurn rest

theorem records_call (call : MailCall) :
    Records (fun calls r => calls = [⟨call, r⟩]) (server.recorded call) (server call) :=
  fun _ _ => ⟨_, rfl, rfl⟩

theorem records_inTurn : ∀ plan : List MailCall, Records (InTurn plan) (server.recorded.inTurn plan) (server.inTurn plan)
  | [] => fun h calls => ⟨[], by rw [List.append_nil]; rfl, .done⟩
  | call :: rest => by
    refine ((server.records_call call).bind fun _ => records_inTurn rest).mono fun calls r told => ?_
    cases told with
    | broken failed => exact failed ▸ .stopped call rest _
    | went passed told => exact passed ▸ .passed call told

end MailServer

namespace InTurn

variable {plan : List MailCall} {calls : List MailExchange} {r : Except Fault Unit}

theorem map_call (h : InTurn plan calls r) : calls.map (·.call) <+: plan := by
  induction h with
  | done => exact List.prefix_rfl
  | stopped call rest fault => exact ⟨rest, rfl⟩
  | passed call _ ih => exact (List.prefix_cons_inj call).2 ih

/-- At most the last call fails, and its fault is the one that counts. -/
theorem filterMap_fault? (h : InTurn plan calls r) : calls.filterMap MailExchange.fault? = (faultOf r).toList := by
  induction h with
  | done => rfl
  | stopped call rest fault => rfl
  | passed call _ ih => exact ih

theorem mem_of_ok (h : InTurn plan calls r) (ended : r = .ok ()) : ∀ call ∈ plan, ⟨call, .ok ()⟩ ∈ calls := by
  induction h with
  | done => exact fun _ held => absurd held List.not_mem_nil
  | stopped call rest fault => cases ended
  | passed call _ ih =>
    intro other held
    rcases List.mem_cons.1 held with rfl | held
    · exact List.mem_cons_self ..
    · exact List.mem_cons_of_mem _ (ih ended other held)

/-- Once the last call went through, all of them did. -/
theorem ok_of_last {last : MailCall} : ∀ {before : List MailCall} {calls : List MailExchange} {r : Except Fault Unit},
    last ∉ before → InTurn (before ++ [last]) calls r → ⟨last, .ok ()⟩ ∈ calls → r = .ok ()
  | [], _, _, _, .stopped _ _ fault, held => by cases List.mem_singleton.1 held
  | [], _, _, _, .passed _ .done, _ => rfl
  | call :: before, _, _, other, .stopped _ _ fault, held => by cases List.mem_singleton.1 held
  | call :: before, _, _, other, .passed _ rest, held => by
    rcases List.mem_cons.1 held with same | held
    · cases same
      exact absurd (List.mem_cons_self ..) other
    · exact ok_of_last (fun inside => other (List.mem_cons_of_mem _ inside)) rest held

end InTurn

/-! ## Handing a message over -/

namespace MailReporter

variable {ε : Type} (settings : Settings) (server : MailServer ε) (m : MailMessage)

/-- What is said before a message. -/
def greeting : List MailCall :=
  (if settings.smtpUseTls then [.startTls] else []) ++
    if settings.smtpUsername ≠ "" then [.login settings.smtpUsername settings.smtpPassword] else []

theorem converse_eq : converse settings server m = server.inTurn (greeting settings ++ [.send m]) := by
  unfold converse greeting
  cases settings.smtpUseTls <;> by_cases named : settings.smtpUsername ≠ "" <;> simp [named, MailServer.inTurn]

/-- The calls of handing a message over, and what that comes to. -/
inductive Transmits : List MailExchange → Except Fault Unit → Prop
  | unreachable (fault : Fault) :
      Transmits [⟨.connect settings.smtpHost settings.smtpPort 60, .error fault⟩] (.error fault)
  | parted {calls : List MailExchange} {said : Except Fault Unit} (parting : Except Fault Unit) :
      InTurn (greeting settings ++ [.send m]) calls said →
      Transmits (⟨.connect settings.smtpHost settings.smtpPort 60, .ok ()⟩ :: (calls ++ [⟨.quit, parting⟩]))
        (parting >>= fun _ => said)

theorem records_transmit :
    Records (Transmits settings m) (transmit settings server.recorded m) (transmit settings server m) := by
  have converses : Records (InTurn (greeting settings ++ [.send m])) (converse settings server.recorded m)
      (converse settings server m) := by
    rw [converse_eq, converse_eq]
    exact server.records_inTurn _
  refine ((server.records_call _).bind fun _ => converses.outcome.bind fun said =>
    (server.records_call .quit).bind fun _ => records_ofExcept said).mono fun calls r told => ?_
  cases told with
  | broken failed => exact failed ▸ .unreachable _
  | went connected told =>
    subst connected
    cases told with
    | broken failed => obtain ⟨_, _, none⟩ := failed; cases none
    | went spoke told =>
      obtain ⟨said, spoke, same⟩ := spoke
      cases same
      cases told with
      | broken failed => exact failed ▸ .parted _ spoke
      | went parted told =>
        obtain ⟨rfl, rfl⟩ := told
        subst parted
        rw [List.append_nil]
        exact .parted (.ok ()) spoke

section

variable {settings m} {calls : List MailExchange} {said r : Except Fault Unit}

theorem isStage_of_mem (h : InTurn (greeting settings ++ [.send m]) calls said) {e : MailExchange} (held : e ∈ calls) :
    (∀ m', e.call = .send m' → m' = m) ∧ e.connects = false ∧ e.quits = false := by
  have planned : e.call ∈ greeting settings ++ [.send m] := h.map_call.subset (List.mem_map_of_mem held)
  obtain ⟨call, ended⟩ := e
  dsimp only at planned ⊢
  rcases List.mem_append.1 planned with before | last
  · unfold greeting at before
    rcases List.mem_append.1 before with first | second
    · split at first <;> simp_all [MailExchange.connects, MailExchange.quits]
    · split at second <;> simp_all [MailExchange.connects, MailExchange.quits]
  · cases List.mem_singleton.1 last
    exact ⟨fun m' same => (MailCall.send.inj same).symm, rfl, rfl⟩

/-- The connection is given up as often as it is made. -/
theorem Transmits.quits_eq (h : Transmits settings m calls r) :
    calls.countP MailExchange.quits = calls.countP MailExchange.connects ∧ calls.countP MailExchange.connects ≤ 1 := by
  cases h with
  | unreachable fault => exact ⟨rfl, Nat.zero_le 1⟩
  | @parted said_calls said parting spoke =>
    have none_connects : said_calls.countP MailExchange.connects = 0 :=
      List.countP_eq_zero.2 fun e held => by simp [(isStage_of_mem spoke held).2.1]
    have none_quits : said_calls.countP MailExchange.quits = 0 :=
      List.countP_eq_zero.2 fun e held => by simp [(isStage_of_mem spoke held).2.2]
    rw [List.countP_cons, List.countP_cons, List.countP_append, List.countP_append, none_connects, none_quits]
    exact ⟨rfl, Nat.le_refl 1⟩

theorem Transmits.eq_of_send (h : Transmits settings m calls r) {m' : MailMessage} {ended : Except Fault Unit}
    (held : ⟨.send m', ended⟩ ∈ calls) : m' = m := by
  cases h with
  | unreachable fault => cases List.mem_singleton.1 held
  | parted parting spoke =>
    rcases List.mem_cons.1 held with first | rest
    · cases first
    · rcases List.mem_append.1 rest with said | last
      · exact (isStage_of_mem spoke said).1 m' rfl
      · cases List.mem_singleton.1 last

/-- The last fault counts. -/
theorem Transmits.last_fault (h : Transmits settings m calls r) :
    (calls.filterMap MailExchange.fault?).getLast? = faultOf r := by
  cases h with
  | unreachable fault => rfl
  | @parted _ said parting spoke =>
    have through : MailExchange.fault? ⟨.connect settings.smtpHost settings.smtpPort 60, .ok ()⟩ = none := rfl
    rw [List.filterMap_cons_none through, List.filterMap_append, spoke.filterMap_fault?]
    cases parting with
    | ok _ => cases said <;> rfl
    | error fault => cases said <;> rfl

/-- Once a message was sent, the connection is given up. -/
theorem Transmits.quit_mem (h : Transmits settings m calls r) {m' : MailMessage}
    (held : ⟨.send m', .ok ()⟩ ∈ calls) : ∃ ended, ⟨.quit, ended⟩ ∈ calls := by
  cases h with
  | unreachable fault => cases List.mem_singleton.1 held
  | parted parting _ =>
    exact ⟨parting, List.mem_cons_of_mem _ (List.mem_append_right _ (List.mem_singleton_self _))⟩

theorem Transmits.ok_iff (h : Transmits settings m calls r) :
    r = .ok () ↔ ⟨.quit, .ok ()⟩ ∈ calls ∧ ∃ m', ⟨.send m', .ok ()⟩ ∈ calls := by
  constructor
  · intro ended
    cases h with
    | unreachable fault => cases ended
    | @parted _ said parting spoke =>
      cases parting with
      | error fault => cases ended
      | ok _ =>
        have sent := spoke.mem_of_ok ended (.send m) (List.mem_append_right _ (List.mem_singleton_self _))
        exact ⟨List.mem_cons_of_mem _ (List.mem_append_right _ (List.mem_singleton_self _)), m,
          List.mem_cons_of_mem _ (List.mem_append_left _ sent)⟩
  · rintro ⟨quit, m', sent⟩
    obtain rfl := h.eq_of_send sent
    cases h with
    | unreachable fault => cases List.mem_singleton.1 sent
    | @parted said_calls said parting spoke =>
      -- no stage before the end is a farewell, so the one that went through is the last call
      have parted_well : parting = .ok () := by
        rcases List.mem_cons.1 quit with first | rest
        · cases first
        · rcases List.mem_append.1 rest with spoken | last
          · exact absurd (isStage_of_mem spoke spoken).2.2 Bool.noConfusion
          · cases List.mem_singleton.1 last
            rfl
      have sent_inside : ⟨.send m', .ok ()⟩ ∈ said_calls := by
        rcases List.mem_cons.1 sent with first | rest
        · cases first
        · rcases List.mem_append.1 rest with spoken | last
          · exact spoken
          · cases List.mem_singleton.1 last
      have before : MailCall.send m' ∉ greeting settings := by
        unfold greeting
        cases settings.smtpUseTls <;> by_cases named : settings.smtpUsername ≠ "" <;> simp [named]
      rw [parted_well, spoke.ok_of_last before sent_inside]
      rfl

end

/-! ## What sending answers -/

def noRecipients : Fault := .suite (.delivery "smtp" none) "No email recipients configured" none [] none

/-- Faults of sending that are only logged. -/
def onlyLogged : Fault → Bool
  | .suite (.delivery ..) .. => true
  | fault => fault.isSystem || fault.isValue

/-- The answer, given the fault that counts, if any. -/
def answer : Option Fault → Except Fault Bool
  | none => .ok true
  | some fault => if onlyLogged fault then .ok false else .error fault

/-- The fault that counts: of building the message, of having nobody to send it to, or else the last on the server. -/
def decisive (built : Except Fault MailMessage) (calls : List MailExchange) : Option Fault :=
  match built with
  | .error fault => some fault
  | .ok _ => if settings.emailRecipients.isEmpty then some noRecipients else (calls.filterMap MailExchange.fault?).getLast?

/-- What is delivered, and what that comes to. -/
inductive Delivers : List MailExchange → Except Fault Unit → Prop
  | nobody : settings.emailRecipients.isEmpty = true → Delivers [] (.error noRecipients)
  | handed {calls : List MailExchange} {r r' : Except Fault Unit} : settings.emailRecipients.isEmpty = false →
      Transmits settings m calls r → answer (faultOf r') = answer (faultOf r) → Delivers calls r'

/-- What becomes of the outcome of handing a message over. -/
def handed (attempted : Except Fault Unit) : Except Fault Unit :=
  attempted.mapError fun fault =>
    if fault.isSystem then .suite (.delivery "smtp" (some settings.emailRecipients))
      ("Failed to send email report: " ++ fault.message) none [] (some fault)
    else fault

theorem answer_handed (r : Except Fault Unit) : answer (faultOf (handed settings r)) = answer (faultOf r) := by
  cases r with
  | ok _ => rfl
  | error fault =>
    by_cases system : fault.isSystem = true
    · have logged : onlyLogged fault = true := by
        cases fault with
        | plain kind message => exact Bool.or_eq_true_iff.2 (.inl system)
        | _ => cases system
      rw [handed, Except.mapError, if_pos system, faultOf, faultOf, answer, answer, if_pos logged]
      rfl
    · rw [handed, Except.mapError, if_neg system]

theorem run_deliver (h : Host ε) : (deliver settings server m).run h =
    if settings.emailRecipients.isEmpty then (.error noRecipients, h)
    else (handed settings ((transmit settings server m).run h).1, ((transmit settings server m).run h).2) := by
  unfold deliver
  dsimp only
  split
  · rfl
  · rw [Act.run_bind, Act.run_attempt]
    rcases (transmit settings server m).run h with ⟨fault | u, h'⟩
    · cases interrupt : fault.isInterrupt with
      | true =>
        cases fault with
        | interrupt message => rfl
        | _ => cases interrupt
      | false =>
        rw [settled, interrupt, if_neg Bool.false_ne_true, handed, Except.mapError]
        dsimp only
        split <;> rfl
    · rfl

theorem records_deliver :
    Records (Delivers settings m) (deliver settings server.recorded m) (deliver settings server m) := by
  intro h calls
  rw [run_deliver, run_deliver]
  cases nobody : settings.emailRecipients.isEmpty with
  | true => exact ⟨[], by rw [List.append_nil]; rfl, .nobody nobody⟩
  | false =>
    obtain ⟨more, same, told⟩ := records_transmit settings server m h calls
    refine ⟨more, ?_, .handed nobody told (answer_handed settings _)⟩
    rw [same]
    rfl

theorem answer_of_delivers {calls : List MailExchange} {r : Except Fault Unit} (h : Delivers settings m calls r) :
    answer (faultOf r) = answer (decisive settings (.ok m) calls) := by
  unfold decisive
  cases h with
  | nobody nobody => rw [if_pos nobody]; rfl
  | handed somebody told same =>
    dsimp only
    rw [somebody, if_neg Bool.noConfusion, told.last_fault, same]

/-- What is said of the outcome of building and delivering a message. -/
def verdict (sent : Except Fault Unit) : Act (Host ε) Bool :=
  match sent with
  | .ok _ => do
    Host.logging .info
      ("Email report sent successfully to: " ++ ", ".intercalate settings.emailRecipients)
    return true
  | .error fault =>
    match fault with
    | .suite (.delivery ..) .. => do
      Host.logging .error fault.message
      return false
    | _ => do
      if fault.isSystem || fault.isValue then
        Host.logging .error ("Error preparing email report: " ++ fault.message)
        return false
      else throw fault

variable (r : MailReporter) (s : SuiteSummary)

/-- Building a message, and delivering it. -/
def sending : Act (Host ε) Unit := do deliver settings server (← message settings r s)

theorem send_eq : send settings server r s = (do
    Host.logging .info "Preparing to send email report"
    verdict settings (← (sending settings server r s).attempt)) := rfl

theorem run_verdict (sent : Except Fault Unit) (h : Host ε) : ((verdict settings sent).run h).1 = answer (faultOf sent) := by
  cases sent with
  | ok _ => rfl
  | error fault =>
    unfold verdict
    dsimp only
    split
    · rfl
    · rename_i other
      have logged : onlyLogged fault = (fault.isSystem || fault.isValue) := by
        unfold onlyLogged
        split
        · exact absurd rfl (other _ _ _ _ _ _)
        · rfl
      rw [faultOf, answer, logged]
      split <;> rfl

theorem agree_verdict {δ : Type} {x : δ} (sent : Except Fault Unit) :
    Act.Agree (Host.Beside (ε := ε) x) (verdict settings sent) (verdict settings sent) := by
  cases sent with
  | ok _ => exact (Host.agree_logging _ _).bind fun _ => Act.agree_pure _
  | error fault =>
    unfold verdict
    dsimp only
    split
    · exact (Host.agree_logging _ _).bind fun _ => Act.agree_pure _
    · split
      · exact (Host.agree_logging _ _).bind fun _ => Act.agree_pure _
      · exact Act.agree_throw _

/-- The message of a summary, as it comes out on a host. -/
def built (h : Host ε) : Except Fault MailMessage :=
  ((message settings r s).run (h.note .info "Preparing to send email report")).1

/-- The calls of building and delivering a message. -/
inductive Sends (built : Except Fault MailMessage) : List MailExchange → Prop
  | unwritten {fault : Fault} : built = .error fault → Sends built []
  | written {m : MailMessage} {calls : List MailExchange} {r : Except Fault Unit} :
      built = .ok m → Delivers settings m calls r → Sends built calls

theorem records_sending (h : Host ε) (before : List MailExchange) : ∃ calls,
    (sending settings server.recorded r s).run ((h.note .info "Preparing to send email report").beside before) =
      (((sending settings server r s).run (h.note .info "Preparing to send email report")).1,
        ((sending settings server r s).run (h.note .info "Preparing to send email report")).2.beside (before ++ calls)) ∧
    answer (faultOf ((sending settings server r s).run (h.note .info "Preparing to send email report")).1) =
      answer (decisive settings (built settings r s h) calls) ∧
    Sends settings (built settings r s h) calls := by
  unfold sending
  rw [Act.run_bind, Act.run_bind, Host.run_beside (agree_message settings r s)]
  unfold built
  rcases (message settings r s).run (h.note .info "Preparing to send email report") with ⟨fault | m, h'⟩
  · exact ⟨[], by rw [List.append_nil], rfl, .unwritten rfl⟩
  · obtain ⟨calls, same, told⟩ := records_deliver settings server m h' before
    exact ⟨calls, same, answer_of_delivers settings m told, .written rfl told⟩

theorem run_send (h : Host ε) : (send settings server r s).run h =
    let sent := (sending settings server r s).run (h.note .info "Preparing to send email report")
    match settled sent.1 with
    | .ok outcome => (verdict settings outcome).run sent.2
    | .error fault => (.error fault, sent.2) := by
  rw [send_eq, Host.logging, Act.run_bind, Act.run_modify]
  dsimp only
  rw [Act.run_bind, Act.run_attempt]
  rcases settled ((sending settings server r s).run (h.note .info "Preparing to send email report")).1 with _ | _ <;> rfl

theorem records_send (h : Host ε) (before : List MailExchange) : ∃ calls,
    (send settings server.recorded r s).run (h.beside before) =
      (((send settings server r s).run h).1, ((send settings server r s).run h).2.beside (before ++ calls)) ∧
    ((send settings server r s).run h).1 = answer (decisive settings (built settings r s h) calls) ∧
    Sends settings (built settings r s h) calls := by
  obtain ⟨calls, same, counts, told⟩ := records_sending settings server r s h before
  refine ⟨calls, ?_, ?_, told⟩
  · rw [run_send, run_send]
    dsimp only
    have noted : (h.beside before).note .info "Preparing to send email report" =
      (h.note .info "Preparing to send email report").beside before := rfl
    rw [noted, same]
    rcases settled ((sending settings server r s).run (h.note .info "Preparing to send email report")).1 with fault | outcome
    · rfl
    · exact Host.run_beside (agree_verdict settings outcome) _
  · rw [run_send, ← counts]
    dsimp only
    generalize (sending settings server r s).run (h.note .info "Preparing to send email report") = sent
    obtain ⟨outcome, h'⟩ := sent
    cases outcome with
    | ok _ => rfl
    | error fault =>
      cases interrupt : fault.isInterrupt with
      | true =>
        cases fault with
        | interrupt message => rfl
        | _ => cases interrupt
      | false =>
        rw [settled, interrupt, if_neg Bool.false_ne_true]
        exact run_verdict settings (.error fault) h'

/-! ## The record of sending -/

variable {settings} {made : Except Fault MailMessage} {calls : List MailExchange}

theorem Sends.quits_eq (h : Sends settings made calls) :
    calls.countP MailExchange.quits = calls.countP MailExchange.connects ∧ calls.countP MailExchange.connects ≤ 1 := by
  cases h with
  | unwritten _ => exact ⟨rfl, Nat.zero_le 1⟩
  | written _ told =>
    cases told with
    | nobody _ => exact ⟨rfl, Nat.zero_le 1⟩
    | handed _ told _ => exact told.quits_eq

theorem Sends.eq_of_send (h : Sends settings made calls) {m : MailMessage} {ended : Except Fault Unit}
    (held : ⟨.send m, ended⟩ ∈ calls) : made = .ok m := by
  cases h with
  | unwritten _ => cases held
  | written written told =>
    cases told with
    | nobody _ => cases held
    | handed _ told _ => rw [told.eq_of_send held, written]

theorem Sends.quit_mem (h : Sends settings made calls) {m : MailMessage} (held : ⟨.send m, .ok ()⟩ ∈ calls) :
    ∃ ended, ⟨.quit, ended⟩ ∈ calls := by
  cases h with
  | unwritten _ => cases held
  | written _ told =>
    cases told with
    | nobody _ => cases held
    | handed _ told _ => exact told.quit_mem held

theorem answer_eq_ok {found : Option Fault} {sent : Bool} : answer found = .ok sent ↔
    (found = none ∧ sent = true) ∨ ∃ fault, found = some fault ∧ onlyLogged fault = true ∧ sent = false := by
  cases found with
  | none => cases sent <;> simp [answer]
  | some fault => cases logged : onlyLogged fault <;> cases sent <;> simp [answer, logged]

theorem answer_eq_error {found : Option Fault} {fault : Fault} :
    answer found = .error fault ↔ found = some fault ∧ onlyLogged fault = false := by
  cases found with
  | none => simp [answer]
  | some other =>
    cases logged : onlyLogged other
    · constructor
      · intro ended
        rw [answer, logged, if_neg Bool.false_ne_true] at ended
        cases ended
        exact ⟨rfl, logged⟩
      · rintro ⟨same, -⟩
        cases same
        rw [answer, logged, if_neg Bool.false_ne_true]
    · constructor
      · intro ended
        rw [answer, logged, if_pos rfl] at ended
        cases ended
      · rintro ⟨same, unlogged⟩
        cases same
        rw [logged] at unlogged
        cases unlogged

theorem Sends.decisive_eq_none (h : Sends settings made calls) : decisive settings made calls = none ↔
    ⟨.quit, .ok ()⟩ ∈ calls ∧ ∃ m, ⟨.send m, .ok ()⟩ ∈ calls := by
  cases h with
  | unwritten failed => simp [decisive, failed]
  | written written told =>
    cases told with
    | nobody nobody => simp [decisive, written, nobody]
    | @handed _ r _ somebody told _ =>
      unfold decisive
      rw [written, ← told.ok_iff]
      dsimp only
      rw [somebody, if_neg Bool.false_ne_true, told.last_fault]
      cases r <;> simp [faultOf]

/-- A mail is reported as sent exactly if the message and the farewell both went through. -/
theorem send_answers (h : Host ε) :
    let run := (send settings server.recorded r s).run (h.beside [])
    let calls := run.2.outer.2
    let counts := decisive settings (built settings r s h) calls
    (send settings server r s).run h = (run.1, run.2.plain) ∧
    (run.1 = .ok true ↔ ⟨.quit, .ok ()⟩ ∈ calls ∧ ∃ m, ⟨.send m, .ok ()⟩ ∈ calls) ∧
    (run.1 = .ok false ↔ ∃ fault, counts = some fault ∧ onlyLogged fault = true) ∧
    (∀ fault, run.1 = .error fault ↔ counts = some fault ∧ onlyLogged fault = false) ∧
    (∀ m, ⟨.send m, .ok ()⟩ ∈ calls → run.1 = .ok true ∨ ∃ fault, ⟨.quit, .error fault⟩ ∈ calls) ∧
    (∀ m ended, ⟨.send m, ended⟩ ∈ calls → built settings r s h = .ok m) ∧
    calls.countP MailExchange.quits = calls.countP MailExchange.connects ∧ calls.countP MailExchange.connects ≤ 1 := by
  obtain ⟨calls, same, counts, told⟩ := records_send settings server r s h []
  -- the answer comes from the fault that counts, and the calls say which fault that is
  have sent_iff : ((send settings server r s).run h).1 = .ok true ↔
      ⟨.quit, .ok ()⟩ ∈ calls ∧ ∃ m, ⟨.send m, .ok ()⟩ ∈ calls := by
    rw [counts, answer_eq_ok, ← told.decisive_eq_none]
    simp
  have denied_iff : ((send settings server r s).run h).1 = .ok false ↔
      ∃ fault, decisive settings (built settings r s h) calls = some fault ∧ onlyLogged fault = true := by
    rw [counts, answer_eq_ok]
    simp
  have raised_iff (fault : Fault) : ((send settings server r s).run h).1 = .error fault ↔
      decisive settings (built settings r s h) calls = some fault ∧ onlyLogged fault = false := by
    rw [counts, answer_eq_error]
  dsimp only
  rw [same, List.nil_append]
  refine ⟨rfl, sent_iff, denied_iff, raised_iff, ?_, fun m ended held => told.eq_of_send held, told.quits_eq.1,
    told.quits_eq.2⟩
  · intro m held
    obtain ⟨ended, quit⟩ := told.quit_mem held
    cases ended with
    | ok _ => exact .inl (sent_iff.2 ⟨quit, m, held⟩)
    | error fault => exact .inr ⟨fault, quit⟩

end MailReporter

/-! ## A mail that went out and is denied -/

namespace MailAttachment

variable {ε : Type} {settings : Settings} {h : Host ε}

/-- Without the directories of reports and screenshots nothing is attached. -/
theorem run_all_of_missing (reports : h.files.find settings.reportsDir = .error .missing)
    (shots : h.files.find settings.screenshotsDir = .error .missing) : ((all settings).run h).1 = .ok [] := by
  have latest : (latestReport settings).run h =
      (.ok none, h.note .warning ("Reports directory not found: " ++ settings.reportsDir.text)) := by
    have nothing : h.files.isThere settings.reportsDir = .ok false := by rw [Files.isThere, reports]
    unfold latestReport
    rw [Act.run_bind, Act.run_get]
    dsimp only
    rw [nothing]
    rfl
  have archive (noted : Host ε) (same : noted.files = h.files) : (archiveScreenshots settings).run noted =
      (.ok none, noted.note .warning ("Screenshots directory not found: " ++ settings.screenshotsDir.text)) := by
    unfold archiveScreenshots
    rw [Act.run_bind, Act.run_get]
    dsimp only
    rw [same, shots]
    rfl
  unfold all
  rw [Act.run_bind, Act.run_get]
  dsimp only
  rw [Act.run_bind, latest]
  dsimp only
  rw [Act.run_bind, Act.run_attempt, archive (h.note _ _) rfl]
  rfl

end MailAttachment

/-- A server that takes whatever it is handed. -/
def MailServer.willing {ε : Type} : MailServer ε := fun _ => return

namespace MailReporter

/-- A new host has neither of the directories that reports and screenshots go to by default. -/
theorem find_missing : (Files.empty []).find (.ofText "reports") = .error .missing ∧
    (Files.empty []).find (.ofText "reports/screenshots") = .error .missing := by
  have reports : (Files.empty []).locate (.ofText "reports") = .ok ["reports"] := by
    rw [Files.locate_eq (by decide) (by decide)]
    decide +kernel
  have shots : (Files.empty []).locate (.ofText "reports/screenshots") = .error .missing := by
    rw [Files.locate_eq (by decide) (by decide)]
    decide +kernel
  constructor
  · rw [Files.find, reports]
    rfl
  · rw [Files.find, shots]
    rfl

theorem find_defaults : ∃ settings, Settings.read [("email_recipients", .list [.text "qa@example.com"])] = .valid settings ∧
    settings.emailRecipients = ["qa@example.com"] ∧ settings.smtpUsername = "" ∧ settings.smtpUseTls = true ∧
    (Files.empty []).find settings.reportsDir = .error .missing ∧
    (Files.empty []).find settings.screenshotsDir = .error .missing :=
  ⟨_, rfl, by decide +kernel, rfl, rfl, find_missing.1, find_missing.2⟩

/-- A server that fails at one stage only. -/
def failingAt (stage : String) (fault : Fault) : MailServer Unit := fun call =>
  if call.stage = stage then throw fault else pure ()

theorem exists_message {ε : Type} {settings : Settings} {h : Host ε} {r : MailReporter} {s : SuiteSummary}
    (reports : h.files.find settings.reportsDir = .error .missing)
    (shots : h.files.find settings.screenshotsDir = .error .missing)
    (shows : ∃ page, bodyFor settings r s h.localNow = .ok page) : ∃ m h', (message settings r s).run h = (.ok m, h') := by
  obtain ⟨page, body⟩ := shows
  unfold message
  rw [Act.run_bind, Act.run_get]
  dsimp only
  rw [Act.run_bind, body]
  have attached := MailAttachment.run_all_of_missing reports shots
  change ∃ m h', Act.run (MailAttachment.all settings >>= fun attachments => pure _) h = (.ok m, h')
  rw [Act.run_bind]
  rcases ran : (MailAttachment.all settings).run h with ⟨_ | files, h'⟩ <;> rw [ran] at attached <;> cases attached
  exact ⟨_, h', rfl⟩

section

variable {ε : Type} (settings : Settings)

theorem run_converse_willing (m : MailMessage) (h : Host ε) : (converse settings .willing m).run h = (.ok (), h) := by
  unfold converse
  split <;> split <;> rfl

theorem run_transmit_willing (m : MailMessage) (h : Host ε) : (transmit settings .willing m).run h = (.ok (), h) := by
  unfold transmit
  rw [Act.run_bind]
  change Act.run ((converse settings .willing m).outcome >>= _) h = _
  rw [Act.run_bind, Act.run_outcome, run_converse_willing]
  rfl

variable {settings} {r : MailReporter} {s : SuiteSummary} {h h' : Host ε} {m : MailMessage}

/-- A message that can be built is sent over a server that takes whatever it is handed. -/
theorem exists_sent (recipients : settings.emailRecipients.isEmpty = false)
    (written : (message settings r s).run (h.note .info "Preparing to send email report") = (.ok m, h'))
    (before : List MailExchange) : ∃ (calls : List MailExchange) (left : Host ε) (m' : MailMessage),
      (send settings (MailServer.recorded .willing) r s).run (h.beside before) = (.ok true, left.beside (before ++ calls)) ∧
        ⟨.send m', .ok ()⟩ ∈ calls := by
  have delivers : (deliver settings .willing m).run h' = (.ok (), h') := by
    rw [run_deliver, recipients, run_transmit_willing]
    rfl
  have answers : ((send settings .willing r s).run h).1 = .ok true := by
    rw [run_send, sending, Act.run_bind, written]
    dsimp only
    rw [delivers]
    rfl
  obtain ⟨calls, same, counts, told⟩ := records_send settings .willing r s h before
  rw [answers] at same counts
  obtain ⟨nothing, -⟩ | ⟨_, -, -, never⟩ := answer_eq_ok.1 counts.symm
  · obtain ⟨-, m', sent⟩ := told.decisive_eq_none.1 nothing
    exact ⟨calls, _, m', same, sent⟩
  · cases never

end

/-- A summary of nothing that took no time can be shown. -/
theorem exists_body_of_nothing (settings : Settings) (now : Timestamp) :
    ∃ page, bodyFor settings {} ⟨0, 0, 0, default, none, []⟩ now = .ok page := by
  obtain ⟨text, shows⟩ := exists_durationText_zero
  exact MailSummary.exists_body_iff.2 ⟨⟨0.0, text, rfl, shows⟩, fun result held => by cases held⟩

/-- A mail that went out is reported as not sent, and a server may keep sending from answering. -/
theorem sent_mail_denied : ∃ settings,
    Settings.read [("email_recipients", .list [.text "qa@example.com"])] = .valid settings ∧
    let run (server : MailServer Unit) :=
      (send settings server.recorded {} ⟨0, 0, 0, default, none, []⟩).run ((Host.start default [] ()).beside [])
    ((run (failingAt "quit" (.plain .mail "lost"))).1 = .ok false ∧
      ∃ m, ⟨.send m, .ok ()⟩ ∈ (run (failingAt "quit" (.plain .mail "lost"))).2.outer.2) ∧
    (run (failingAt "starttls" (.plain .runtime "no encryption"))).1 = .error (.plain .runtime "no encryption") := by
  obtain ⟨settings, read, recipients, user, encrypted, reports, shots⟩ := find_defaults
  refine ⟨settings, read, ?_⟩
  obtain ⟨m, h', written⟩ : ∃ m h', (message settings {} ⟨0, 0, 0, default, none, []⟩).run
      ((Host.start default [] ()).note .info "Preparing to send email report") = (.ok m, h') :=
    exists_message reports shots (exists_body_of_nothing settings _)
  have delivers (server : MailServer Unit) :
      (send settings server.recorded {} ⟨0, 0, 0, default, none, []⟩).run ((Host.start default [] ()).beside []) =
        match settled ((deliver settings server.recorded m).run (h'.beside [])).1 with
        | .ok outcome => (verdict settings outcome).run ((deliver settings server.recorded m).run (h'.beside [])).2
        | .error fault => (.error fault, ((deliver settings server.recorded m).run (h'.beside [])).2) := by
    have noted : ((Host.start default [] ()).beside ([] : List MailExchange)).note .info "Preparing to send email report" =
      ((Host.start default [] ()).note .info "Preparing to send email report").beside [] := rfl
    rw [run_send, noted, sending, Act.run_bind, Host.run_beside (agree_message settings _ _), written]
  dsimp only
  simp only [delivers, run_deliver, recipients, transmit, converse, encrypted, user]
  -- Connected, encrypted and sent: the message is the third call.
  exact ⟨⟨rfl, m, .tail _ (.tail _ (.head _))⟩, rfl⟩

end MailReporter

end KeywordSuite
