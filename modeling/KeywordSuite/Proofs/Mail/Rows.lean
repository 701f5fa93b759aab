import KeywordSuite.Proofs.CommandLine.ExitStatus
import KeywordSuite.Proofs.Mail.Delivery
import KeywordSuite.Proofs.Suite.Learning
import KeywordSuite.Proofs.Suite.Reporting

/-!
# The rows of a mail

A reporter learns the result of every test case, and nothing takes one from it again. So the rows of a mail are the
results of all runs so far, and the numbers above them are those of the last run.
-/

namespace KeywordSuite

variable {ε δ τ : Type}

/-- Any fault, while what is seen of a state is left as it is. -/
def Course.still (view : ε → τ) : Course (Host ε) where
  ends _ := True
  leads h h' := view h'.outer = view h.outer
  ordinary _ := trivial
  refl _ := rfl
  trans before after := after.trans before

theorem Host.allowsInside_still (view : ε → τ) : Host.AllowsInside (.still view) := fun _ _ _ same => congrArg view same

/-- A world beside the calls on a mail server. -/
abbrev MailWorld (ε : Type) := World (Host (ε × List MailExchange))

namespace Place

/-- The same part of a state, beside something else. -/
def first (kept : Place ε τ) : Place (ε × δ) τ := ⟨fun e => kept.get e.1, fun t e => (kept.set t e.1, e.2)⟩

variable (kept : Place ε MailReporter) (w : MailWorld ε)

/-- A reporter, and the calls on its server so far. -/
def noted (e : ε × List MailExchange) : MailReporter × List MailExchange := (kept.get e.1, e.2)

def reporterIn : MailReporter := kept.get w.outer.outer.1

end Place

/-- The calls on a mail server so far. -/
def World.exchanges (w : MailWorld ε) : List MailExchange := w.outer.outer.2

/-- A mail of a summary with these results in its rows. -/
def MailMessage.Lists (settings : Settings) (m : MailMessage) (s : SuiteSummary) (rows : List CaseResult) : Prop :=
  ∃ now, m.subject = MailSummary.subject settings s now ∧ MailSummary.body settings s rows now = .ok m.body

/-! ## Summing up -/

namespace MailReporter

variable (settings : Settings) (server : MailServer ε) (kept : Place ε MailReporter) (s : SuiteSummary)

theorem lists_of_message {r : MailReporter} {h h' : Host ε} {m : MailMessage}
    (ran : (message settings r s).run h = (.ok m, h')) : m.Lists settings s (r.resultsFor s) := by
  unfold message at ran
  obtain ⟨_, _, got, ran⟩ := Act.exists_of_run_bind ran
  cases got
  obtain ⟨body, _, written, ran⟩ := Act.exists_of_run_bind ran
  rw [Act.run_ofExcept] at written
  obtain ⟨attachments, _, -, ran⟩ := Act.exists_of_run_bind ran
  cases ran
  exact ⟨h.localNow, rfl, congrArg Prod.fst written⟩

/-- What a reporter and the record of its server come to by a summary: the mails that are sent have the results in
their rows that the reporter has learned, or without any those of the summary. -/
structure Mailed (r : MailReporter) (before : List MailExchange) (left : MailReporter × List MailExchange) : Prop where
  results : left.1.results = r.results
  mails : ∃ calls, left.2 = before ++ calls ∧ ∀ m ended, ⟨.send m, ended⟩ ∈ calls → m.Lists settings s (r.resultsFor s)

theorem mailed_self (r : MailReporter) (before : List MailExchange) : Mailed settings s r before (r, before) where
  results := rfl
  mails := ⟨[], (List.append_nil _).symm, fun _ _ held => by cases held⟩

variable {kept} (lawful : ∀ r e, kept.get (kept.set r e) = r)
  (serves : ∀ call, (server call).KeepsTo (.still kept.get) id)
include lawful serves

theorem mailed_conclude (h : Host (ε × List MailExchange)) :
    Mailed settings s (kept.get h.outer.1) h.outer.2
      (kept.noted ((conclude settings server.recorded kept.first s).run h).2.outer) := by
  unfold conclude
  cases settings.emailEnabled with
  | false => exact mailed_self settings s _ _
  | true =>
    let reporter := kept.get h.outer.1
    obtain ⟨calls, same, -, told⟩ := records_send settings server reporter s h.plain h.outer.2
    have alone : kept.get ((send settings server reporter s).run h.plain).2.outer = reporter :=
      (keepsTo_send (Host.allowsInside_still kept.get) settings server serves reporter s h.plain).2
    have mails : ∀ m ended, ⟨.send m, ended⟩ ∈ calls → m.Lists settings s (reporter.resultsFor s) := by
      intro m ended held
      have written := told.eq_of_send held
      unfold built at written
      exact lists_of_message settings s (Prod.ext written rfl)
    have sent : (send settings server.recorded (kept.first.get h.outer) s).run h = _ := same
    simp only [if_true, Act.run_bind, Act.run_get, sent]
    cases ((send settings server reporter s).run h.plain).1 with
    | error fault => exact ⟨congrArg MailReporter.results alone, calls, rfl, mails⟩
    | ok answer =>
      refine ⟨?_, calls, rfl, mails⟩
      let left := ((send settings server reporter s).run h.plain).2.outer
      have changed : (kept.get (kept.set { kept.get left with lastSent := some answer } left)).results =
          reporter.results := by
        rw [lawful, alone]
      exact changed

end MailReporter

/-! ## Surroundings with a reporter -/

/-- Surroundings in which one listener is a reporter, whose results nothing else touches. -/
structure Surroundings.MailsTo (s : Surroundings (Host (ε × List MailExchange))) (settings : Settings)
    (server : MailServer ε) (kept : Place ε MailReporter) (listener : Nat) : Prop where
  lawful : ∀ r e, kept.get (kept.set r e) = r
  told : s.listeners[listener]? = some (MailReporter.listener settings server.recorded kept.first)
  serves : ∀ call, (server call).KeepsTo (.still kept.get) id
  others : ({ s with listeners := s.listeners.eraseIdx listener } : Surroundings _).OnCourse (.still kept.noted)
  report : ∀ tell, s.report = some tell → ∀ call, (tell call).KeepsTo (.still kept.noted) id
  lists : s.source.listActive.KeepsTo (.still kept.noted) id

/-- When the listeners before a number have been told of a summary, the reporter has sent its mail, or has yet to. -/
structure MailedUpTo (settings : Settings) (kept : Place ε MailReporter) (listener : Nat) (summary : SuiteSummary)
    (r : MailReporter) (before : List MailExchange) (n : Nat) (w : MailWorld ε) : Prop where
  unsent : n ≤ listener → kept.noted w.outer.outer = (r, before)
  mailed : MailReporter.Mailed settings summary r before (kept.noted w.outer.outer)

theorem MailedUpTo.frame {settings : Settings} {kept : Place ε MailReporter} {listener : Nat} {summary : SuiteSummary}
    {r : MailReporter} {before : List MailExchange} {n n' : Nat} {w w' : MailWorld ε}
    (h : MailedUpTo settings kept listener summary r before n w)
    (still : kept.noted w'.outer.outer = kept.noted w.outer.outer) (later : n' ≤ listener → n ≤ listener) :
    MailedUpTo settings kept listener summary r before n' w' where
  unsent sooner := still.trans (h.unsent (later sooner))
  mailed := by
    rw [still]
    exact h.mailed

namespace Surroundings.MailsTo

variable {s : Surroundings (Host (ε × List MailExchange))} {settings : Settings} {server : MailServer ε}
  {kept : Place ε MailReporter} {listener : Nat} (hm : s.MailsTo settings server kept listener)
include hm

/-- Whatever does not inform the reporter leaves it, and its server, alone. -/
theorem noted_handle {op : SharedOp} (passes : op.PassesBy listener) (w : MailWorld ε) :
    kept.noted ((s.handle op).run w).2.outer.outer = kept.noted w.outer.outer := by
  let others : Surroundings (Host (ε × List MailExchange)) := { s with listeners := s.listeners.eraseIdx listener }
  by_cases informs : ∃ n news, op = .inform n news
  · obtain ⟨n, news, rfl⟩ := informs
    have informed : (s.inform n news).KeepsTo (.still kept.noted) World.outer := by
      unfold Surroundings.inform
      split
      · rename_i l found
        exact World.keepsTo_zoom (hm.others.listeners l (List.mem_eraseIdx_iff_getElem?.2
          ⟨n, passes n news rfl, found⟩) news)
      · exact Act.keepsTo_pure ()
    exact (informed w).2
  · have same : s.handle op = others.handle op := by
      cases op with
      | inform n news => exact absurd ⟨n, news, rfl⟩ informs
      | _ => rfl
    have handled : (others.handle op).KeepsTo (.still kept.noted) World.outer :=
      hm.others.handle fun call _ => keepsTo_tellReport hm.report call
    rw [same]
    exact (handled w).2

theorem noted_run {α : Type} {p : Program SharedOp.Reply α} (only : p.Only (SharedOp.PassesBy listener)) :
    ∀ w, kept.noted (p.run s.handle w).2.outer.outer = kept.noted w.outer.outer := by
  induction p with
  | done a => exact fun _ => rfl
  | call op resume ih =>
    obtain ⟨passes, rest⟩ := only
    exact fun w => (ih _ (rest _) _).trans (hm.noted_handle passes w)

theorem inform_listener (news : SuiteNews) :
    s.inform listener news = World.zoom ((MailReporter.listener settings server.recorded kept.first).tell news) := by
  unfold Surroundings.inform
  rw [hm.told]

/-- The reporter keeps every result that it is told. -/
theorem teaches : s.Teaches listener (fun w => (kept.reporterIn w).results) World.exchanges := by
  have learned : ∀ op (w : MailWorld ε), (∀ summary, op ≠ .inform listener (.finished summary)) →
      (kept.reporterIn ((s.handle op).run w).2).results = (kept.reporterIn w).results ++ op.teaches listener ∧
        ((s.handle op).run w).2.exchanges = w.exchanges := by
    intro op w unfinished
    by_cases passes : op.PassesBy listener
    · have same := hm.noted_handle passes w
      rw [passes.teaches, List.append_nil]
      exact ⟨congrArg (fun noted => noted.1.results) same, congrArg (fun noted => noted.2) same⟩
    · obtain ⟨r, rfl⟩ : ∃ r, op = .inform listener (.result r) := by
        by_contra never
        refine passes fun n news same here => ?_
        subst here
        cases news with
        | result r => exact never ⟨r, same⟩
        | finished summary => exact unfinished summary same
      have handled : s.handle (.inform listener (.result r)) = World.zoom (MailReporter.learn kept.first r) :=
        hm.inform_listener (.result r)
      rw [handled, SharedOp.teaches, if_pos rfl]
      exact ⟨congrArg MailReporter.results (hm.lawful _ _), rfl⟩
  exact ⟨fun op w unfinished => (learned op w unfinished).1, fun op w unfinished => (learned op w unfinished).2⟩

/-! ## The end of a suite -/

variable {r : MailReporter} {before : List MailExchange} {summary : SuiteSummary}

/-- Telling one listener of a summary: the reporter sends its mail when it is its turn. -/
theorem mailedUpTo_inform {n : Nat} {w : MailWorld ε} (h : MailedUpTo settings kept listener summary r before n w) :
    MailedUpTo settings kept listener summary r before (n + 1) ((s.handle (.inform n (.finished summary))).run w).2 := by
  by_cases here : n = listener
  · subst here
    have concluded := MailReporter.mailed_conclude settings server summary hm.lawful hm.serves w.outer
    have handled : s.handle (.inform n (.finished summary)) =
        World.zoom (MailReporter.conclude settings server.recorded kept.first summary) :=
      hm.inform_listener (.finished summary)
    rw [handled]
    cases h.unsent (Nat.le_refl n)
    exact ⟨fun never => absurd never (by omega), concluded⟩
  · have passes : (SharedOp.inform n (.finished summary)).PassesBy listener := by
      intro m news same
      cases same
      exact here
    exact h.frame (hm.noted_handle passes w) fun later => by omega

/-- Listeners are told of a summary from a number on. -/
theorem keeps_informAll_mailed : ∀ (names : List String) (n : Nat) (w : MailWorld ε),
    MailedUpTo settings kept listener summary r before n w →
    (ExceptT.run (informAll (.finished summary) n names)).Keeps s.actual w fun _ w' =>
      MailReporter.Mailed settings summary r before (kept.noted w'.outer.outer)
  | [], _, _, h => h.mailed
  | name :: rest, n, w, h => by
    have told := hm.mailedUpTo_inform h
    refine keeps_seq.2 (keeps_attempt.2 (keeps_perform.2 ⟨w, rfl, fun reply _ => ?_⟩))
    obtain ⟨-, whole⟩ | ⟨fault, -, stops⟩ := settled_cases reply
    · rw [whole]
      cases reply with
      | ok _ => exact keeps_informAll_mailed rest (n + 1) _ told
      | error fault =>
        -- A listener that fails is logged, which does not reach the reporter.
        refine keeps_seq.2 (keeps_perform.2 ⟨_, rfl, fun reply same => ?_⟩)
        obtain rfl := same
        exact keeps_informAll_mailed rest (n + 1) _ (told.frame (hm.noted_handle (passesBy_log _ _) _) id)
    · rw [stops]
      exact told.mailed

/-- A suite sums up its results, and mails that summary. -/
theorem keeps_finishSuite_mailed (plan : SuitePlan) (results : List CaseResult) (startedAt : Timestamp)
    (w : MailWorld ε) :
    (ExceptT.run (Surroundings.finishSuite plan results startedAt)).Keeps s.actual w fun ended w' =>
      ∃ completedAt, MailReporter.Mailed settings (.ofResults results startedAt completedAt) (kept.reporterIn w)
          w.exchanges (kept.noted w'.outer.outer) ∧
        ∀ outcome summary, ended = .ok outcome → outcome.summary = .ok summary →
          summary = .ofResults results startedAt completedAt := by
  have tells : Procedure.Only (SharedOp.PassesBy listener) (KeywordSuite.tellReport .endSuite) :=
    only_tellReport passesBy_log (passesBy_report _)
  have still := hm.noted_run tells w
  unfold Surroundings.finishSuite
  refine keeps_seq.2 ((keeps_actual _ w _).2 ?_)
  rcases ran : (ExceptT.run (KeywordSuite.tellReport .endSuite)).run s.handle w with ⟨fault | path, w₁⟩ <;>
    rw [ran] at still
  · refine ⟨startedAt, ?_, fun _ _ never => by cases never⟩
    rw [still]
    exact MailReporter.mailed_self settings _ _ _
  · refine keeps_seq.2 (keeps_perform.2 ⟨w₁, rfl, fun reply same => ?_⟩)
    have clock : (s.handle .now).run w₁ = (.ok (s.now w₁.outer), w₁) := rfl
    obtain rfl := same.trans (congrArg Prod.fst clock)
    refine keeps_seq.2 (keeps_outcome.2 (Program.Keeps.mono (fun informed w' mailed => ?_)
      (hm.keeps_informAll_mailed plan.listeners 0 w₁ ⟨fun _ => still, ?_⟩)))
    · refine ⟨s.now w₁.outer, mailed, fun outcome summary ended sums => ?_⟩
      cases ended
      cases informed with
      | error fault => cases sums
      | ok _ => exact (Except.ok.inj sums).symm
    · rw [still]
      exact MailReporter.mailed_self settings _ _ _

end Surroundings.MailsTo

/-! ## A whole run -/

/-- A summary of the results that were learned, in some order. -/
def SumsUp (learned : List CaseResult) (summary : SuiteSummary) : Prop :=
  ∃ results startedAt completedAt, summary = .ofResults results startedAt completedAt ∧ learned.Perm results

/-- What a reporter has learned and the calls on its server, from one world to another in which a run has come to a
summary or to a fault. -/
structure Accumulated (settings : Settings) (kept : Place ε MailReporter) (w : MailWorld ε)
    (came : Except Fault SuiteSummary) (w' : MailWorld ε) (learned : List CaseResult)
    (calls : List MailExchange) : Prop where
  learns : (kept.reporterIn w').results = (kept.reporterIn w).results ++ learned
  records : w'.exchanges = w.exchanges ++ calls
  sums : ∀ summary, came = .ok summary → SumsUp learned summary
  mails : ∀ m ended, ⟨.send m, ended⟩ ∈ calls → ∃ summary, SumsUp learned summary ∧
    m.Lists settings summary ((kept.reporterIn w).results ++ learned) ∧ ∀ other, came = .ok other → other = summary

section

variable {settings : Settings} {kept : Place ε MailReporter} {w w₁ w' : MailWorld ε}
  {came : Except Fault SuiteSummary} {learned : List CaseResult} {calls : List MailExchange}

theorem Accumulated.after (still : kept.noted w₁.outer.outer = kept.noted w.outer.outer)
    (h : Accumulated settings kept w₁ came w' learned calls) : Accumulated settings kept w came w' learned calls := by
  have reporter : kept.reporterIn w₁ = kept.reporterIn w := congrArg (fun noted => noted.1) still
  have exchanges : w₁.exchanges = w.exchanges := congrArg (fun noted => noted.2) still
  obtain ⟨learns, records, sums, mails⟩ := h
  rw [reporter] at learns mails
  rw [exchanges] at records
  exact ⟨learns, records, sums, mails⟩

theorem Accumulated.before (h : Accumulated settings kept w came w₁ learned calls) {came' : Except Fault SuiteSummary}
    (still : kept.noted w'.outer.outer = kept.noted w₁.outer.outer)
    (fewer : ∀ summary, came' = .ok summary → came = .ok summary) :
    Accumulated settings kept w came' w' learned calls := by
  have reporter : kept.reporterIn w' = kept.reporterIn w₁ := congrArg (fun noted => noted.1) still
  have exchanges : w'.exchanges = w₁.exchanges := congrArg (fun noted => noted.2) still
  refine ⟨by rw [reporter, h.learns], exchanges.trans h.records,
    fun summary ended => h.sums summary (fewer summary ended), fun m ended held => ?_⟩
  obtain ⟨summary, sums, lists, same⟩ := h.mails m ended held
  exact ⟨summary, sums, lists, fun other ended => same other (fewer other ended)⟩

/-- A run that stops before its end sends nothing. -/
theorem accumulated_stopped (learns : (kept.reporterIn w').results = (kept.reporterIn w).results ++ learned)
    (still : w'.exchanges = w.exchanges) (fault : Fault) : Accumulated settings kept w (.error fault) w' learned [] where
  learns := learns
  records := still.trans (List.append_nil _).symm
  sums _ never := by cases never
  mails _ _ held := by cases held

variable (settings kept) in
/-- Whatever it begins with, an action of a run teaches the reporter what its mails are about. -/
def Accumulates (act : Act (MailWorld ε) SuiteOutcome) : Prop :=
  ∀ w, ∃ learned calls, Accumulated settings kept w ((act.run w).1.bind SuiteOutcome.summary) (act.run w).2 learned calls

theorem Accumulates.after {α : Type} {p : Act (MailWorld ε) α}
    {f : α → Act (MailWorld ε) SuiteOutcome}
    (still : ∀ w, kept.noted (p.run w).2.outer.outer = kept.noted w.outer.outer)
    (rest : ∀ a, Accumulates settings kept (f a)) :
    Accumulates settings kept (p >>= f) := by
  intro w
  have first := still w
  rw [Act.run_bind]
  rcases ran : p.run w with ⟨fault | a, w₁⟩ <;> rw [ran] at first
  · have same : w₁.exchanges = w.exchanges := congrArg (fun noted => noted.2) first
    refine ⟨[], [], accumulated_stopped ?_ same fault⟩
    rw [List.append_nil]
    exact congrArg (fun noted => noted.1.results) first
  · obtain ⟨learned, calls, accumulated⟩ := rest a w₁
    exact ⟨learned, calls, accumulated.after first⟩

/-- What is done last neither informs the reporter nor comes to a summary of its own. -/
theorem Accumulated.then {p : Act (MailWorld ε) SuiteOutcome}
    {f : SuiteOutcome → Act (MailWorld ε) SuiteOutcome}
    (h : Accumulated settings kept w ((p.run w₁).1.bind SuiteOutcome.summary) (p.run w₁).2 learned calls)
    (last : ∀ ended w', kept.noted ((f ended).run w').2.outer.outer = kept.noted w'.outer.outer ∧
      ∀ summary, ((f ended).run w').1.bind SuiteOutcome.summary = .ok summary → ended.summary = .ok summary) :
    Accumulated settings kept w (((p >>= f).run w₁).1.bind SuiteOutcome.summary) ((p >>= f).run w₁).2 learned calls := by
  rw [Act.run_bind]
  rcases ran : p.run w₁ with ⟨fault | ended, w'⟩ <;> rw [ran] at h
  · exact h
  · obtain ⟨still, fewer⟩ := last ended w'
    exact h.before still fewer

end

namespace Surroundings.MailsTo

variable {s : Surroundings (Host (ε × List MailExchange))} {settings : Settings} {server : MailServer ε}
  {kept : Place ε MailReporter} {listener : Nat} (hm : s.MailsTo settings server kept listener) {plan : SuitePlan}
include hm

theorem noted_note (level : LogLevel) (message : String) (w : MailWorld ε) :
    kept.noted ((s.note level message).run w).2.outer.outer = kept.noted w.outer.outer :=
  hm.noted_handle (passesBy_log level message) w

variable (plan) in
/-- Results that the reporter has learned are summed up and mailed. -/
theorem accumulated_finishSuite {results learned : List CaseResult} (perm : learned.Perm results) (startedAt : Timestamp)
    {w w₁ : MailWorld ε}
    (learns : (kept.reporterIn w₁).results = (kept.reporterIn w).results ++ learned)
    (still : w₁.exchanges = w.exchanges) :
    let run := (s.perform (finishSuite plan results startedAt)).run w₁
    ∃ calls, Accumulated settings kept w (run.1.bind SuiteOutcome.summary) run.2 learned calls := by
  obtain ⟨ended, w', runs, completedAt, mailed, sums⟩ :=
    run_of_keeps (hm.keeps_finishSuite_mailed plan results startedAt w₁)
  rw [runs]
  obtain ⟨same, calls, records, mails⟩ := mailed
  have summed : ∀ summary, ended.bind SuiteOutcome.summary = .ok summary →
      summary = .ofResults results startedAt completedAt := by
    intro summary came
    cases ended with
    | error fault => cases came
    | ok outcome => exact sums outcome summary rfl came
  have rows : (kept.reporterIn w₁).resultsFor (.ofResults results startedAt completedAt) =
      (kept.reporterIn w).results ++ learned := by
    unfold MailReporter.resultsFor
    split
    · -- Where nothing was learned, the summary has no results either.
      rename_i nothing
      rw [learns, List.isEmpty_iff, List.append_eq_nil_iff] at nothing
      rw [nothing.1, nothing.2]
      exact (nothing.2 ▸ perm).nil_eq.symm
    · exact learns
  refine ⟨calls, same.trans learns, ?_,
    fun summary came => ⟨results, startedAt, completedAt, summed summary came, perm⟩, ?_⟩
  · rw [← still]
    exact records
  · intro m ended held
    rw [← rows]
    exact ⟨_, ⟨results, startedAt, completedAt, rfl, perm⟩, mails m ended held, summed⟩

variable (hr : plan.registry.PassesBy listener) (inside : listener < plan.listeners.length)
include hr inside

theorem accumulates_runListed (schedule : List Nat) : Accumulates settings kept (s.runListed plan schedule) := by
  have tells : ∀ w, kept.noted ((s.perform (KeywordSuite.tellReport .beginSuite)).run w).2.outer.outer =
      kept.noted w.outer.outer := hm.noted_run (only_tellReport passesBy_log (passesBy_report _))
  have lists : ∀ w, kept.noted ((World.zoom s.source.listActive).attempt.run w).2.outer.outer =
      kept.noted w.outer.outer := fun w => by rw [Act.run_attempt]; exact (hm.lists w.outer).2
  unfold Surroundings.runListed
  refine Accumulates.after (fun _ => rfl) fun startedAt => Accumulates.after (hm.noted_note _ _) fun _ => ?_
  refine Accumulates.after tells fun _ => Accumulates.after lists fun listed => ?_
  cases listed with
  | error fault =>
    refine Accumulates.after (hm.noted_note _ _) fun _ w => ?_
    obtain ⟨calls, accumulated⟩ := hm.accumulated_finishSuite plan (.refl []) startedAt
      (List.append_nil _).symm rfl
    refine ⟨[], calls, accumulated.then fun ended w' => ⟨rfl, fun summary came => ?_⟩⟩
    change ended.summary.bind _ = _ at came
    cases summed : ended.summary <;> rw [summed] at came <;> cases came
  | ok cases =>
    refine Accumulates.after (hm.noted_note _ _) fun _ w => ?_
    obtain ⟨learned, learns, still, perm⟩ := hm.teaches.runAll hr inside cases schedule w
    rw [Act.run_bind]
    rcases ran : (s.runAll plan cases schedule).run w with ⟨fault | results, w₁⟩ <;> rw [ran] at learns still perm
    · exact ⟨learned, [], accumulated_stopped learns still fault⟩
    · obtain ⟨calls, accumulated⟩ := hm.accumulated_finishSuite plan (perm results rfl) startedAt learns still
      refine ⟨learned, calls, accumulated.then fun ended w' => ?_⟩
      dsimp only
      split
      · rename_i summary summed
        exact ⟨(hm.noted_note _ _ _).trans (hm.noted_note _ _ _), fun _ came => came⟩
      · exact ⟨rfl, fun _ came => came⟩

theorem accumulated_runSuite (schedule : List Nat) (w : MailWorld ε) : ∃ learned calls,
    Accumulated settings kept w (s.runSuite plan schedule w).1.summary (s.runSuite plan schedule w).2 learned calls := by
  obtain ⟨learned, calls, accumulated⟩ := hm.accumulates_runListed hr inside schedule w
  unfold runSuite
  rcases ran : (s.runListed plan schedule).run w with ⟨_ | _, w'⟩ <;> rw [ran] at accumulated <;>
    exact ⟨learned, calls, accumulated⟩

end Surroundings.MailsTo

/-! ## One run after another -/

/-- The results that a reporter has learned from one world to another. -/
def Place.learnedIn (kept : Place ε MailReporter) (w w' : MailWorld ε) : List CaseResult :=
  (kept.reporterIn w').results.drop (kept.reporterIn w).results.length

/-- Runs of a suite lead from a reporter that has learned nothing to a world, and in each of them it has learned some
results. Between the runs it keeps them. -/
inductive Surroundings.RunsBefore (s : Surroundings (Host (ε × List MailExchange))) (plan : SuitePlan)
    (kept : Place ε MailReporter) : List (List CaseResult) → MailWorld ε → Prop
  | fresh {w : MailWorld ε} : (kept.reporterIn w).results = [] → s.RunsBefore plan kept [] w
  | aside {past : List (List CaseResult)} {w w' : MailWorld ε} : s.RunsBefore plan kept past w →
      (kept.reporterIn w').results = (kept.reporterIn w).results → s.RunsBefore plan kept past w'
  | run {past : List (List CaseResult)} {w : MailWorld ε} (schedule : List Nat) :
      s.RunsBefore plan kept past w →
      s.RunsBefore plan kept (past ++ [kept.learnedIn w (s.runSuite plan schedule w).2]) (s.runSuite plan schedule w).2

section

variable {settings : Settings} {kept : Place ε MailReporter} {w w' : MailWorld ε}
  {came : Except Fault SuiteSummary} {learned : List CaseResult} {calls : List MailExchange}

theorem Accumulated.learnedIn_eq (h : Accumulated settings kept w came w' learned calls) :
    kept.learnedIn w w' = learned := by
  unfold Place.learnedIn
  rw [h.learns, List.drop_left]

theorem SumsUp.perm {summary : SuiteSummary} (h : SumsUp learned summary) : learned.Perm summary.results := by
  obtain ⟨results, startedAt, completedAt, rfl, perm⟩ := h
  exact perm

theorem SumsUp.passed {summary : SuiteSummary} (h : SumsUp learned summary) :
    (learned.countP CaseResult.passed : Int) = summary.passed := by
  obtain ⟨results, startedAt, completedAt, rfl, perm⟩ := h
  exact congrArg Nat.cast (perm.countP_eq _)

theorem SumsUp.failed {summary : SuiteSummary} (h : SumsUp learned summary) :
    (learned.countP (fun r => !r.passed) : Int) = summary.failed := by
  obtain ⟨results, startedAt, completedAt, rfl, perm⟩ := h
  have parts := List.length_eq_countP_add_countP CaseResult.passed (l := results)
  have failed : learned.countP (fun r => !r.passed) = results.countP fun r => ¬ r.passed = true := by
    rw [perm.countP_eq]
    exact List.countP_congr fun r _ => by simp
  unfold SuiteSummary.ofResults
  dsimp only
  omega

end

section

variable {s : Surroundings (Host (ε × List MailExchange))} {settings : Settings} {server : MailServer ε}
  {kept : Place ε MailReporter} {listener : Nat} (hm : s.MailsTo settings server kept listener) {plan : SuitePlan}
  (hr : plan.registry.PassesBy listener) (inside : listener < plan.listeners.length) {past : List (List CaseResult)}
  {w : MailWorld ε}
include hm hr inside

theorem Surroundings.RunsBefore.results_eq (before : s.RunsBefore plan kept past w) :
    (kept.reporterIn w).results = past.flatten := by
  induction before with
  | fresh nothing => exact nothing
  | aside _ same ih => exact same.trans ih
  | run schedule _ ih =>
    obtain ⟨learned, calls, accumulated⟩ := hm.accumulated_runSuite hr inside schedule _
    rw [accumulated.learns, ih, accumulated.learnedIn_eq, List.flatten_append, List.flatten_singleton]

end

/-! ## Mails that are sent -/

/-- A suite that has ended as soon as it started took no time. -/
theorem SuiteSummary.durationSeconds_self (results : List CaseResult) (t : Timestamp) :
    (ofResults results t t).durationSeconds = .ok 0.0 := by
  have since : t.secondsSince? t = some (microsecondsToSeconds 0) := by
    unfold Timestamp.secondsSince?
    cases t.offset <;> simp only [Int.sub_self]
  have nothing : (if 0.0 < microsecondsToSeconds 0 then microsecondsToSeconds 0 else 0.0) = 0.0 := by decide
  unfold durationSeconds ofResults
  dsimp only
  rw [since]
  exact congrArg Except.ok nothing

namespace MailSummary

/-- A body shows whether there are any results. -/
theorem eq_nil_of_body {settings : Settings} {s : SuiteSummary} {results : List CaseResult} {now now' : Timestamp}
    {page : Page} (none : body settings s [] now = .ok page) (some : body settings s results now' = .ok page) :
    results = [] := by
  obtain ⟨seconds, rows, -, each, rfl⟩ := body_eq_ok_iff.1 none
  obtain ⟨seconds', rows', -, each', same⟩ := body_eq_ok_iff.1 some
  cases each
  cases each' with
  | nil => rfl
  | @cons r row results rows' own _ =>
    exfalso
    obtain ⟨text, -, rfl⟩ := own
    have lengths := congrArg List.length same
    simp only [List.length_append, List.flatten_nil, List.length_nil, List.flatten_cons] at lengths
    have head : (headPart settings s seconds now).length = (headPart settings s seconds' now').length := by
      simp only [headPart, List.length_cons]
    have row : 0 < (resultRow settings.resultMetadataKeys r text).length := by
      unfold resultRow
      simp
    have foot : (ticketsPart (tickets [])).length = 0 := rfl
    omega

end MailSummary

namespace MailReporter

/-- Where its mail can be built, a reporter sends it over a server that takes whatever it is handed. -/
theorem exists_concluded {settings : Settings} {kept : Place ε MailReporter} {s : SuiteSummary}
    {h : Host (ε × List MailExchange)} (enabled : settings.emailEnabled = true)
    (recipients : settings.emailRecipients.isEmpty = false)
    (reports : h.files.find settings.reportsDir = .error .missing)
    (shots : h.files.find settings.screenshotsDir = .error .missing)
    (shows : ∃ page, bodyFor settings (kept.get h.outer.1) s h.localNow = .ok page) : ∃ calls m,
      let run := (conclude settings (MailServer.recorded .willing) kept.first s).run h
      run.1 = .ok () ∧ run.2.outer.2 = h.outer.2 ++ calls ∧ ⟨.send m, .ok ()⟩ ∈ calls := by
  obtain ⟨m, h', written⟩ : ∃ m h', (message settings (kept.get h.outer.1) s).run
      (h.plain.note .info "Preparing to send email report") = (.ok m, h') := exists_message reports shots shows
  obtain ⟨calls, left, m', sends, sent⟩ := exists_sent recipients written h.outer.2
  have sends : (send settings (MailServer.recorded .willing) (kept.first.get h.outer) s).run h = _ := sends
  refine ⟨calls, m', ?_⟩
  unfold conclude
  rw [enabled, if_pos rfl, Act.run_bind, Act.run_get]
  dsimp only
  rw [Act.run_bind, sends]
  exact ⟨rfl, rfl, sent⟩

end MailReporter

/-! ## A mail room -/

/-- What a mail room has: a reporter, and the test cases that are listed. -/
structure MailRoom where
  reporter : MailReporter := {}
  cases : List CaseDescriptor := []

namespace MailRoom

def kept : Place MailRoom MailReporter := ⟨reporter, fun r room => { room with reporter := r }⟩

def settings : Settings := { Settings.defaults with emailEnabled := true, emailRecipients := ["qa@example.com"] }

/-- In a mail room, test cases have no browser. -/
def surroundings (listeners : List (Listener (Host (MailRoom × List MailExchange)))) :
    Surroundings (Host (MailRoom × List MailExchange)) where
  log _ _ h := h
  create _ _ := throw (.plain .runtime "no browser")
  browse _ _ := throw (.plain .runtime "no browser")
  defaultConfig := {}
  now := Host.now
  localNow := Host.localNow
  stopwatch _ := 0.0
  sleep _ := return
  source := ⟨return (← get).outer.1.cases, fun _ => return [], fun _ => return [.text "close_browser"]⟩
  report := none
  capture := .absent
  listeners := listeners
  outside _ _ := throw (.plain .runtime "nothing outside")

def withReporter : Surroundings (Host (MailRoom × List MailExchange)) :=
  surroundings [MailReporter.listener settings (MailServer.recorded .willing) kept.first]

def plan : SuitePlan := ⟨.browsing, [], ["EmailReporter"], 1⟩

def world (room : MailRoom) : MailWorld MailRoom := ⟨.empty, .start default [] (room, [])⟩

/-- A world in which one result was learned, and no test case is listed. -/
def after (r : CaseResult) : MailWorld MailRoom := world { reporter := { results := [r] } }

def oneCase : List CaseDescriptor := [{ testId := "TC1", testName := "First" }]

theorem onCourse {listeners : List (Listener (Host (MailRoom × List MailExchange)))}
    {c : Course (Host (MailRoom × List MailExchange))} (told : ∀ l ∈ listeners, ∀ news, (l.tell news).KeepsTo c id) :
    (surroundings listeners).OnCourse c where
  log _ _ := c.refl
  create _ _ := Act.keepsTo_throw rfl
  browse _ _ := Act.keepsTo_throw rfl
  sleep _ := Act.keepsTo_pure _
  loadInput _ := Act.keepsTo_pure _
  loadKeywords _ := Act.keepsTo_pure _
  capture _ _ other := by cases other
  listeners := told
  outside _ _ := Act.keepsTo_throw rfl
  closes _ never := by cases never

theorem mailsTo : withReporter.MailsTo settings .willing kept 0 where
  lawful _ _ := rfl
  told := rfl
  serves _ := Act.keepsTo_pure _
  others := onCourse fun _ never => by cases never
  report _ never := by cases never
  lists := Act.keepsTo_get.bind fun _ => Act.keepsTo_pure _

theorem uninterrupted : withReporter.Uninterrupted := by
  refine Surroundings.OnCourse.uninterrupted (onCourse fun l held news => ?_) (fun _ never => by cases never) rfl
  obtain rfl := List.mem_singleton.1 held
  exact MailReporter.keepsTo_listener (fun _ _ _ => trivial) settings _ (fun _ _ => ⟨faulty_ok _, trivial⟩) _ news

theorem passesBy : plan.registry.PassesBy 0 := by
  intro name e found id
  exact BrowserKeyword.passesBy_of_isBuiltIn (KeywordRegistry.isBuiltIn_browsing found) 0 id

theorem vigilant : plan.registry.Vigilant := by
  intro name e found id
  exact BrowserKeyword.vigilant_of_isBuiltIn (KeywordRegistry.isBuiltIn_browsing found) id

theorem find_settings : (Files.empty []).find settings.reportsDir = .error .missing ∧
    (Files.empty []).find settings.screenshotsDir = .error .missing := MailReporter.find_missing

/-- A suite of one test case teaches the reporter one result; then no test case is listed any more. -/
theorem exists_before : ∃ r, (∃ text, r.durationDisplay = .ok text) ∧
    withReporter.RunsBefore plan kept [[r]] (after r) := by
  let start := world { cases := oneCase }
  have timed : withReporter.Timed (withReporter.startingWorld oneCase start) := fun _ _ _ _ => isSpan_zero
  obtain ⟨results, completedAt, path, w', runs, -, completes⟩ := runSuite_completes [] vigilant timed rfl uninterrupted
  obtain ⟨learned, calls, accumulated⟩ := mailsTo.accumulated_runSuite passesBy Nat.zero_lt_one [] start
  rw [runs] at accumulated
  obtain ⟨r, rfl, lasts⟩ : ∃ r, results = [r] ∧ IsSpan r.durationSeconds := by
    cases completes with
    | cons own rest =>
      cases rest
      exact ⟨_, rfl, own.lasts⟩
  have perm : learned.Perm [r] := (accumulated.sums _ rfl).perm
  obtain rfl := List.perm_singleton.1 perm
  have fresh : withReporter.RunsBefore plan kept [] start := .fresh rfl
  have before := fresh.run []
  rw [runs, accumulated.learnedIn_eq] at before
  exact ⟨r, lasts.exists_text, before.aside accumulated.learns.symm⟩

/-- Where the only listener takes it, a suite without results ends with its summary. -/
theorem run_finishSuite_taken {l : Listener (Host (MailRoom × List MailExchange))} {startedAt : Timestamp}
    {w : MailWorld MailRoom} {h' : Host (MailRoom × List MailExchange)}
    (takes : (l.tell (.finished (.ofResults [] startedAt w.outer.now))).run w.outer = (.ok (), h')) :
    ((surroundings [l]).perform (Surroundings.finishSuite plan [] startedAt)).run w =
      (.ok ⟨.ok (.ofResults [] startedAt w.outer.now), none⟩, { w with outer := h' }) := by
  have ends : (ExceptT.run (Surroundings.finishSuite plan [] startedAt)).Keeps (surroundings [l]).actual w
      fun ended w' => ended = .ok ⟨.ok (.ofResults [] startedAt w.outer.now), none⟩ ∧ w' = { w with outer := h' } := by
    unfold Surroundings.finishSuite
    refine keeps_seq.2 ((Surroundings.keeps_actual _ _ _).2 ?_)
    refine keeps_seq.2 (keeps_perform.2 ⟨w, rfl, fun reply same => ?_⟩)
    obtain rfl : reply = .ok w.outer.now := same
    refine keeps_seq.2 (keeps_outcome.2 (keeps_seq.2 (keeps_attempt.2 (keeps_perform.2
      ⟨w, rfl, fun reply same => ?_⟩))))
    have informed : ((surroundings [l]).handle (.inform 0 (.finished (.ofResults [] startedAt w.outer.now)))).run w =
      (((l.tell (.finished (.ofResults [] startedAt w.outer.now))).run w.outer).1,
        { w with outer := ((l.tell (.finished (.ofResults [] startedAt w.outer.now))).run w.outer).2 }) := rfl
    rw [takes] at informed
    obtain rfl : reply = .ok () := same.trans (congrArg Prod.fst informed)
    exact ⟨rfl, congrArg Prod.snd informed⟩
  obtain ⟨_, _, runs, rfl, rfl⟩ := Surroundings.run_of_keeps ends
  exact runs

/-- A suite without test cases mails what the reporter has learned before. -/
theorem exists_mailed {r : CaseResult} (shown : ∃ text, r.durationDisplay = .ok text) :
    let run := withReporter.runSuite plan [] (after r)
    ∃ summary m, run.1.summary = .ok summary ∧ summary.results = [] ∧ ⟨.send m, .ok ()⟩ ∈ run.2.exchanges := by
  let start := after r
  let summary := SuiteSummary.ofResults [] start.outer.now start.outer.now
  have lasts : ∃ duration text, summary.durationSeconds = .ok duration ∧ durationText duration = .ok text := by
    obtain ⟨text, shows⟩ := exists_durationText_zero
    exact ⟨0.0, text, SuiteSummary.durationSeconds_self _ _, shows⟩
  have shows : ∃ page, MailReporter.bodyFor settings (kept.get start.outer.outer.1) summary start.outer.localNow =
      .ok page :=
    MailSummary.exists_body_iff.2 ⟨lasts, fun result held => List.mem_singleton.1 held ▸ shown⟩
  obtain ⟨calls, m, concludes, records, sent⟩ :=
    MailReporter.exists_concluded rfl rfl find_settings.1 find_settings.2 shows
  let concluded := (MailReporter.conclude settings (MailServer.recorded .willing) kept.first summary).run start.outer
  have ends : (withReporter.perform (Surroundings.finishSuite plan [] start.outer.now)).run start =
      (.ok ⟨.ok summary, none⟩, { start with outer := concluded.2 }) :=
    run_finishSuite_taken (Prod.ext concludes rfl)
  have suite : withReporter.runSuite plan [] start = _ :=
    Surroundings.runSuite_of_results uninterrupted.report rfl rfl ends
  have recorded : (withReporter.runSuite plan [] start).2.exchanges = calls := by
    rw [suite]
    exact records
  exact ⟨summary, m, by rw [suite], rfl, recorded ▸ sent⟩

end MailRoom

/-! ## The rows and the numbers -/

section

variable {s : Surroundings (Host (ε × List MailExchange))} {settings : Settings} {server : MailServer ε}
  {kept : Place ε MailReporter} {listener : Nat} (hm : s.MailsTo settings server kept listener) {plan : SuitePlan}
  (hr : plan.registry.PassesBy listener) (inside : listener < plan.listeners.length) {past : List (List CaseResult)}
  {w : MailWorld ε}
include hm hr inside

/--
Whatever the test cases, their listing and the mail server come to, the rows of a mail are the results of all runs so
far. They are those of the run it is about, each once, after those of the runs before, so they are the results of its
summary, and number what it says, only as far as nothing was learned before.
-/
theorem mail_lists_all_runs (before : s.RunsBefore plan kept past w) (schedule : List Nat) :
    let run := s.runSuite plan schedule w
    let learned := kept.learnedIn w run.2
    let rows := past.flatten ++ learned
    (kept.reporterIn run.2).results = rows ∧
    (∀ summary, run.1.summary = .ok summary → learned.Perm summary.results) ∧
    ∃ calls, run.2.exchanges = w.exchanges ++ calls ∧ ∀ m ended, ⟨.send m, ended⟩ ∈ calls →
      ∃ summary, m.Lists settings summary rows ∧ learned.Perm summary.results ∧
        (∀ other, run.1.summary = .ok other → other = summary) ∧ (rows.Perm summary.results ↔ past.flatten = []) ∧
        (rows.countP CaseResult.passed : Int) = past.flatten.countP CaseResult.passed + summary.passed ∧
        (rows.countP (fun r => !r.passed) : Int) = past.flatten.countP (fun r => !r.passed) + summary.failed := by
  have earlier := before.results_eq hm hr inside
  obtain ⟨learned, calls, accumulated⟩ := hm.accumulated_runSuite hr inside schedule w
  dsimp only
  rw [accumulated.learnedIn_eq, ← earlier]
  refine ⟨accumulated.learns, fun summary came => (accumulated.sums summary came).perm, calls,
    accumulated.records, fun m ended held => ?_⟩
  obtain ⟨summary, sums, lists, same⟩ := accumulated.mails m ended held
  refine ⟨summary, lists, sums.perm, same, ⟨fun perm => ?_, fun nothing => ?_⟩, ?_, ?_⟩
  · have counted := perm.length_eq.trans sums.perm.length_eq.symm
    rw [List.length_append] at counted
    exact List.eq_nil_of_length_eq_zero (by omega)
  · rw [nothing, List.nil_append]
    exact sums.perm
  · rw [List.countP_append, ← sums.passed, Nat.cast_add]
  · rw [List.countP_append, ← sums.failed, Nat.cast_add]

end

section

open MailRoom

/-- A mail of a run without test cases has the row of the run before. -/
theorem mail_lists_all_runs_mail_room : ∃ r m summary,
    let run := withReporter.runSuite plan [] (after r)
    withReporter.MailsTo settings .willing kept 0 ∧ plan.registry.PassesBy 0 ∧
    withReporter.RunsBefore plan kept [[r]] (after r) ∧
    run.1.summary = .ok summary ∧ summary.results = [] ∧ ⟨.send m, .ok ()⟩ ∈ run.2.exchanges ∧
    m.Lists settings summary [r] := by
  obtain ⟨r, shown, before⟩ := exists_before
  obtain ⟨summary, m, came, nothing, sent⟩ := exists_mailed shown
  obtain ⟨-, whole, calls, records, mails⟩ := mail_lists_all_runs mailsTo passesBy Nat.zero_lt_one before []
  rw [records] at sent
  obtain ⟨about, lists, -, same, -⟩ := mails m _ sent
  obtain rfl := same summary came
  have learned := whole _ came
  rw [nothing] at learned
  rw [learned.eq_nil] at lists
  exact ⟨r, m, summary, mailsTo, passesBy, before, came, nothing, by rwa [records], lists⟩

/-- That mail says that there was no test case, and has not the rows of its summary. -/
theorem mail_room_row_of_no_result : ∃ r m summary,
    let run := withReporter.runSuite plan [] (after r)
    withReporter.RunsBefore plan kept [[r]] (after r) ∧
    run.1.summary = .ok summary ∧ ⟨.send m, .ok ()⟩ ∈ run.2.exchanges ∧
    ¬ ∃ rows, m.Lists settings summary rows ∧ rows.Perm summary.results := by
  obtain ⟨r, shown, before⟩ := exists_before
  obtain ⟨summary, m, came, nothing, sent⟩ := exists_mailed shown
  refine ⟨r, m, summary, before, came, sent, ?_⟩
  rintro ⟨rows, shows, perm⟩
  obtain ⟨learned, calls, accumulated⟩ := mailsTo.accumulated_runSuite passesBy Nat.zero_lt_one [] (after r)
  rw [accumulated.records] at sent
  obtain ⟨about, -, ⟨now, -, lists⟩, same⟩ := accumulated.mails m _ sent
  obtain rfl := same summary came
  rw [nothing] at perm
  obtain rfl := perm.eq_nil
  obtain ⟨now', -, shows⟩ := shows
  cases MailSummary.eq_nil_of_body shows lists

end

end KeywordSuite
