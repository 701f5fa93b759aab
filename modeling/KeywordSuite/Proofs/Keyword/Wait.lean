import KeywordSuite.Host.Basic
import KeywordSuite.Keyword.Browser
import KeywordSuite.Proofs.Keyword.Marking
import KeywordSuite.Proofs.Number.Order

/-!
# What waiting comes to

A text that is no number of seconds, or a negative one, is refused without a sleep. What else it says is slept once,
and what the clock does not take is raised: no number, and more seconds than the longest sleep has.
-/

namespace KeywordSuite

/-! ## Sleeps on record -/

def Program.noting {Op β σ : Type} {Reply : Op → Type} (notes : Op → List β) (handle : (op : Op) → Act σ (Reply op))
    (op : Op) : Act (σ × List β) (Reply op) :=
  Act.make fun (s, noted) => (((handle op).run s).1, ((handle op).run s).2, noted ++ notes op)

theorem Program.run_noting {Op α β σ : Type} {Reply : Op → Type} (notes : Op → List β)
    (handle : (op : Op) → Act σ (Reply op)) (p : Program Reply α) : ∀ (s : σ) (noted : List β),
      ∃ more, p.run (noting notes handle) (s, noted) = ((p.run handle s).1, (p.run handle s).2, noted ++ more) := by
  induction p with
  | done a => exact fun s noted => ⟨[], by rw [List.append_nil]; rfl⟩
  | call op resume ih =>
    intro s noted
    obtain ⟨more, run⟩ := ih ((handle op).run s).1 ((handle op).run s).2 (noted ++ notes op)
    refine ⟨notes op ++ more, ?_⟩
    rw [← List.append_assoc]
    exact run

def SharedOp.slept : SharedOp → List Float
  | .sleep seconds => [seconds]
  | _ => []

section

variable {ω : Type} {s : Surroundings ω} {c : Context} {w : World ω} {xs : List Float}

variable (s) in
/-- The surroundings, with the sleeps they are asked for on record. -/
def Surroundings.sleeping (op : SharedOp) : Act (World ω × List Float) op.Reply := Program.noting SharedOp.slept s.handle op

theorem meets_sleeping_log {level : LogLevel} {message : String}
    {post : Except Fault Unit → Context → World ω × List Float → Prop} :
    Meets (Program.handled s.sleeping) (ContextProcedure.log level message) c (w, xs) post ↔
      post (.ok ()) c (s.logged level message w, xs) := by
  refine meets_handled.trans ?_
  show post _ c (_, xs ++ []) ↔ _
  rw [List.append_nil]
  exact Iff.rfl

namespace KeywordProcedure

theorem meets_sleeping_shared {op : SharedOp} {post : Except Fault op.Reply → Context → World ω × List Float → Prop} :
    Meets (Program.handled s.sleeping) (shared op).runIn c (w, xs) post ↔
      post ((s.handle op).run w).1 c (((s.handle op).run w).2, xs ++ op.slept) :=
  meets_keyword_perform.trans meets_handled

theorem meets_keyword_log {level : LogLevel} {message : String}
    {post : Except Fault Unit → Context → World ω × List Float → Prop} :
    Meets (Program.handled s.sleeping) (KeywordProcedure.log level message).runIn c (w, xs) post ↔
      post (.ok ()) c (s.logged level message w, xs) :=
  meets_keyword_perform.trans meets_sleeping_log

theorem meets_inputText {γ : Type} {P : Protocol SharedOp.Reply γ} {g : γ} {key : String}
    {post : Except Fault (Option String) → Context → γ → Prop} :
    Meets P (inputText key).runIn c g post ↔ post (Context.textOf c.input key) c g := by
  unfold inputText Context.textOf
  rw [meets_keyword_bind, meets_keyword_perform]
  unfold KeywordOp.serve
  rw [meets_bind, meets_get]
  dsimp only
  rw [meets_pure]
  dsimp only
  cases c.input.get? key with
  | none => exact Iff.rfl
  | some v =>
    cases v with
    | null => exact Iff.rfl
    | _ =>
      dsimp only
      generalize Value.textOrFault _ = r
      cases r <;> exact Iff.rfl

end KeywordProcedure

namespace BrowserKeyword

open KeywordProcedure

theorem meets_filled {γ : Type} {P : Protocol SharedOp.Reply γ} {g : γ} {key : String} {given : Option String}
    (read : Context.textOf c.input key = .ok given) {post : Except Fault (Option String) → Context → γ → Prop} :
    Meets P (filled key).runIn c g post ↔ post (.ok (given.filter (· ≠ ""))) c g := by
  unfold filled
  rw [meets_keyword_bind, meets_inputText, read]
  dsimp only
  split
  · exact Iff.rfl
  · exact Iff.rfl
  · rename_i text filled
    rw [Option.filter_some, if_pos (decide_eq_true (p := text ≠ "") filled)]
    exact Iff.rfl

variable (report : ∀ tell, s.report = some tell → ∀ call, (tell call).Ordinarily) {id : CaseIdentity}
include report

/-- Telling the report takes no sleep, whatever the report does. -/
theorem meets_sleeping_tell (level : EntryLevel) (message : String) :
    Meets (Program.handled s.sleeping) (tell id level message).runIn c (w, xs) fun r c' g =>
      r = .ok () ∧ c' = c ∧ g.2 = xs := by
  have ordinary : Ordinary ((s.handle (.report (.log level id.testId id.testName message))).run w).1 :=
    Surroundings.ordinarily_tellReport report _ w
  unfold tell
  rw [meets_keyword_bind, runIn_attempt, meets_attempt, meets_sleeping_shared, settled_of_ordinary ordinary]
  cases ((s.handle (.report (.log level id.testId id.testName message))).run w).1 with
  | ok _ => exact ⟨rfl, rfl, List.append_nil xs⟩
  | error fault => exact meets_keyword_log.2 ⟨rfl, rfl, List.append_nil xs⟩

theorem meets_sleeping_announce (message : String) :
    Meets (Program.handled s.sleeping) (announce id message).runIn c (w, xs) fun r c' g =>
      r = .ok () ∧ c' = c ∧ g.2 = xs := by
  unfold announce
  rw [meets_keyword_bind, meets_keyword_log]
  exact meets_sleeping_tell report _ _

theorem meets_sleeping_refuse (message : String) :
    Meets (Program.handled s.sleeping) (refuse id message).runIn c (w, xs) fun r c' g =>
      r = .ok (.bool false) ∧ c' = c.fail message ∧ g.2 = xs := by
  have marks : Meets (Program.handled s.sleeping) (KeywordProcedure.perform (.fail message)).runIn c
      (s.logged .error message w, xs) fun r c' g => r = .ok () ∧ c' = c.fail message ∧ g.2 = xs := by
    rw [meets_keyword_perform]
    show Meets _ (ContextProcedure.fail message) c _ _
    unfold ContextProcedure.fail
    rw [meets_bind, meets_modify]
    exact meets_sleeping_log.2 ⟨rfl, rfl, rfl⟩
  unfold refuse
  rw [meets_keyword_bind, meets_keyword_log]
  dsimp only
  rw [Bool.not_false, if_pos rfl, meets_keyword_bind]
  refine marks.mono ?_
  intro _ _ g told
  obtain ⟨rfl, rfl, same⟩ := told
  obtain ⟨w', _⟩ := g
  obtain rfl : _ = xs := same
  dsimp only
  rw [meets_keyword_bind]
  refine (meets_sleeping_tell report .failed message).mono ?_
  intro _ _ _ told
  obtain ⟨rfl, rfl, same⟩ := told
  exact ⟨rfl, rfl, same⟩

/-! ## Waiting -/

/-- What waiting for a text comes to: the outcome, the context it leaves, and the sleeps it asks for. -/
inductive Waits (text : String) (c : Context) : Except Fault Value → Context → List Float → Prop
  | unread (none : readFloat? text = none) : Waits text c (.ok (.bool false)) (c.fail ("Invalid wait time: " ++ text)) []
  | negative {seconds : Float} (read : readFloat? text = some seconds) (below : seconds < 0.0) :
      Waits text c (.ok (.bool false)) (c.fail ("Invalid wait time: " ++ text)) []
  | slept {seconds : Float} (read : readFloat? text = some seconds) (nonneg : 0.0 ≤ seconds)
      (within : seconds ≤ Host.sleepLimit) : Waits text c (.ok (.bool true)) c [seconds]
  | noNumber {seconds : Float} (read : readFloat? text = some seconds) (no : (seconds == seconds) = false) :
      Waits text c (.error (.plain .value "Invalid value NaN (not a number)")) c [seconds]
  | tooLong {seconds : Float} (read : readFloat? text = some seconds) (above : Host.sleepLimit < seconds) :
      Waits text c (.error (.plain .overflow "timestamp too large to convert to C _PyTime_t")) c [seconds]

end BrowserKeyword

end

namespace BrowserKeyword

open KeywordProcedure

variable {ε : Type} {s : Surroundings (Host ε)} (clock : s.sleep = Host.sleep)
  (report : ∀ tell, s.report = some tell → ∀ call, (tell call).Ordinarily) {id : CaseIdentity} {c : Context}
include clock report

theorem meets_wait {given : Option String} (input : Context.textOf c.input "Seconds" = .ok given) (w : World (Host ε)) :
    Meets (Program.handled s.sleeping) (wait id).runIn c (w, []) fun r c' g =>
      Waits ((given.filter (· ≠ "")).getD "1") c r c' g.2 := by
  unfold wait
  rw [meets_keyword_bind, meets_filled input]
  dsimp only
  generalize (given.filter (· ≠ "")).getD "1" = text
  -- A text that cannot be read and a number below zero are refused in the same words.
  have refuses : ∀ bad : Waits text c (.ok (.bool false)) (c.fail ("Invalid wait time: " ++ text)) [],
      Meets (Program.handled s.sleeping) (refuse id ("Invalid wait time: " ++ text)).runIn c (w, []) fun r c' g =>
        Waits text c r c' g.2 := by
    intro bad
    refine (meets_sleeping_refuse report _).mono ?_
    intro _ _ g told
    obtain ⟨rfl, rfl, same⟩ := told
    exact same ▸ bad
  cases read : readFloat? text with
  | none => exact refuses (.unread read)
  | some seconds =>
    dsimp only
    by_cases below : seconds < 0.0
    · rw [if_pos below]
      exact refuses (.negative read below)
    · rw [if_neg below, meets_keyword_bind]
      refine (meets_sleeping_announce report _).mono ?_
      intro _ _ g told
      obtain ⟨rfl, rfl, same⟩ := told
      obtain ⟨w', _⟩ := g
      obtain rfl : _ = [] := same
      dsimp only
      rw [meets_keyword_bind]
      refine meets_sleeping_shared.2 ?_
      have answer : ((s.handle (.sleep seconds)).run w').1 = ((Host.sleep seconds).run w'.outer).1 := by
        rw [← clock]
        rfl
      rw [answer]
      unfold Host.sleep
      by_cases no : (seconds != seconds) = true
      · rw [if_pos no]
        exact .noNumber read (by simpa [bne] using no)
      · rw [if_neg no]
        have number : (seconds == seconds) = true := by simpa [bne] using no
        by_cases above : Host.sleepLimit < seconds
        · rw [if_pos above]
          exact .tooLong read above
        · rw [if_neg above]
          exact .slept read (number_le_of_not_lt rfl number below) (number_le_of_not_lt number rfl above)

end BrowserKeyword

/-- Surroundings with a clock to sleep by, and a report that cannot be written. -/
def Surroundings.clockwork : Surroundings (Host Unit) where
  log := Host.note
  create _ _ := throw (.plain .runtime "no browser")
  browse _ _ := throw (.plain .runtime "browser is gone")
  defaultConfig := {}
  now := Host.now
  localNow := Host.localNow
  stopwatch h := h.elapsed
  sleep := Host.sleep
  source := ⟨return [], fun _ => return [], fun _ => return []⟩
  report := some fun _ => throw (.plain .runtime "no report")
  capture := .absent
  listeners := []
  outside _ _ := throw (.plain .runtime "no world")

namespace BrowserKeyword

def waiting (seconds : String) : Context := (Context.new ⟨"TC1", "First", .calling⟩ true).addInput "Seconds" (.text seconds)

def noon : Host Unit := Host.start ⟨⟨2024, 5, 1⟩, ⟨0, 0, 0, 0⟩, none⟩ [] ()

end BrowserKeyword

end KeywordSuite
