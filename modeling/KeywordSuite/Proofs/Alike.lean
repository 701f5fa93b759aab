import KeywordSuite.Proofs.Actions
import KeywordSuite.Proofs.Host.Path
import Mathlib.Data.List.Forall2

/-!
# Alike but for the time

Two runs of one test case at different times tell times and durations apart, and the paths that
carry a time stamp. Everything else of them is compared here.
-/

namespace KeywordSuite

/-! ## Texts and values -/

theorem FilePath.text_ne_empty {p : FilePath} {c : Char} {name : String} (other : c ∉ "/".toList)
    (part : name ∈ p.parts) (h : c ∈ name.toList) : p.text ≠ "" := by
  intro empty
  have inside : c ∈ ("/".intercalate p.parts).toList := by
    rw [String.toList_intercalate, mem_intercalate_iff other]
    exact ⟨name.toList, List.mem_map_of_mem part, h⟩
  have more : p.parts.isEmpty = false := by
    rw [List.isEmpty_eq_false_iff]
    exact List.ne_nil_of_mem part
  rw [FilePath.text, more, Bool.and_false, if_neg Bool.false_ne_true, String.append_eq_empty_iff] at empty
  rw [empty.2] at inside
  cases inside

/-- The path of a screenshot is never empty, for its last name ends in `png`. -/
theorem Screenshots.path_text_ne_empty (directory : FilePath) (label : String) (t : Timestamp) :
    (Screenshots.path directory label t).text ≠ "" := by
  have ending : 'g' ∈ (Screenshots.fileName label ++ "_" ++ t.compactMicrosecondText ++ ".png").toList := by
    simp
  obtain ⟨name, part, holds⟩ := FilePath.exists_name_of_mem (by decide) ending
  refine FilePath.text_ne_empty (by decide) ?_ holds
  rw [Screenshots.path, FilePath.joinText, FilePath.join]
  split
  · exact part
  · exact List.mem_append_right _ part

/-- Texts that differ at most in the time stamps of the paths of screenshots in them. -/
inductive TextAlike : String → String → Prop
  | same (s : String) : TextAlike s s
  | stamped (directory : FilePath) (label : String) (t t' : Timestamp) :
      TextAlike (Screenshots.path directory label t).text (Screenshots.path directory label t').text
  | append {a a' b b' : String} : TextAlike a a' → TextAlike b b' → TextAlike (a ++ b) (a' ++ b')

namespace TextAlike

variable {a a' b b' : String}

theorem append_left (s : String) (h : TextAlike a a') : TextAlike (s ++ a) (s ++ a') := (same s).append h

theorem symm (h : TextAlike a b) : TextAlike b a := by
  induction h with
  | same s => exact .same s
  | stamped directory label t t' => exact .stamped directory label t' t
  | append _ _ first rest => exact .append first rest

theorem symm_option {a b : Option String} (h : Option.Rel TextAlike a b) : Option.Rel TextAlike b a := by
  cases h with
  | some alike => exact .some alike.symm
  | none => exact .none

theorem eq_empty_iff (h : TextAlike a b) : a = "" ↔ b = "" := by
  induction h with
  | same s => rfl
  | stamped directory label t t' =>
    exact iff_of_false (Screenshots.path_text_ne_empty directory label t)
      (Screenshots.path_text_ne_empty directory label t')
  | append _ _ iha ihb => rw [String.append_eq_empty_iff, String.append_eq_empty_iff, iha, ihb]

end TextAlike

inductive Value.Alike : Value → Value → Prop
  | same (v : Value) : Alike v v
  | text {s s' : String} : TextAlike s s' → Alike (.text s) (.text s')

/-- The same keys in the same order, with related values. -/
def Entries.Rel {α β : Type} (R : α → β → Prop) : Entries α → Entries β → Prop :=
  List.Forall₂ fun x y => x.1 = y.1 ∧ R x.2 y.2

theorem Entries.Rel.set {α β : Type} {R : α → β → Prop} {entries : Entries α} {entries' : Entries β}
    (h : Entries.Rel R entries entries') (key : String) {x : α} {y : β} (related : R x y) :
    Entries.Rel R (entries.set key x) (entries'.set key y) := by
  induction h with
  | nil => exact .cons ⟨rfl, related⟩ .nil
  | @cons first first' rest rest' same others ih =>
    obtain ⟨name, a⟩ := first
    obtain ⟨_, b⟩ := first'
    obtain ⟨rfl, values⟩ := same
    unfold Entries.set
    split
    · exact .cons ⟨rfl, related⟩ others
    · exact .cons ⟨rfl, values⟩ ih

theorem Entries.Rel.get? {α β : Type} {R : α → β → Prop} {entries : Entries α} {entries' : Entries β}
    (h : Entries.Rel R entries entries') (key : String) : Option.Rel R (entries.get? key) (entries'.get? key) := by
  induction h with
  | nil => exact .none
  | @cons first first' rest rest' same others ih =>
    obtain ⟨name, a⟩ := first
    obtain ⟨_, b⟩ := first'
    obtain ⟨rfl, values⟩ := same
    unfold Entries.get?
    cases hk : key == name <;> simp only [List.lookup_cons, hk]
    · exact ih
    · exact .some values

/-! ## Outcomes -/

/-- Faults that say the same and are no interruption. -/
structure Fault.Alike (fault fault' : Fault) : Prop where
  message : TextAlike fault.message fault'.message
  ordinary : fault.isInterrupt = false
  ordinary' : fault'.isInterrupt = false

/-- Two outcomes with related values, or, where they may fail, with alike faults. -/
inductive Matched {α β : Type} (fails : Prop) (R : α → β → Prop) : Except Fault α → Except Fault β → Prop
  | ok {a : α} {b : β} : R a b → Matched fails R (.ok a) (.ok b)
  | error {fault fault' : Fault} : fails → fault.Alike fault' → Matched fails R (.error fault) (.error fault')

section

variable {α β : Type} {fails : Prop} {R S : α → β → Prop} {r : Except Fault α} {r' : Except Fault β}

theorem Matched.mono (h : Matched fails R r r') (weaker : ∀ a b, R a b → S a b) : Matched fails S r r' := by
  cases h with
  | ok related => exact .ok (weaker _ _ related)
  | error may alike => exact .error may alike

theorem Matched.may {fails' : Prop} (h : Matched fails R r r') (may : fails → fails') : Matched fails' R r r' := by
  cases h with
  | ok related => exact .ok related
  | error f alike => exact .error (may f) alike

theorem Fault.Alike.symm {fault fault' : Fault} (h : fault.Alike fault') : fault'.Alike fault :=
  ⟨h.message.symm, h.ordinary', h.ordinary⟩

theorem Matched.symm {S : β → α → Prop} (h : Matched fails R r r') (turned : ∀ a b, R a b → S b a) :
    Matched fails S r' r := by
  cases h with
  | ok related => exact .ok (turned _ _ related)
  | error may alike => exact .error may alike.symm

theorem Fault.Alike.refl {fault : Fault} (ordinary : fault.isInterrupt = false) : fault.Alike fault :=
  ⟨.same _, ordinary, ordinary⟩

theorem matched_refl {r : Except Fault α} (ordinary : Ordinary r) : Matched True Eq r r := by
  cases r with
  | ok a => exact .ok rfl
  | error fault => exact .error trivial (.refl (ordinary fault rfl))

end

/-! ## Records and results -/

structure KeywordExecution.Alike (e e' : KeywordExecution) : Prop where
  keyword : e.keyword = e'.keyword
  status : e.status = e'.status
  reason : Option.Rel TextAlike e.reason e'.reason
  mandatory : e.mandatory = e'.mandatory

/-- Results that are equal but for times, durations and the paths that carry a time stamp. -/
structure CaseResult.Alike (r r' : CaseResult) : Prop where
  testId : r.testId = r'.testId
  testName : r.testName = r'.testName
  description : r.description = r'.description
  status : r.status = r'.status
  failureReason : Option.Rel TextAlike r.failureReason r'.failureReason
  failureHistory : List.Forall₂ TextAlike r.failureHistory r'.failureHistory
  ticketRef : r.ticketRef = r'.ticketRef
  metadata : Entries.Rel TextAlike r.metadata r'.metadata
  keywords : List.Forall₂ KeywordExecution.Alike r.keywords r'.keywords
  completed : r.completedAt.isSome = r'.completedAt.isSome

theorem CaseResult.Alike.passed {r r' : CaseResult} (h : r.Alike r') : r.passed = r'.passed :=
  congrArg (· == .passed) h.status

end KeywordSuite
