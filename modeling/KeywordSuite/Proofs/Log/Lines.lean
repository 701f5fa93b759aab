import KeywordSuite.Log.Setup
import KeywordSuite.Proofs.Json.Writer
import KeywordSuite.Proofs.Log.Records
import KeywordSuite.Proofs.Sanitizer.Again

/-!
# Lines of a sanitizing log

The line of a record shows its sanitized message. In the text format the handler of the file sanitizes nothing. It
gets the record after the handler of the console, which has the same level and leaves the record sanitized.
-/

namespace KeywordSuite

namespace Sanitizer

theorem sanitizeMapping_of_plain_keys {s : Sanitizer} : ∀ {es : Entries Value},
    (∀ key ∈ es.keys, s.isSensitiveKey key = false) →
      s.sanitizeMapping es = es.map fun (key, v) => (key, s.sanitizeValue v)
  | [], _ => rfl
  | (key, v) :: es, plain => by
    obtain ⟨own, others⟩ := List.forall_mem_cons.1 plain
    rw [sanitizeMapping, List.map_cons, sanitizeMapping_of_plain_keys others, own, Bool.false_and,
      if_neg Bool.false_ne_true]

end Sanitizer

/-! ## The line of a record -/

/-- A record of a text without arguments, whose extra attributes are texts and numbers. -/
structure LogRecord.IsPlain (r : LogRecord) (message : String) : Prop where
  message : r.message = .text message
  arguments : r.arguments.isEmpty = true
  extra : ∀ entry ∈ r.extra, Json.IsField entry.2

/-- The numbers of a record that its JSON text has. -/
def LogRecord.numbers (r : LogRecord) : List Int :=
  r.line :: LogRecord.contextFields.filterMap fun name =>
    match r.extra.get? name with
    | some (.int n) => some n
    | _ => none

namespace LogRecord

variable {r : LogRecord} {message text : String} {now : Timestamp}

theorem mem_jsonEntries {entry : String × Value} (member : entry ∈ r.jsonEntries text now) :
    (entry.1 ∈ ["timestamp", "level", "logger", "message", "module", "function", "thread", "exception"] ∧
      ∃ s, entry.2 = .text s) ∨ entry = ("line", .int r.line) ∨
      entry.1 ∈ contextFields ∧ r.extra.get? entry.1 = some entry.2 := by
  obtain own | exception := List.mem_append.1 member
  · obtain own | context := List.mem_append.1 own
    · simp only [List.mem_cons, List.not_mem_nil, or_false] at own
      rcases own with rfl | rfl | rfl | rfl | rfl | rfl | rfl | rfl <;> simp
    · obtain ⟨name, listed, found⟩ := List.mem_filterMap.1 context
      obtain ⟨v, held, rfl⟩ := Option.map_eq_some_iff.1 found
      exact .inr (.inr ⟨listed, held⟩)
  · cases known : r.fault with
    | none =>
      rw [known] at exception
      cases exception
    | some fault =>
      rw [known] at exception
      obtain rfl := List.mem_singleton.1 exception
      exact .inl ⟨by simp, _, rfl⟩

theorem plain_keys_jsonEntries (r : LogRecord) (text : String) (now : Timestamp) :
    ∀ key ∈ (r.jsonEntries text now).keys, Sanitizer.standard.isSensitiveKey key = false := by
  intro key member
  obtain ⟨entry, listed, rfl⟩ := List.mem_map.1 member
  obtain ⟨own, -⟩ | rfl | ⟨context, -⟩ := mem_jsonEntries listed
  · revert own
    generalize entry.1 = key
    revert key
    decide +kernel
  · change Sanitizer.standard.isSensitiveKey "line" = false
    decide +kernel
  · revert context
    generalize entry.1 = key
    revert key
    decide +kernel

theorem int_mem_jsonEntries {n : Int} : (∃ key, (key, .int n) ∈ r.jsonEntries text now) ↔ n ∈ r.numbers := by
  unfold numbers
  rw [List.mem_cons, List.mem_filterMap]
  constructor
  · rintro ⟨key, member⟩
    obtain ⟨-, s, same⟩ | same | ⟨context, held⟩ := mem_jsonEntries member
    · cases same
    · cases same
      exact .inl rfl
    · exact .inr ⟨key, context, by rw [held]⟩
  · rintro (rfl | ⟨name, context, found⟩)
    · exact ⟨"line", List.mem_append_left _ (List.mem_append_left _ (by simp))⟩
    · refine ⟨name, List.mem_append_left _ (List.mem_append_right _ (List.mem_filterMap.2 ⟨name, context, ?_⟩))⟩
      split at found
      · rename_i m held
        cases found
        rw [held]
        rfl
      · cases found

theorem IsPlain.fields (plain : r.IsPlain message) : ∀ entry ∈ r.jsonEntries text now, Json.IsField entry.2 := by
  intro entry member
  obtain ⟨-, s, same⟩ | rfl | ⟨-, held⟩ := mem_jsonEntries member
  · rw [same]
    trivial
  · trivial
  · exact plain.extra _ (Entries.mem_of_get? held)

/-- What the JSON text of a record is made of. -/
def sanitizedEntries (r : LogRecord) (text : String) (now : Timestamp) : Entries Value :=
  Sanitizer.standard.sanitizeMapping (r.jsonEntries text now)

theorem get?_message_sanitizedEntries :
    (r.sanitizedEntries text now).get? "message" = some (.text (Sanitizer.standard.sanitizeString text)) := by
  unfold sanitizedEntries
  rw [Sanitizer.sanitizeMapping_of_plain_keys (plain_keys_jsonEntries r text now)]
  rfl

theorem exists_line_iff (plain : r.IsPlain message) (text : String) (now : Timestamp) :
    (∃ line, Json.write (.dict (r.sanitizedEntries text now)) = .ok line) ↔ ∀ n ∈ r.numbers, ¬ Json.TooLong n := by
  have whole := Sanitizer.sanitizeMapping_of_plain_keys (plain_keys_jsonEntries r text now)
  have kept : ∀ v n, Json.IsField v → (Sanitizer.standard.sanitizeValue v = .int n ↔ v = .int n) := by
    intro v n field
    cases v <;> first | exact field.elim | simp [Sanitizer.sanitizeValue]
  have fields : ∀ entry ∈ r.sanitizedEntries text now, Json.IsField entry.2 := by
    intro entry member
    unfold sanitizedEntries at member
    rw [whole] at member
    obtain ⟨⟨key, v⟩, listed, rfl⟩ := List.mem_map.1 member
    have field := plain.fields _ listed
    cases v <;> first | exact field.elim | trivial
  rw [Json.exists_write_dict_iff fields]
  unfold sanitizedEntries
  rw [whole]
  constructor
  · intro short n listed
    obtain ⟨key, member⟩ := int_mem_jsonEntries.2 listed
    exact short (key, .int n) (List.mem_map.2 ⟨_, member, rfl⟩) n rfl
  · intro short entry member n same
    obtain ⟨⟨key, v⟩, listed, rfl⟩ := List.mem_map.1 member
    obtain rfl := (kept v n (plain.fields _ listed)).1 same
    exact short n (int_mem_jsonEntries.1 ⟨key, listed⟩)

end LogRecord

/-! ## The handlers of a sanitizing log -/

namespace LogRecord

/-- How a line shows the message of a record, in JSON or not. -/
inductive Shows (r : LogRecord) (now : Timestamp) (shown : String) : Bool → String → Prop
  | text : Shows r now shown false
      (clockText now ++ " - " ++ r.thread ++ " - " ++ r.logger ++ " - " ++ r.level.label ++ " - " ++ shown ++
        (match r.fault with
          | some fault => "\n" ++ faultText fault
          | none => ""))
  | json {text line : String} : (r.sanitizedEntries text now).get? "message" = some (.text shown) →
      Json.write (.dict (r.sanitizedEntries text now)) = .ok line → Shows r now shown true line

/-- How often a message is sanitized until it is in the file, in JSON or not. -/
def passes (json : Bool) : Nat := if json then 3 else 1

/-- What a record comes to in a file: no line, or one that shows its sanitized message. -/
inductive Filed (own threshold : Nat) (json : Bool) (now : Timestamp) (r : LogRecord) : Option String → Prop
  | below : r.level.number < threshold → Filed own threshold json now r none
  | disabled : r.level.number < own → Filed own threshold json now r none
  | refused {name : String} : name ∈ r.extra.keys → name ∈ reservedAttributes → Filed own threshold json now r none
  | unwritable {n : Int} : json = true → n ∈ r.numbers → Json.TooLong n → Filed own threshold json now r none
  | written {message shown line : String} : threshold ≤ r.level.number → own ≤ r.level.number →
      (∀ name ∈ r.extra.keys, name ∉ reservedAttributes) → (json = true → ∀ n ∈ r.numbers, ¬ Json.TooLong n) →
      r.message = .text message → shown = Sanitizer.standard.sanitizeString^[passes json] message →
      (Sanitizer.standard.sanitizeString message ≠ message → shown ≠ message) → Shows r now shown json line →
      Filed own threshold json now r (some line)

variable {r : LogRecord} {message : String} {now : Timestamp}

theorem IsPlain.sanitized (plain : r.IsPlain message) :
    (Sanitizer.standard.sanitizeRecord r).IsPlain (Sanitizer.standard.sanitizeString message) where
  message := by rw [Sanitizer.sanitizeRecord, plain.message]; rfl
  arguments := (isEmpty_sanitizeArguments _ _).trans plain.arguments
  extra := plain.extra

theorem IsPlain.text (plain : r.IsPlain message) : r.text = .ok message := by
  rw [text_of_isEmpty plain.arguments, plain.message]
  rfl

end LogRecord

namespace LogSetup

variable {ε : Type} {threshold : Nat} {json : Bool} {file message : String} {r : LogRecord} {now : Timestamp}

/-- A log that sanitizes, with a file. -/
def sanitizing (threshold : Nat) (json : Bool) (file : String) : LogSetup :=
  ⟨threshold, [consoleHandler threshold json true, fileHandler file threshold json true]⟩

theorem leaves_consoleHandler (r : LogRecord) :
    (consoleHandler threshold json true).leaves r = Sanitizer.standard.sanitizeRecord r := by
  cases json <;> rfl

/-- The line that the handler of the file makes of the record as the console left it. -/
def fileLine? (threshold : Nat) (json : Bool) (file : String) (r : LogRecord) (now : Timestamp) : Option String :=
  if threshold ≤ r.level.number then
    ((fileHandler file threshold json true).line (Sanitizer.standard.sanitizeRecord r) now).toOption
  else none

theorem filed_fileLine? {own : Nat} (plain : r.IsPlain message) (enabled : own ≤ r.level.number)
    (allowed : ∀ name ∈ r.extra.keys, name ∉ reservedAttributes) :
    r.Filed own threshold json now (fileLine? threshold json file r now) := by
  unfold fileLine?
  split
  case isFalse low => exact .below (Nat.not_le.1 low)
  case isTrue high =>
    cases json with
    | false =>
      have line : (fileHandler file threshold false true).line (Sanitizer.standard.sanitizeRecord r) now =
          (Sanitizer.standard.sanitizeRecord r).plainLine now := rfl
      rw [line]
      unfold LogRecord.plainLine
      rw [plain.sanitized.text]
      exact .written high enabled allowed (fun never => by cases never) plain.message rfl id .text
    | true =>
      -- The record is sanitized by both handlers, and its entries once more.
      let text := Sanitizer.standard.sanitizeString (Sanitizer.standard.sanitizeString message)
      have line : (fileHandler file threshold true true).line (Sanitizer.standard.sanitizeRecord r) now =
          (Json.write (.dict (r.sanitizedEntries text now))).mapError Fault.ofTextFault := by
        change (Sanitizer.standard.sanitizeRecord (Sanitizer.standard.sanitizeRecord r)).text >>= _ = _
        rw [plain.sanitized.sanitized.text]
        rfl
      rw [line]
      have writes := LogRecord.exists_line_iff plain text now
      cases written : Json.write (.dict (r.sanitizedEntries text now)) with
      | ok line =>
        have short := writes.1 ⟨line, written⟩
        exact .written high enabled allowed (fun _ => short) plain.message rfl Sanitizer.masked_thrice_ne
          (.json LogRecord.get?_message_sanitizedEntries written)
      | error fault =>
        have long : ¬ ∀ n ∈ r.numbers, ¬ Json.TooLong n := by
          rw [← writes, written]
          exact fun ⟨_, never⟩ => by cases never
        push Not at long
        obtain ⟨n, shown, long⟩ := long
        exact .unwritable rfl shown long

theorem emit_sanitizing (threshold : Nat) (json : Bool) (file : String) (r : LogRecord) (now : Timestamp) :
    ∃ others : List (LogTarget × String), (∀ line ∈ others, ∀ path, line.1 ≠ .file path) ∧
      (sanitizing threshold json file).emit r now =
        others ++ (fileLine? threshold json file r now).toList.map (LogTarget.file file, ·) := by
  have console : (consoleHandler threshold json true).takes r.level = decide (threshold ≤ r.level.number) := by
    cases json <;> rfl
  have filed : ∀ level, (fileHandler file threshold json true).takes level = decide (threshold ≤ level.number) :=
    fun _ => rfl
  have same : (Sanitizer.standard.sanitizeRecord r).level = r.level := rfl
  have target : ∀ path, (consoleHandler threshold json true).target ≠ .file path := by
    cases json <;> simp [consoleHandler]
  unfold emit sanitizing fileLine?
  simp only [linesOf, console, filed, leaves_consoleHandler, same]
  by_cases high : threshold ≤ r.level.number
  · simp only [high, decide_true, if_true]
    cases (consoleHandler threshold json true).line r now with
    | ok line =>
      refine ⟨[((consoleHandler threshold json true).target, line)], by simpa using target, ?_⟩
      cases (fileHandler file threshold json true).line (Sanitizer.standard.sanitizeRecord r) now <;> rfl
    | error fault =>
      refine ⟨[], by simp, ?_⟩
      cases (fileHandler file threshold json true).line (Sanitizer.standard.sanitizeRecord r) now <;> rfl
  · simp only [high, decide_false, if_false]
    exact ⟨[], by simp, rfl⟩

end LogSetup

end KeywordSuite
