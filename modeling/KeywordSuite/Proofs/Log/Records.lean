import KeywordSuite.Log.Format
import KeywordSuite.Proofs.Alike
import KeywordSuite.Proofs.Json.Reader
import KeywordSuite.Proofs.Sanitizer.Keys

/-!
# The texts of sanitized records

A record is sanitized before its arguments are put into its message: the message and the arguments
are masked each by itself. What a conversion makes of an argument it can make of the masked one, so
a message that holds no credential of its own can still be filled in.
-/

namespace KeywordSuite

open LogTemplate

/-- Where the first outcome is a value, so is the second, and they are related. -/
def Upholds {α β : Type} (R : α → β → Prop) (x : Except Fault α) (y : Except Fault β) : Prop :=
  ∀ a, x = .ok a → ∃ b, y = .ok b ∧ R a b

section

variable {α β γ δ : Type} {R : α → β → Prop} {S : γ → δ → Prop} {x : Except Fault α} {y : Except Fault β}

theorem upholds_ok {a : α} {b : β} (h : R a b) : Upholds R (.ok a) (.ok b) := by
  rintro _ ⟨⟩
  exact ⟨b, rfl, h⟩

theorem upholds_error {fault : Fault} : Upholds R (.error fault) y := fun _ h => nomatch h

theorem upholds_bind {f : α → Except Fault γ} {g : β → Except Fault δ} (h : Upholds R x y)
    (next : ∀ a b, R a b → Upholds S (f a) (g b)) : Upholds S (x >>= f) (y >>= g) := by
  intro c made
  obtain ⟨a, rfl, made⟩ := ok_of_bind made
  obtain ⟨b, rfl, related⟩ := h a rfl
  exact next a b related c made

end

namespace Value

/-- Whether what can be made of `v` in a message can be made of `v'`. -/
structure GivesWay (v v' : Value) : Prop where
  number : exactNumber? v' = exactNumber? v
  converts : ∀ {kind shape s}, convert? kind shape v = some (.ok s) → ∃ s', convert? kind shape v' = some (.ok s')

/-- A value that is no number. -/
def Plain : Value → Prop
  | .bool _ | .int _ | .float _ => False
  | _ => True

/-- A value that is no number and no single character. -/
def Worded : Value → Prop
  | .text s => s.toList.length ≠ 1
  | v => v.Plain

variable {v v' : Value}

theorem GivesWay.refl (v : Value) : v.GivesWay v := ⟨rfl, fun h => ⟨_, h⟩⟩

theorem Plain.exactNumber? (h : v.Plain) : exactNumber? v = none := by
  cases v with
  | bool _ | int _ | float _ => cases h
  | _ => rfl

theorem Plain.wholeNumber (h : v.Plain) (other : Except Fault Int) : wholeNumber other v = other := by
  cases v with
  | bool _ | int _ | float _ => cases h
  | _ => rfl

theorem Plain.numberFor (h : v.Plain) (kind : Char) : ∃ fault, numberFor kind v = .error fault := by
  simp only [LogTemplate.numberFor, h.exactNumber?, h.wholeNumber]
  split <;> exact ⟨_, rfl⟩

theorem Plain.asFloat (h : v.Plain) : ∃ fault, asFloat v = .error fault := by
  cases v with
  | bool _ | int _ | float _ => cases h
  | _ => exact ⟨_, rfl⟩

theorem ok_of_map {α β : Type} {x : Except Fault α} {f : α → β} {b : β} (h : x.map f = .ok b) : ∃ a, x = .ok a := by
  cases x with
  | ok a => exact ⟨a, rfl⟩
  | error fault => cases h

theorem ok_of_mapError {x : Except TextFault String} {s : String} (h : x.mapError Fault.ofTextFault = .ok s) :
    x = .ok s := by
  cases x with
  | ok a => exact congrArg _ (Except.ok.inj h)
  | error fault => cases h

/-- A value that is no number is only shown, or taken for a character. -/
theorem Plain.of_convert {kind : Char} {shape : ConversionShape} {s : String} (h : v.Plain)
    (made : convert? kind shape v = some (.ok s)) :
    (kind = 's' ∧ ∃ t, v.toText = .ok t) ∨ ((kind = 'r' ∨ kind = 'a') ∧ v.Shows) ∨
      (kind = 'c' ∧ ∃ c, charOf v = .ok c) := by
  obtain ⟨fault, number⟩ := h.numberFor kind
  obtain ⟨fault', float⟩ := h.asFloat
  unfold convert? at made
  simp only [number, float] at made
  split at made
  case h_1 =>
    obtain ⟨t, text⟩ := ok_of_map (Option.some.inj made)
    exact .inl ⟨rfl, t, ok_of_mapError text⟩
  case h_2 =>
    obtain ⟨t, text⟩ := ok_of_map (Option.some.inj made)
    exact .inr (.inl ⟨.inl rfl, t, ok_of_mapError text⟩)
  case h_3 =>
    obtain ⟨t, text⟩ := ok_of_map (Option.some.inj made)
    exact .inr (.inl ⟨.inr rfl, t, ok_of_mapError text⟩)
  case h_4 => exact .inr (.inr ⟨rfl, ok_of_map (Option.some.inj made)⟩)
  all_goals cases made

/-- What is shown instead of a value that is no number gives way to it where it can be shown. -/
theorem Plain.givesWay (h : v.Plain) (h' : v'.Plain) (text : (∃ t, v.toText = .ok t) → ∃ t, v'.toText = .ok t)
    (shows : v.Shows → v'.Shows) (char : (∃ c, charOf v = .ok c) → ∃ c, charOf v' = .ok c) : v.GivesWay v' := by
  refine ⟨by rw [h.exactNumber?, h'.exactNumber?], fun made => ?_⟩
  obtain ⟨rfl, known⟩ | ⟨rfl | rfl, known⟩ | ⟨rfl, known⟩ := h.of_convert made
  · obtain ⟨t, ht⟩ := text known
    exact ⟨_, by simp only [convert?, ht]; rfl⟩
  · obtain ⟨t, ht⟩ := shows known
    exact ⟨_, by simp only [convert?, ht]; rfl⟩
  · obtain ⟨t, ht⟩ := shows known
    exact ⟨_, by simp only [convert?, ht]; rfl⟩
  · obtain ⟨c, hc⟩ := char known
    exact ⟨_, by simp only [convert?, hc]; rfl⟩

theorem Plain.givesWay_text (h : v.Plain) {s : String} (char : (∃ c, charOf v = .ok c) → ∃ c, charOf (.text s) = .ok c) :
    v.GivesWay (.text s) :=
  h.givesWay trivial (fun _ => ⟨_, rfl⟩) (fun _ => ⟨_, rfl⟩) char

theorem length_of_charOf {s : String} {c : Char} (h : charOf (.text s) = .ok c) : s.toList = [c] := by
  unfold charOf at h
  dsimp only at h
  split at h
  · rename_i letter whole
    rw [whole, Except.ok.inj h]
  · cases h

theorem Worded.givesWay (h : v.Worded) (s : String) : v.GivesWay (.text s) := by
  have plain : v.Plain := by
    cases v with
    | text _ => trivial
    | _ => exact h
  refine plain.givesWay_text fun ⟨c, char⟩ => ?_
  cases v with
  | text t => exact absurd (by rw [length_of_charOf char]; rfl) h
  | bool _ | int _ | float _ => cases h
  | _ => cases char

end Value

/-! ## Masked arguments -/

/-- A match takes at least two characters. -/
theorem CredentialPattern.maskText_single {p : CredentialPattern} (apart : p.StandsApart) (c : Char) :
    p.maskText [c] = [c] := by
  rw [maskText, maskFrom]
  cases found : p.matchAt? none [c] with
  | none => rfl
  | some m =>
    obtain ⟨b, s, a, rest, split, shape, -⟩ := exists_matches found
    obtain ⟨b', d, rfl, -⟩ := apart.starts shape
    have some := List.length_pos_iff.mpr (apart.secret _ _ _ _ _ shape)
    have length := congrArg List.length split
    simp only [List.length_append, List.length_cons, List.length_nil] at length
    omega

namespace Sanitizer

open Value

variable {keys : List String}

theorem sanitizeChars_single (keys : List String) (c : Char) : (new keys).sanitizeChars [c] = [c] := by
  have keyed := CredentialPattern.maskText_single Credential.keyValue_standsApart c
  have announced := CredentialPattern.maskText_single Credential.bearerToken_standsApart c
  have located := CredentialPattern.maskText_single Credential.urlCredentials_standsApart c
  have masked : Credential.urlCredentials.maskText
      (Credential.bearerToken.maskText (Credential.keyValue.maskText [c])) = [c] := by
    rw [keyed, announced, located]
  exact masked

theorem givesWay_sanitizeString (keys : List String) (t : String) :
    (Value.text t).GivesWay (.text ((new keys).sanitizeString t)) := by
  refine Plain.givesWay_text (v := .text t) trivial fun ⟨c, char⟩ => ⟨c, ?_⟩
  rw [sanitizeString, length_of_charOf char, sanitizeChars_single]
  simp [charOf]

theorem givesWay_verdict (v : Verdict) (s : String) : (Value.verdict v).GivesWay (.text s) :=
  Worded.givesWay (v := .verdict v) trivial s

mutual

theorem shows_sanitizeValue (s : Sanitizer) : ∀ v : Value, v.Shows → (s.sanitizeValue v).Shows
  | .dict entries, h =>
    shows_dict_iff.mpr (by simpa [sanitizeValue] using shows_sanitizeMapping s entries (shows_dict_iff.mp h))
  | .text _, _ | .verdict _, _ => ⟨_, rfl⟩
  | .null, h | .bool _, h | .int _, h | .float _, h | .list _, h | .datetime _, h | .date _, h | .time _, h
  | .textless _, h => h

theorem shows_sanitizeMapping (s : Sanitizer) : ∀ entries : Entries Value, (∀ entry ∈ entries, entry.2.Shows) →
    ∀ entry ∈ s.sanitizeMapping entries, entry.2.Shows
  | [], h => h
  | (key, v) :: rest, h => by
    rw [sanitizeMapping, List.forall_mem_cons]
    refine ⟨?_, shows_sanitizeMapping s rest fun entry member => h entry (List.mem_cons_of_mem _ member)⟩
    dsimp only
    split
    · exact ⟨_, rfl⟩
    · exact shows_sanitizeValue s v (h _ List.mem_cons_self)

end

theorem givesWay_sanitizeItem (keys : List String) (v : Value) : v.GivesWay ((new keys).sanitizeItem v) := by
  cases v with
  | text t => exact givesWay_sanitizeString keys t
  | verdict v => exact givesWay_verdict v _
  | _ => exact .refl _

theorem givesWay_sanitizeValue (keys : List String) (v : Value) : v.GivesWay ((new keys).sanitizeValue v) := by
  cases v with
  | text t => exact givesWay_sanitizeString keys t
  | verdict v => exact givesWay_verdict v _
  | dict entries =>
    have shows := shows_sanitizeValue (new keys) (.dict entries)
    exact Plain.givesWay trivial trivial shows shows fun ⟨c, char⟩ => nomatch char
  | _ => exact .refl _

theorem givesWay_sanitizeMapping {entries : Entries Value}
    (worded : ∀ entry ∈ entries, (new keys).isSensitiveKey entry.1 = true → entry.2.Worded) :
    Entries.Rel GivesWay entries ((new keys).sanitizeMapping entries) := by
  induction entries with
  | nil => exact .nil
  | cons entry rest ih =>
    obtain ⟨key, v⟩ := entry
    rw [List.forall_mem_cons] at worded
    rw [sanitizeMapping]
    refine .cons ⟨rfl, ?_⟩ (ih worded.2)
    dsimp only
    split
    · rename_i sensitive
      exact (worded.1 (Bool.and_eq_true_iff.mp sensitive).1).givesWay _
    · exact givesWay_sanitizeValue keys v

end Sanitizer

/-! ## Filling in messages -/

/-- Whether one supply has the values of the other, or values that they give way to. -/
inductive LogTemplate.Supply.GivesWay : Supply → Supply → Prop
  | items {vs vs' : List Value} : List.Forall₂ Value.GivesWay vs vs' → GivesWay (.items vs) (.items vs')
  | named {entries entries' : Entries Value} {next next' : Option Value} : Entries.Rel Value.GivesWay entries entries' →
      Option.Rel Value.GivesWay next next' → GivesWay (.named entries next) (.named entries' next')

namespace LogTemplate

variable {s s' : Supply}

theorem Supply.GivesWay.take (h : s.GivesWay s') :
    Upholds (fun p q => p.1.GivesWay q.1 ∧ p.2.GivesWay q.2) s.take s'.take := by
  cases h with
  | items values =>
    cases values with
    | nil => exact upholds_error
    | cons first others => exact upholds_ok ⟨first, .items others⟩
  | named entries next =>
    cases next with
    | none => exact upholds_error
    | some value => exact upholds_ok ⟨value, .named entries .none⟩

theorem Supply.GivesWay.choose (h : s.GivesWay s') (name : String) :
    Upholds Supply.GivesWay (s.choose name) (s'.choose name) := by
  cases h with
  | items _ => exact upholds_error
  | @named entries entries' _ _ related _ =>
    unfold Supply.choose
    have found := related.get? name
    dsimp only
    cases held : entries.get? name with
    | none => exact upholds_error
    | some v =>
      rw [held] at found
      cases held' : entries'.get? name with
      | none =>
        rw [held'] at found
        cases found
      | some v' =>
        rw [held'] at found
        cases found with
        | some value => exact upholds_ok (.named related (.some value))

/-- The same of both supplies, and what is left of them. -/
def Ahead {α : Type} (p q : α × Supply) : Prop := p.1 = q.1 ∧ p.2.GivesWay q.2

theorem Supply.GivesWay.takeNumber (h : s.GivesWay s') (bits : Nat) (size : String) :
    Upholds Ahead (s.takeNumber bits size) (s'.takeNumber bits size) := by
  refine upholds_bind h.take ?_
  rintro ⟨v, t⟩ ⟨v', t'⟩ ⟨value, left⟩
  dsimp only at value left ⊢
  rw [value.number]
  cases exactNumber? v with
  | none => exact upholds_error
  | some n =>
    dsimp only
    split
    · exact upholds_ok ⟨rfl, left⟩
    · exact upholds_error

theorem readName_of_unnamed {cs : List Char} (unnamed : ∀ rest, cs ≠ '(' :: rest) (s : Supply) :
    readName cs s = .ok (cs, s) := by
  unfold readName
  split
  · exact absurd rfl (unnamed _)
  · exact absurd rfl (unnamed _)
  · rfl

theorem Supply.GivesWay.readName (h : s.GivesWay s') (cs : List Char) : Upholds Ahead (readName cs s) (readName cs s') := by
  by_cases named : ∃ rest, cs = '(' :: rest
  · obtain ⟨rest, rfl⟩ := named
    cases h with
    | items _ => exact upholds_error
    | named entries next =>
      simp only [LogTemplate.readName]
      cases takeClosed 0 rest with
      | none => exact upholds_error
      | some closed =>
        refine upholds_bind ((Supply.GivesWay.named entries next).choose _) fun t t' left => ?_
        exact upholds_ok ⟨rfl, left⟩
  · have unnamed : ∀ rest, cs ≠ '(' :: rest := fun rest h => named ⟨rest, h⟩
    rw [readName_of_unnamed unnamed, readName_of_unnamed unnamed]
    exact upholds_ok ⟨rfl, h⟩

theorem Supply.GivesWay.readWidth (h : s.GivesWay s') (shape : ConversionShape) (cs : List Char) :
    Upholds (fun p q => p.1 = q.1 ∧ Ahead p.2 q.2) (readWidth shape cs s) (readWidth shape cs s') := by
  unfold LogTemplate.readWidth
  split
  · refine upholds_bind (h.takeNumber 64 "ssize_t") ?_
    rintro ⟨n, t⟩ ⟨_, t'⟩ ⟨rfl, left⟩
    exact upholds_ok ⟨rfl, rfl, left⟩
  · exact upholds_ok ⟨rfl, rfl, h⟩

theorem Supply.GivesWay.readPrecision (h : s.GivesWay s') (shape : ConversionShape) (cs : List Char) :
    Upholds (fun p q => p.1 = q.1 ∧ Ahead p.2 q.2) (readPrecision shape cs s) (readPrecision shape cs s') := by
  unfold LogTemplate.readPrecision
  split
  · refine upholds_bind (h.takeNumber 32 "int") ?_
    rintro ⟨n, t⟩ ⟨_, t'⟩ ⟨rfl, left⟩
    exact upholds_ok ⟨rfl, rfl, left⟩
  · exact upholds_ok ⟨rfl, rfl, h⟩
  · exact upholds_ok ⟨rfl, rfl, h⟩

theorem Supply.GivesWay.readConversion (h : s.GivesWay s') (length : Nat) (cs : List Char) :
    Upholds (fun p q => Ahead p.2 q.2) (readConversion length cs s) (readConversion length cs s') := by
  refine upholds_bind (h.readName cs) ?_
  rintro ⟨cs, s⟩ ⟨_, s'⟩ ⟨rfl, h⟩
  refine upholds_bind (h.readWidth _ _) ?_
  rintro ⟨shape, cs, s⟩ ⟨_, _, s'⟩ ⟨rfl, rfl, h⟩
  refine upholds_bind (h.readPrecision _ _) ?_
  rintro ⟨shape, cs, s⟩ ⟨_, _, s'⟩ ⟨rfl, rfl, h⟩
  dsimp only
  cases dropSizeMark cs with
  | nil => exact upholds_error
  | cons kind rest =>
    refine upholds_bind h.take ?_
    rintro ⟨v, s⟩ ⟨v', s'⟩ ⟨value, h⟩
    dsimp only at value h ⊢
    cases made : convert? kind shape v with
    | none => exact upholds_error
    | some text =>
      cases text with
      | error fault => exact upholds_error
      | ok text =>
        obtain ⟨text', made'⟩ := value.converts made
        rw [made']
        exact upholds_ok ⟨rfl, h⟩

/-- By induction on what is left of the message: each conversion takes the same part of both supplies. -/
theorem Supply.GivesWay.fill (h : s.GivesWay s') (length fuel : Nat) (cs : List Char) :
    Upholds (fun _ _ => True) (fill length fuel cs s) (fill length fuel cs s') := by
  induction fuel generalizing cs s s' with
  | zero => exact upholds_ok trivial
  | succ fuel ih =>
    unfold LogTemplate.fill
    split
    case h_1 impossible => cases impossible
    case h_2 => exact upholds_error
    case h_3 none =>
      cases h with
      | items values =>
        cases values with
        | nil => exact upholds_ok trivial
        | cons _ _ => exact absurd rfl (none _ _)
      | named _ _ => exact upholds_ok trivial
    case h_4 same =>
      cases same
      exact upholds_bind (ih h _) fun _ _ _ => upholds_ok trivial
    case h_5 same =>
      cases same
      refine upholds_bind (h.readConversion _ _) ?_
      rintro ⟨text, rest, s⟩ ⟨text', _, s'⟩ ⟨rfl, h⟩
      exact upholds_bind (ih h _) fun _ _ _ => upholds_ok trivial
    case h_6 same =>
      cases same
      exact upholds_bind (ih h _) fun _ _ _ => upholds_ok trivial

theorem Supply.GivesWay.apply (h : s.GivesWay s') (message : String) :
    Upholds (fun _ _ => True) (apply message s) (apply message s') :=
  upholds_bind (h.fill _ _ _) fun _ _ _ => upholds_ok trivial

end LogTemplate

/-! ## Records -/

namespace LogArguments

/-- Whether every value under a sensitive key is one that a text may stand for. -/
def Maskable (s : Sanitizer) : LogArguments → Prop
  | .named entries => ∀ entry ∈ entries, s.isSensitiveKey entry.1 = true → entry.2.Worded
  | _ => True

end LogArguments

namespace LogRecord

variable {keys : List String} {r : LogRecord}

theorem text_of_isEmpty (empty : r.arguments.isEmpty = true) : r.text = r.message.textOrFault := by
  unfold LogRecord.text
  match h : r.arguments with
  | .none | .items [] | .named [] => exact bind_pure _
  | .items (_ :: _) | .named (_ :: _) =>
    rw [h] at empty
    cases empty

theorem isEmpty_sanitizeArguments (s : Sanitizer) (a : LogArguments) : (s.sanitizeArguments a).isEmpty = a.isEmpty := by
  match a with
  | .none | .items [] | .named [] | .items (_ :: _) | .named (_ :: _) => rfl

theorem text_sanitizeRecord (empty : r.arguments.isEmpty = true) :
    ((Sanitizer.new keys).sanitizeRecord r).text = ((Sanitizer.new keys).sanitizeMessage r.message).textOrFault :=
  text_of_isEmpty (r := (Sanitizer.new keys).sanitizeRecord r) (by rw [← empty]; exact isEmpty_sanitizeArguments _ _)

/-- A record whose message is kept as it is can still be filled in. -/
theorem upholds_text_of_message_kept (maskable : r.arguments.Maskable (Sanitizer.new keys))
    (kept : (Sanitizer.new keys).sanitizeMessage r.message = r.message) :
    Upholds (fun _ _ => True) r.text ((Sanitizer.new keys).sanitizeRecord r).text := by
  obtain ⟨logger, level, message, arguments, moduleName, function, line, thread, fault, extra⟩ := r
  dsimp only at maskable kept
  simp only [LogRecord.text, Sanitizer.sanitizeRecord, kept]
  refine upholds_bind (R := Eq) (fun text made => ⟨text, made, rfl⟩) ?_
  rintro text _ rfl
  match arguments, maskable with
  | .none, _ | .items [], _ | .named [], _ => exact upholds_ok trivial
  | .items (v :: vs), _ =>
    have values : List.Forall₂ Value.GivesWay (v :: vs) ((v :: vs).map (Sanitizer.new keys).sanitizeItem) :=
      List.forall₂_map_right_iff.mpr (List.forall₂_same.mpr fun v _ => Sanitizer.givesWay_sanitizeItem keys v)
    exact (LogTemplate.Supply.GivesWay.items values).apply text
  | .named ((key, v) :: rest), worded =>
    have related : Entries.Rel Value.GivesWay ((key, v) :: rest)
        ((Sanitizer.new keys).sanitizeMapping ((key, v) :: rest)) := Sanitizer.givesWay_sanitizeMapping worded
    have whole := Sanitizer.givesWay_sanitizeValue keys (.dict ((key, v) :: rest))
    exact (LogTemplate.Supply.GivesWay.named related (.some whole)).apply text

theorem keysMasked_sanitizeString (keys : List String) (t : String) :
    KeysMasked ((Sanitizer.new keys).sanitizeString t).toList := by
  rw [Sanitizer.sanitizeString, String.toList_ofList]
  exact keysMasked_sanitizeChars keys t.toList

theorem keysMasked_sanitizeItem {v : Value} {t : String} (h : (Sanitizer.new keys).sanitizeItem v = .text t) :
    KeysMasked t.toList := by
  cases v with
  | text s | verdict s =>
    cases h
    exact keysMasked_sanitizeString keys _
  | _ => cases h

theorem keysMasked_sanitizeValue {v : Value} {t : String} (h : (Sanitizer.new keys).sanitizeValue v = .text t) :
    KeysMasked t.toList := by
  cases v with
  | text s | verdict s =>
    cases h
    exact keysMasked_sanitizeString keys _
  | _ => cases h

theorem keysMasked_mask : KeysMasked mask := by
  have kept : (Sanitizer.new []).sanitizeChars mask = mask := by decide +kernel
  rw [← kept]
  exact keysMasked_sanitizeChars [] mask

theorem keysMasked_sanitizeMapping {entries : Entries Value} {key : String} {t : String}
    (h : (key, .text t) ∈ (Sanitizer.new keys).sanitizeMapping entries) : KeysMasked t.toList := by
  induction entries with
  | nil => cases h
  | cons entry rest ih =>
    rw [Sanitizer.sanitizeMapping, List.mem_cons, Prod.mk.injEq] at h
    obtain ⟨-, first⟩ | later := h
    · split at first
      · cases first
        exact keysMasked_mask
      · exact keysMasked_sanitizeValue first.symm
    · exact ih later

end LogRecord

open LogRecord in
/-- What holds of the text of a sanitized record. Without arguments it is the masked message, and all
keys in it are masked; with arguments, the message and each text among them are masked by themselves,
and they still fit together if the message needed no masking. -/
theorem sanitized_record_text (keys : List String) (r : LogRecord) :
    (∀ m, (r.message = .text m ∨ ∃ v, r.message = .verdict v ∧ m = v.label) → r.arguments.isEmpty = true →
      ((Sanitizer.new keys).sanitizeRecord r).text = .ok ((Sanitizer.new keys).sanitizeString m) ∧
        KeysMasked ((Sanitizer.new keys).sanitizeString m).toList) ∧
    (∀ m, ((Sanitizer.new keys).sanitizeRecord r).message = .text m → KeysMasked m.toList) ∧
    (∀ vs, ((Sanitizer.new keys).sanitizeRecord r).arguments = .items vs → ∀ t, .text t ∈ vs → KeysMasked t.toList) ∧
    (∀ entries, ((Sanitizer.new keys).sanitizeRecord r).arguments = .named entries →
      ∀ key t, (key, .text t) ∈ entries → KeysMasked t.toList) ∧
    ((Sanitizer.new keys).sanitizeMessage r.message = r.message → r.arguments.Maskable (Sanitizer.new keys) →
      ∀ text, r.text = .ok text → ∃ text', ((Sanitizer.new keys).sanitizeRecord r).text = .ok text') := by
  obtain ⟨logger, level, message, arguments, moduleName, function, line, thread, fault, extra⟩ := r
  refine ⟨?_, ?_, ?_, ?_, ?_⟩
  · intro m known empty
    refine ⟨?_, keysMasked_sanitizeString keys m⟩
    rw [text_sanitizeRecord empty]
    obtain rfl | ⟨v, rfl, rfl⟩ := known <;> rfl
  · intro m known
    cases message with
    | text t | verdict t =>
      cases known
      exact keysMasked_sanitizeString keys _
    | _ => cases known
  · intro vs known t member
    cases arguments with
    | items ws =>
      cases known
      obtain ⟨v, -, text⟩ := List.mem_map.mp member
      exact keysMasked_sanitizeItem text
    | _ => cases known
  · intro entries known key t member
    cases arguments with
    | named values =>
      cases known
      exact keysMasked_sanitizeMapping member
    | _ => cases known
  -- only here do message and arguments have to fit together
  · intro kept maskable text made
    obtain ⟨text', made', -⟩ := upholds_text_of_message_kept maskable kept text made
    exact ⟨text', made'⟩

def LogRecord.ofMessage (message : String) (arguments : LogArguments) : LogRecord :=
  ⟨"suite", .info, .text message, arguments, "runner", "run", 1, "MainThread", none, []⟩

theorem sanitized_record_text_login :
    (Sanitizer.standard.sanitizeRecord (.ofMessage "password=hunter2" .none)).text = .ok "password=********" ∧
      ∃ text, (Sanitizer.standard.sanitizeRecord (.ofMessage "user %s" (.items [.text "token=abc"]))).text = .ok text := by
  obtain ⟨message, -, -, -, -⟩ := sanitized_record_text [] (.ofMessage "password=hunter2" .none)
  obtain ⟨-, -, -, -, arguments⟩ := sanitized_record_text [] (.ofMessage "user %s" (.items [.text "token=abc"]))
  have masked : (Sanitizer.new []).sanitizeString "password=hunter2" = "password=********" := by decide +kernel
  have kept : (Sanitizer.new []).sanitizeString "user %s" = "user %s" := by decide +kernel
  constructor
  · rw [← masked]
    exact (message "password=hunter2" (.inl rfl) rfl).1
  · exact arguments (congrArg Value.text kept) trivial "user token=abc" (by rfl)

/-- The mask of a key takes the conversion after it, and a key that is put in stands before a value
that was masked by itself. -/
theorem record_text_lost_or_leaked :
    (¬ ∀ (r : LogRecord) (text : String), r.text = .ok text →
      ∃ text', (Sanitizer.standard.sanitizeRecord r).text = .ok text') ∧
    ¬ ∀ (r : LogRecord) (text : String), (Sanitizer.standard.sanitizeRecord r).text = .ok text →
      ∀ n m, (n, m) ∈ Credential.keyValue.hits text.toList → (text.toList.drop (n + m.before)).take m.secret = mask := by
  constructor
  · intro claim
    obtain ⟨text, made⟩ := claim (.ofMessage "password=%s" (.items [.text "hunter2"])) "password=hunter2" (by rfl)
    have lost : (Sanitizer.standard.sanitizeRecord (.ofMessage "password=%s" (.items [.text "hunter2"]))).text =
        typeFault "not all arguments converted during string formatting" := by rfl
    cases lost.symm.trans made
  · intro claim
    have masked := claim (.ofMessage "%s=%s" (.items [.text "password", .text "hunter2"])) "password=hunter2" (by rfl)
      0 ⟨9, 7, 0⟩ (by decide +kernel)
    exact absurd masked (by decide)

end KeywordSuite
