import KeywordSuite.Sanitizer.Basic

/-!
# What a sanitized mapping shows

Mappings that differ only in what stands under sensitive keys, however deep, are sanitized to the same mapping.
The keys stay in their order at every depth that is not masked as a whole, and of the other values only the texts
are changed, each by itself.
-/

namespace KeywordSuite

mutual

/-- Values that differ at most in what mappings among them have under keys that hide it. -/
inductive Value.AlikeBut (hides : String → Bool) : Value → Value → Prop
  | same (v : Value) : Value.AlikeBut hides v v
  | dict {es es' : Entries Value} : Entries.AlikeBut hides es es' → Value.AlikeBut hides (.dict es) (.dict es')

inductive Entries.AlikeBut (hides : String → Bool) : Entries Value → Entries Value → Prop
  | nil : Entries.AlikeBut hides [] []
  | hidden {key : String} {v v' : Value} {es es' : Entries Value} : hides key = true →
      Sanitizer.isBlankValue v = false → Sanitizer.isBlankValue v' = false → Entries.AlikeBut hides es es' →
      Entries.AlikeBut hides ((key, v) :: es) ((key, v') :: es')
  | shown (key : String) {v v' : Value} {es es' : Entries Value} : Value.AlikeBut hides v v' →
      Entries.AlikeBut hides es es' → Entries.AlikeBut hides ((key, v) :: es) ((key, v') :: es')

end

mutual

/-- The same value, but for the order in which mappings list their entries. -/
inductive Value.Reordered : Value → Value → Prop
  | same (v : Value) : Value.Reordered v v
  | dict {es es' : Entries Value} : Entries.Reordered es es' → Value.Reordered (.dict es) (.dict es')

inductive Entries.Reordered : Entries Value → Entries Value → Prop
  | nil : Entries.Reordered [] []
  | cons (key : String) {v v' : Value} {es es' : Entries Value} : Value.Reordered v v' → Entries.Reordered es es' →
      Entries.Reordered ((key, v) :: es) ((key, v') :: es')
  | swap (e e' : String × Value) (es : Entries Value) : Entries.Reordered (e :: e' :: es) (e' :: e :: es)
  | trans {es es' es'' : Entries Value} : Entries.Reordered es es' → Entries.Reordered es' es'' →
      Entries.Reordered es es''

end

mutual

/-- A value with each text in it scanned, and in mappings what stands under a key that hides it masked. -/
inductive Value.ShownAs (hides : String → Bool) (scan : String → String) : Value → Value → Prop
  | text (t : String) : Value.ShownAs hides scan (.text t) (.text (scan t))
  | verdict (v : Verdict) : Value.ShownAs hides scan (.verdict v) (.text (scan v.label))
  | dict {es es' : Entries Value} : Entries.ShownAs hides scan es es' → Value.ShownAs hides scan (.dict es) (.dict es')
  | kept {v : Value} : (∀ t, v ≠ .text t) → (∀ w, v ≠ .verdict w) → (∀ es, v ≠ .dict es) → Value.ShownAs hides scan v v

inductive Entries.ShownAs (hides : String → Bool) (scan : String → String) : Entries Value → Entries Value → Prop
  | nil : Entries.ShownAs hides scan [] []
  | masked {key : String} {v : Value} {es es' : Entries Value} : hides key = true → Sanitizer.isBlankValue v = false →
      Entries.ShownAs hides scan es es' →
      Entries.ShownAs hides scan ((key, v) :: es) ((key, .text (String.ofList mask)) :: es')
  | shown {key : String} {v v' : Value} {es es' : Entries Value} :
      (hides key = true → Sanitizer.isBlankValue v = true) → Value.ShownAs hides scan v v' →
      Entries.ShownAs hides scan es es' → Entries.ShownAs hides scan ((key, v) :: es) ((key, v') :: es')

end

section

variable {hides : String → Bool} {scan : String → String} {v v' : Value} {es es' r r' : Entries Value}

theorem Value.AlikeBut.isBlankValue (h : v.AlikeBut hides v') : Sanitizer.isBlankValue v = Sanitizer.isBlankValue v' := by
  cases h <;> rfl

theorem Value.Reordered.isBlankValue (h : v.Reordered v') : Sanitizer.isBlankValue v = Sanitizer.isBlankValue v' := by
  cases h <;> rfl

mutual

/-- What is shown of a value is all there is to it. -/
theorem Value.ShownAs.unique : ∀ {v w w' : Value}, v.ShownAs hides scan w → v.ShownAs hides scan w' → w = w'
  | .text t, _, _, .text _, h => by
    cases h with
    | text => rfl
    | kept plain => exact absurd rfl (plain t)
  | .verdict v, _, _, .verdict _, h => by
    cases h with
    | verdict => rfl
    | kept _ plain => exact absurd rfl (plain v)
  | .dict es, _, _, .dict first, h => by
    cases h with
    | dict second => rw [Entries.ShownAs.unique first second]
    | kept _ _ plain => exact absurd rfl (plain es)
  | v, _, _, .kept noText noVerdict noMapping, h => by
    cases h with
    | text t => exact absurd rfl (noText t)
    | verdict w => exact absurd rfl (noVerdict w)
    | dict => exact absurd rfl (noMapping _)
    | kept => rfl

theorem Entries.ShownAs.unique : ∀ {es r r' : Entries Value}, es.ShownAs hides scan r → es.ShownAs hides scan r' → r = r'
  | _, _, _, .nil, .nil => rfl
  | _, _, _, .masked hidden filled rest, h => by
    cases h with
    | masked _ _ rest' => rw [Entries.ShownAs.unique rest rest']
    | shown open' => simp [open' hidden] at filled
  | _, _, _, .shown open' value rest, h => by
    cases h with
    | masked hidden filled => simp [open' hidden] at filled
    | shown _ value' rest' => rw [Value.ShownAs.unique value value', Entries.ShownAs.unique rest rest']

end

mutual

/-- Nothing is shown of what stands under the keys that hide it, whatever becomes of texts. -/
theorem Value.AlikeBut.eq : ∀ {v v' w w' : Value}, v.AlikeBut hides v' → v.ShownAs hides scan w →
    v'.ShownAs hides scan w' → w = w'
  | _, _, _, _, .same _, first, second => first.unique second
  | .dict es, _, _, _, .dict alike, first, second => by
    cases first with
    | kept _ _ plain => exact absurd rfl (plain es)
    | dict first =>
      cases second with
      | kept _ _ plain => exact absurd rfl (plain _)
      | dict second => rw [Entries.AlikeBut.eq alike first second]

theorem Entries.AlikeBut.eq : ∀ {es es' r r' : Entries Value}, es.AlikeBut hides es' → es.ShownAs hides scan r →
    es'.ShownAs hides scan r' → r = r'
  | _, _, _, _, .nil, .nil, .nil => rfl
  | _, _, _, _, .hidden hidden filled filled' alike, first, second => by
    cases first with
    | shown open' => simp [open' hidden] at filled
    | masked _ _ rest =>
      cases second with
      | shown open' => simp [open' hidden] at filled'
      | masked _ _ rest' => rw [Entries.AlikeBut.eq alike rest rest']
  | _, _, _, _, .shown key value alike, first, second => by
    have blank := value.isBlankValue
    cases first with
    | masked hidden filled rest =>
      cases second with
      | masked _ _ rest' => rw [Entries.AlikeBut.eq alike rest rest']
      | shown open' => simp [← blank, filled] at open'; simp [open'] at hidden
    | shown open' own rest =>
      cases second with
      | masked hidden filled => simp [blank, filled] at open'; simp [open'] at hidden
      | shown _ own' rest' => rw [Value.AlikeBut.eq value own own', Entries.AlikeBut.eq alike rest rest']

end

end

/-! ## Sanitized mappings -/

namespace Sanitizer

variable (s : Sanitizer)

mutual

theorem shownAs_sanitizeValue : ∀ v : Value, v.ShownAs s.isSensitiveKey s.sanitizeString (s.sanitizeValue v)
  | .text t => .text t
  | .verdict v => .verdict v
  | .dict es => .dict (shownAs_sanitizeMapping es)
  | .null | .bool _ | .int _ | .float _ | .list _ | .datetime _ | .date _ | .time _ | .textless _ =>
    .kept (by simp) (by simp) (by simp)

theorem shownAs_sanitizeMapping : ∀ es : Entries Value, es.ShownAs s.isSensitiveKey s.sanitizeString (s.sanitizeMapping es)
  | [] => .nil
  | (key, v) :: es => by
    have rest := shownAs_sanitizeMapping es
    rw [sanitizeMapping]
    by_cases hidden : s.isSensitiveKey key && !isBlankValue v
    · rw [if_pos hidden]
      simp only [Bool.and_eq_true, Bool.not_eq_true'] at hidden
      exact .masked hidden.1 hidden.2 rest
    · rw [if_neg hidden]
      refine .shown (fun sensitive => ?_) (shownAs_sanitizeValue v) rest
      simpa [sensitive] using hidden

end

mutual

theorem reordered_sanitizeValue : ∀ {v v' : Value}, v.Reordered v' → (s.sanitizeValue v).Reordered (s.sanitizeValue v')
  | _, _, .same _ => .same _
  | .dict _, _, .dict same => .dict (reordered_sanitizeMapping same)

theorem reordered_sanitizeMapping : ∀ {es es' : Entries Value}, es.Reordered es' →
    (s.sanitizeMapping es).Reordered (s.sanitizeMapping es')
  | _, _, .nil => .nil
  | _, _, .cons key value rest => by
    rw [sanitizeMapping, sanitizeMapping, value.isBlankValue]
    refine .cons key ?_ (reordered_sanitizeMapping rest)
    split
    · exact .same _
    · exact reordered_sanitizeValue value
  | _, _, .swap _ _ _ => .swap _ _ _
  | _, _, .trans first second => .trans (reordered_sanitizeMapping first) (reordered_sanitizeMapping second)

end

/-- A sanitized mapping has the keys of the mapping in their order, at every depth that is not masked as a whole,
with every other text sanitized by itself and all else kept. Mappings that differ only in values under sensitive
keys, none of them blank, are sanitized to the same mapping, in whatever order they list their entries. -/
theorem sanitizeMapping_hides :
    (∀ es : Entries Value, es.ShownAs s.isSensitiveKey s.sanitizeString (s.sanitizeMapping es)) ∧
    (∀ es es' : Entries Value, es.AlikeBut s.isSensitiveKey es' → s.sanitizeMapping es = s.sanitizeMapping es') ∧
    ∀ es es' : Entries Value, es.Reordered es' → (s.sanitizeMapping es).Reordered (s.sanitizeMapping es') :=
  ⟨s.shownAs_sanitizeMapping, fun es es' alike => alike.eq (s.shownAs_sanitizeMapping es) (s.shownAs_sanitizeMapping es'),
    fun _ _ same => s.reordered_sanitizeMapping same⟩

/-- A login in a mapping, with a note beside the password. -/
def loginEntries (password : String) : Entries Value :=
  [("user", .text "bob"), ("login", .dict [("Password", .text password), ("note", .text "token=abc")])]

theorem sanitizeMapping_hides_password :
    (loginEntries "hunter2").AlikeBut standard.isSensitiveKey (loginEntries "swordfish") ∧
      standard.sanitizeMapping (loginEntries "hunter2") = standard.sanitizeMapping (loginEntries "swordfish") ∧
      (loginEntries "hunter2").Reordered (loginEntries "hunter2").reverse ∧
      (standard.sanitizeMapping (loginEntries "hunter2")).Reordered
        (standard.sanitizeMapping (loginEntries "hunter2").reverse) := by
  have sensitive : standard.isSensitiveKey "Password" = true := by decide +kernel
  have alike : (loginEntries "hunter2").AlikeBut standard.isSensitiveKey (loginEntries "swordfish") :=
    .shown _ (.same _) (.shown _ (.dict (.hidden sensitive rfl rfl (.shown _ (.same _) .nil))) .nil)
  have turned : (loginEntries "hunter2").Reordered (loginEntries "hunter2").reverse := .swap _ _ _
  obtain ⟨-, hides, reorders⟩ := standard.sanitizeMapping_hides
  exact ⟨alike, hides _ _ alike, turned, reorders _ _ turned⟩

end Sanitizer

end KeywordSuite
