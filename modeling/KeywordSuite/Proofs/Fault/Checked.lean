import KeywordSuite.Fault.Checked
import KeywordSuite.Proofs.Entries

/-!
# What a valid reading says

A reading is valid when each field it reads is, so a valid result is taken apart field by field.
-/

namespace KeywordSuite

namespace Checked

variable {α β : Type}

theorem map_eq_valid {f : α → β} {x : Checked α} {b : β} : f <$> x = .valid b ↔ ∃ a, x = .valid a ∧ f a = b := by
  change x.map f = .valid b ↔ _
  cases x <;> simp [map]

theorem ap_eq_valid {f : Checked (α → β)} {x : Checked α} {b : β} :
    ap f x = .valid b ↔ ∃ g a, f = .valid g ∧ x = .valid a ∧ g a = b := by
  cases f <;> cases x <;> simp [ap]

theorem seq_eq_valid {f : Checked (α → β)} {x : Checked α} {b : β} :
    f <*> x = .valid b ↔ ∃ g a, f = .valid g ∧ x = .valid a ∧ g a = b := ap_eq_valid

theorem below_eq_valid {step : FieldStep} {x : Checked α} {a : α} : x.below step = .valid a ↔ x = .valid a := by
  cases x <;> simp [below]

theorem toExcept_eq_ok {model : String} {x : Checked α} {a : α} : x.toExcept model = .ok a ↔ x = .valid a := by
  cases x <;> simp [toExcept]

end Checked

section

variable {α : Type} {read : Value → Checked α} {data : Entries Value} {name : String} {default : Option α} {a : α}

theorem of_field_eq_valid (h : field data name default read = .valid a) :
    (∃ v, data.get? name = some v ∧ read v = .valid a) ∨ data.get? name = none ∧ default = some a := by
  unfold field at h
  split at h
  · rename_i v held
    exact .inl ⟨v, held, Checked.below_eq_valid.1 h⟩
  · rename_i b absent
    exact .inr ⟨absent, by cases h; rfl⟩
  · cases h

theorem field_of_get? {v : Value} (held : data.get? name = some v) (reads : read v = .valid a) :
    field data name default read = .valid a := by
  unfold field
  rw [held]
  dsimp only
  rw [reads]
  rfl

theorem field_of_absent (absent : data.get? name = none) : field data name (some a) read = .valid a := by
  unfold field
  rw [absent]

end

namespace Read

variable {α : Type} {read : Value → Checked α}

theorem exists_of_mem_each {n : Nat} {vs : List Value} {as : List α} {a : α} (h : each read n vs = .valid as)
    (ha : a ∈ as) : ∃ v ∈ vs, read v = .valid a := by
  induction vs generalizing n as with
  | nil =>
    cases h
    cases ha
  | cons v vs ih =>
    obtain ⟨f, rest, hf, hrest, rfl⟩ := Checked.ap_eq_valid.1 h
    obtain ⟨first, hfirst, rfl⟩ := Checked.map_eq_valid.1 hf
    rcases List.mem_cons.1 ha with rfl | ha
    · exact ⟨v, by simp, Checked.below_eq_valid.1 hfirst⟩
    · obtain ⟨w, hw, hread⟩ := ih hrest ha
      exact ⟨w, by simp [hw], hread⟩

theorem exists_of_mem_list {v : Value} {as : List α} {a : α} (h : list read v = .valid as) (ha : a ∈ as) :
    ∃ vs, v = .list vs ∧ ∃ v ∈ vs, read v = .valid a := by
  unfold list at h
  split at h
  · exact ⟨_, rfl, exists_of_mem_each h ha⟩
  · cases h

theorem each_valid {vs : List Value} {as : List α} (h : List.Forall₂ (fun v a => read v = .valid a) vs as) :
    ∀ n, each read n vs = .valid as := by
  induction h with
  | nil => exact fun _ => rfl
  | cons first _ ih =>
    intro n
    unfold each
    rw [first, ih (n + 1)]
    rfl

/-- Entries whose values are taken as they are come out as they went in. -/
theorem eachEntry_valid (entries : Entries Value) : eachEntry .valid entries = .valid entries := by
  induction entries with
  | nil => rfl
  | cons entry rest ih => simp [eachEntry, ih, Checked.below, Checked.map, Checked.ap]

theorem entries_eq_valid {v : Value} {entries : Entries Value} (h : Read.entries .valid v = .valid entries) :
    v = .dict entries := by
  unfold Read.entries at h
  split at h
  · rw [eachEntry_valid] at h
    cases h
    rfl
  · cases h

theorem model_eq_valid {name : String} {read : Entries Value → Checked α} {v : Value} {a : α}
    (h : model name read v = .valid a) : ∃ entries, v = .dict entries ∧ read entries = .valid a := by
  unfold model at h
  split at h
  · exact ⟨_, rfl, h⟩
  · cases h

end Read

end KeywordSuite
