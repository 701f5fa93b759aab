import KeywordSuite.Entries
import Mathlib.Data.List.Induction
import Mathlib.Data.List.Perm.Basic
import Mathlib.Data.List.Nodup

/-!
# Entries as a mapping

What is found in entries after a key is set, and what entries are, but for their order, that have one value
for each key.
-/

namespace KeywordSuite

/-- A key is looked up after all entries of another were left out. -/
theorem lookup_filter_ne {κ α : Type} [DecidableEq κ] (key other : κ) : ∀ entries : List (κ × α),
    List.lookup other (entries.filter fun entry => entry.1 ≠ key) =
      if other = key then none else List.lookup other entries
  | [] => by simp
  | (k, a) :: rest => by
    have ih := lookup_filter_ne key other rest
    by_cases hk : k = key
    · rw [List.filter_cons_of_neg (by simpa using hk), ih, List.lookup_cons]
      by_cases hm : other = key
      · rw [if_pos hm, if_pos hm]
      · rw [if_neg hm, if_neg hm, beq_false_of_ne (hk ▸ hm)]
    · rw [List.filter_cons_of_pos (by simpa using hk), List.lookup_cons, List.lookup_cons, ih]
      by_cases hm : other = key
      · rw [if_pos hm, if_pos hm, beq_false_of_ne (hm ▸ Ne.symm hk)]
      · rw [if_neg hm, if_neg hm]

theorem removeAll_singleton {α : Type} [BEq α] [LawfulBEq α] (a : α) (l : List α) [Decidable (a ∈ l)] :
    [a].removeAll l = if a ∈ l then [] else [a] := by
  by_cases known : a ∈ l <;> simp [List.removeAll, known]

/-- Where each step adds its key at the end unless it is there, the keys stand in the order in which they first came. -/
theorem keys_foldl_of_new {σ β : Type} {step : σ → β → σ} (keys : σ → List String) (key? : β → Option String)
    {items : List β} (steps : ∀ b ∈ items, ∀ s, keys (step s b) = keys s ++ (key? b).toList.removeAll (keys s)) {s : σ}
    (fresh : keys s = []) : keys (items.foldl step s) = (items.filterMap key?).eraseDups := by
  induction items using List.reverseRecOn with
  | nil => rw [List.foldl_nil, fresh, List.filterMap_nil, List.eraseDups_nil]
  | append_singleton items b ih =>
    have before := ih fun other held => steps other (List.mem_append_left _ held)
    have last := steps b (List.mem_append_right _ List.mem_cons_self)
    rw [List.foldl_append, List.foldl_cons, List.foldl_nil, last, before, List.filterMap_append, List.eraseDups_append]
    congr 1
    cases key : key? b with
    | none => simp [key, List.removeAll]
    | some name =>
      have single : [b].filterMap key? = [name] := by simp [key]
      rw [single, Option.toList_some, removeAll_singleton, removeAll_singleton, if_congr List.mem_eraseDups rfl rfl]
      split <;> rfl

namespace Entries

variable {α β : Type}

theorem mem_of_get? {entries : Entries α} {key : String} {value : α} (h : entries.get? key = some value) :
    (key, value) ∈ entries := by
  induction entries with
  | nil => cases h
  | cons entry rest ih =>
    obtain ⟨k, v⟩ := entry
    unfold Entries.get? at h
    rw [List.lookup_cons] at h
    split at h
    · rename_i same
      cases h
      obtain rfl := eq_of_beq same
      exact List.mem_cons_self
    · exact List.mem_cons_of_mem _ (ih h)

theorem get?_cons (key name : String) (value : α) (rest : Entries α) :
    get? ((name, value) :: rest) key = if key = name then some value else rest.get? key := by
  unfold get?
  rw [List.lookup_cons]
  by_cases same : key = name
  · simp [same]
  · rw [beq_false_of_ne same, if_neg same]

/-! ## Setting a key -/

theorem get?_set (key other : String) (value : α) : ∀ entries : Entries α,
    (entries.set key value).get? other = if other = key then some value else entries.get? other
  | [] => get?_cons other key value []
  | (name, old) :: rest => by
    unfold set
    by_cases here : name = key
    · subst here
      rw [if_pos rfl, get?_cons, get?_cons]
      split <;> rfl
    · rw [if_neg here, get?_cons, get?_cons, get?_set key other value rest]
      by_cases first : other = name
      · subst first
        rw [if_pos rfl, if_pos rfl, if_neg here]
      · rw [if_neg first, if_neg first]

theorem get?_set_self (entries : Entries α) (key : String) (value : α) :
    (entries.set key value).get? key = some value := by
  rw [get?_set, if_pos rfl]

theorem get?_set_of_ne {key other : String} (apart : other ≠ key) (entries : Entries α) (value : α) :
    (entries.set key value).get? other = entries.get? other := by
  rw [get?_set, if_neg apart]

theorem mem_set {entries : Entries α} {key : String} {value : α} {entry : String × α}
    (h : entry ∈ entries.set key value) : entry ∈ entries ∨ entry = (key, value) := by
  induction entries with
  | nil => exact .inr (by simpa [Entries.set] using h)
  | cons first rest ih =>
    simp only [Entries.set] at h
    split at h
    · rcases List.mem_cons.1 h with rfl | h
      · exact .inr rfl
      · exact .inl (by simp [h])
    · rcases List.mem_cons.1 h with rfl | h
      · exact .inl (by simp)
      · exact (ih h).imp_left fun h => by simp [h]

theorem forall_set {p : α → Prop} {entries : Entries α} {key : String} {value : α}
    (h : ∀ entry ∈ entries, p entry.2) (hvalue : p value) : ∀ entry ∈ entries.set key value, p entry.2 := by
  intro entry hentry
  rcases Entries.mem_set hentry with held | rfl
  · exact h entry held
  · exact hvalue

theorem keys_set (key : String) (value : α) : ∀ entries : Entries α,
    (entries.set key value).keys = if key ∈ entries.keys then entries.keys else entries.keys ++ [key]
  | [] => rfl
  | (name, old) :: rest => by
    unfold set
    by_cases here : name = key
    · subst here
      have first : name ∈ keys ((name, old) :: rest) := List.mem_cons_self
      rw [if_pos rfl, if_pos first]
      rfl
    · have there : key ∈ keys ((name, old) :: rest) ↔ key ∈ keys rest := by
        simp [keys, Ne.symm here]
      have after := congrArg (name :: ·) (keys_set key value rest)
      rw [if_neg here, if_congr there rfl rfl]
      refine after.trans ?_
      split <;> rfl

theorem keys_set_eq_append (key : String) (value : α) (entries : Entries α) :
    (entries.set key value).keys = entries.keys ++ [key].removeAll entries.keys := by
  rw [keys_set, removeAll_singleton]
  split <;> simp

theorem nodup_keys_set {entries : Entries α} (distinct : entries.keys.Nodup) (key : String) (value : α) :
    (entries.set key value).keys.Nodup := by
  rw [keys_set]
  split
  · exact distinct
  · rename_i fresh
    exact List.nodup_append.2 ⟨distinct, List.nodup_singleton key, fun k held _ new same => by
      rw [List.mem_singleton.1 new] at same
      exact fresh (same ▸ held)⟩

theorem mem_keys_set {entries : Entries α} {key other : String} {value : α}
    (h : other ∈ (entries.set key value).keys) : other = key ∨ other ∈ entries.keys := by
  rw [keys_set] at h
  split at h
  · exact .inr h
  · rcases List.mem_append.1 h with old | new
    · exact .inr old
    · exact .inl (List.mem_singleton.1 new)

/-! ## One value for each key -/

theorem get?_of_mem {entries : Entries α} (distinct : entries.keys.Nodup) {key : String} {value : α}
    (held : (key, value) ∈ entries) : entries.get? key = some value := by
  induction entries with
  | nil => cases held
  | cons entry rest ih =>
    obtain ⟨name, first⟩ := entry
    obtain ⟨fresh, distinct⟩ := List.nodup_cons.1 distinct
    rw [get?_cons]
    rcases List.mem_cons.1 held with same | later
    · cases same
      exact if_pos rfl
    · have apart : key ≠ name := by
        rintro rfl
        exact fresh (List.mem_map.2 ⟨_, later, rfl⟩)
      rw [if_neg apart]
      exact ih distinct later

/-- Entries are their keys with what is found under each. -/
theorem eq_map_keys {entries : Entries α} (distinct : entries.keys.Nodup) {f : String → α}
    (found : ∀ key ∈ entries.keys, entries.get? key = some (f key)) : entries = entries.keys.map fun key => (key, f key) := by
  unfold keys
  rw [List.map_map]
  refine (List.map_id _).symm.trans (List.map_congr_left fun entry held => Prod.ext rfl ?_)
  have here := found entry.1 (List.mem_map_of_mem held)
  rw [get?_of_mem distinct held] at here
  exact Option.some.inj here

/-- Entries whose keys are those of a list, each with what the list says of its value, are that list but for the order. -/
theorem perm_of_get? {entries : Entries α} {f : α → β} {list : List (String × β)} (distinct : entries.keys.Nodup)
    (apart : (list.map Prod.fst).Nodup) (known : ∀ key ∈ entries.keys, key ∈ list.map Prod.fst)
    (found : ∀ x ∈ list, (entries.get? x.1).map f = some x.2) :
    (entries.map fun entry => (entry.1, f entry.2)).Perm list := by
  have names : (entries.map fun entry => (entry.1, f entry.2)).map Prod.fst = entries.keys := by
    rw [List.map_map]
    rfl
  refine (List.perm_ext_iff_of_nodup (.of_map Prod.fst (names ▸ distinct)) (.of_map Prod.fst apart)).2 fun x => ?_
  constructor
  · intro mem
    obtain ⟨⟨key, value⟩, held, rfl⟩ := List.mem_map.1 mem
    have filed : key ∈ entries.keys := List.mem_map.2 ⟨(key, value), held, rfl⟩
    obtain ⟨y, listed, same⟩ := List.mem_map.1 (known key filed)
    have told := found y listed
    rw [same, get?_of_mem distinct held] at told
    have whole : y = (key, f value) := Prod.ext same (Option.some.inj told).symm
    exact whole ▸ listed
  · intro listed
    obtain ⟨value, here, same⟩ := Option.map_eq_some_iff.1 (found x listed)
    exact List.mem_map.2 ⟨_, mem_of_get? here, Prod.ext rfl same⟩

/-! ## Setting all of other entries -/

theorem set_of_notMem {key : String} {value : α} : ∀ {entries : Entries α}, key ∉ entries.keys →
    entries.set key value = entries ++ [(key, value)]
  | [], _ => rfl
  | (name, old) :: rest, fresh => by
    have apart : name ≠ key := fun same => fresh (same ▸ List.mem_cons_self)
    have later : key ∉ keys rest := fun held => fresh (List.mem_cons_of_mem _ held)
    unfold set
    rw [if_neg apart, set_of_notMem later]
    rfl

theorem setAll_eq_append : ∀ {entries new : Entries α}, (entries.keys ++ new.keys).Nodup →
    entries.setAll new = entries ++ new
  | _, [], _ => (List.append_nil _).symm
  | entries, (name, value) :: rest, distinct => by
    have fresh : name ∉ entries.keys := fun held => (List.nodup_append.1 distinct).2.2 name held name List.mem_cons_self rfl
    have names : (entries.set name value).keys ++ keys rest = entries.keys ++ keys ((name, value) :: rest) := by
      rw [keys_set, if_neg fresh, List.append_assoc]
      rfl
    have others := setAll_eq_append (names.symm ▸ distinct)
    rw [set_of_notMem fresh] at others
    have step : entries.setAll ((name, value) :: rest) = (entries.set name value).setAll rest := rfl
    rw [step, set_of_notMem fresh, others, List.append_assoc]
    rfl

theorem get?_setAll (entries : Entries α) (key : String) : ∀ new : Entries α, new.keys.Nodup →
    (entries.setAll new).get? key = (get? new key).or (entries.get? key)
  | [], _ => rfl
  | (name, value) :: rest, distinct => by
    obtain ⟨fresh, distinct⟩ := List.nodup_cons.1 distinct
    have others := get?_setAll (entries.set name value) key rest distinct
    have same : (entries.setAll ((name, value) :: rest)).get? key = ((entries.set name value).setAll rest).get? key := rfl
    rw [same, others, get?_cons, get?_set]
    split
    · rename_i here
      have absent : get? rest key = none := by
        cases found : get? rest key with
        | none => rfl
        | some held => exact absurd (List.mem_map.2 ⟨_, mem_of_get? found, here⟩) fresh
      rw [absent]
      rfl
    · rfl

theorem get?_setAll_congr {entries entries' : Entries α} (same : ∀ key, entries.get? key = entries'.get? key) : ∀ (new : Entries α) (key : String),
    (entries.setAll new).get? key = (entries'.setAll new).get? key := by
  intro new
  induction new generalizing entries entries' with
  | nil => exact same
  | cons entry rest ih =>
    refine ih fun key => ?_
    rw [get?_set, get?_set, same key]

end Entries

end KeywordSuite
