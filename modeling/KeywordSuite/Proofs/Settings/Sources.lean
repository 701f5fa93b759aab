import KeywordSuite.Proofs.Entries
import KeywordSuite.Proofs.Fault.Checked
import KeywordSuite.Proofs.Json.Reader
import KeywordSuite.Settings.Sources

/-!
# What the sources of settings give

Settings are read from what their sources give together, and only what is found there under a name counts. A value
given last is found under its name, whatever else there is; a variable of the environment is, where no value is
given.
-/

namespace KeywordSuite

namespace Settings

variable {data others low high outer : Entries Value} {given : Entries Value} {environment : Entries String}
  {file : Option String} {s : Settings} {name text : String} {v : Value}

theorem read_congr (same : ∀ name, others.get? name = data.get? name) : read others = read data := by
  simp only [read, field, same]

/-! ## Names in lower case -/

theorem foldNames_append {α : Type} (bindings : Entries α) (name : String) (a : α) :
    foldNames (bindings ++ [(name, a)]) = (foldNames bindings).set (Text.lower name) a := by
  rw [foldNames, List.foldl_append]
  rfl

theorem nodup_keys_foldNames {α : Type} (bindings : Entries α) : (foldNames bindings).keys.Nodup := by
  induction bindings using List.reverseRecOn with
  | nil => exact .nil
  | append_singleton bindings binding ih =>
    rw [foldNames_append]
    exact Entries.nodup_keys_set ih _ _

theorem get?_foldNames_eq_none {α : Type} {bindings : Entries α} (absent : ∀ b ∈ bindings, Text.lower b.1 ≠ name) :
    (foldNames bindings).get? name = none := by
  induction bindings using List.reverseRecOn with
  | nil => rfl
  | append_singleton bindings binding ih =>
    rw [foldNames_append, Entries.get?_set_of_ne fun same => absent binding (by simp) same.symm]
    exact ih fun b held => absent b (List.mem_append_left _ held)

/-! ## Sources above one another -/

/-- What is found where two sources may have something. -/
def stacked : Option Value → Option Value → Option Value
  | low, none => low
  | none, some v => some v
  | some old, some v => some (mergeValue old v)

theorem mergeValue_text (text : String) (old : Value) : mergeValue old (.text text) = .text text := by
  cases old <;> simp [mergeValue]

theorem mergeValue_list (vs : List Value) (old : Value) : mergeValue old (.list vs) = .list vs := by
  cases old <;> simp [mergeValue]

theorem stacked_some (takes : ∀ old, mergeValue old v = v) (low : Option Value) : stacked low (some v) = some v := by
  cases low with
  | none => rfl
  | some old => exact congrArg some (takes old)

theorem get?_mergeEntries (distinct : high.keys.Nodup) (name : String) :
    (mergeEntries low high).get? name = stacked (low.get? name) (high.get? name) := by
  induction high generalizing low with
  | nil => rw [mergeEntries]; rfl
  | cons entry rest ih =>
    obtain ⟨first, v⟩ := entry
    obtain ⟨fresh, later⟩ := List.nodup_cons.1 distinct
    rw [mergeEntries, ih later, Entries.get?_set, Entries.get?_cons]
    by_cases here : name = first
    · subst here
      have none : Entries.get? rest name = none := by
        cases found : Entries.get? rest name with
        | none => rfl
        | some v => exact absurd (List.mem_map.2 ⟨_, Entries.mem_of_get? found, rfl⟩) fresh
      rw [if_pos rfl, if_pos rfl, none]
      cases low.get? name <;> rfl
    · rw [if_neg here, if_neg here]

/-- The values of all sources: a file under the environment, and what is given over both. -/
def together (given outer inner : Entries Value) : Entries Value :=
  mergeEntries (mergeEntries inner outer) (foldNames given)

theorem load_eq_ok : load given environment file = .ok s ↔ ∃ outer inner, fromEnvironment environment = .ok outer ∧
    fromFile environment file = .ok inner ∧ read (together given outer inner) = .valid s := by
  simp only [load, bind_eq_ok_iff, Checked.toExcept_eq_ok]
  exact ⟨fun ⟨outer, first, inner, second, reads⟩ => ⟨outer, inner, first, second, reads⟩,
    fun ⟨outer, inner, first, second, reads⟩ => ⟨outer, first, inner, second, reads⟩⟩

/-! ## One value more -/

/-- A value given last for a field is what the field is read from. -/
theorem load_given_eq_ok (small : Text.lower name = name) (takes : ∀ old, mergeValue old v = v) :
    load (given ++ [(name, v)]) environment file = .ok s ↔ ∃ outer inner, fromEnvironment environment = .ok outer ∧
      fromFile environment file = .ok inner ∧ read ((together given outer inner).set name v) = .valid s := by
  have same (outer inner : Entries Value) :
      read (together (given ++ [(name, v)]) outer inner) = read ((together given outer inner).set name v) := by
    refine read_congr fun other => ?_
    unfold together
    rw [foldNames_append, small, get?_mergeEntries (Entries.nodup_keys_set (nodup_keys_foldNames given) _ _),
      Entries.get?_set, Entries.get?_set, get?_mergeEntries (nodup_keys_foldNames given)]
    split
    · exact stacked_some takes _
    · rfl
  rw [load_eq_ok]
  simp only [same]

section

variable {f g : String → Except Fault (Option (String × Value))} {names : List String} {found : Entries Value}

theorem filterMapM_cons_eq_ok : (name :: names).filterMapM f = .ok found ↔
    ∃ b rest, f name = .ok b ∧ names.filterMapM f = .ok rest ∧ found = b.toList ++ rest := by
  rw [List.filterMapM_cons, bind_eq_ok_iff]
  constructor
  · rintro ⟨b, first, h⟩
    cases b with
    | none => exact ⟨none, found, first, h, rfl⟩
    | some b =>
      obtain ⟨rest, later, same⟩ := bind_eq_ok_iff.1 h
      cases same
      exact ⟨some b, rest, first, later, rfl⟩
  · rintro ⟨b, rest, first, later, rfl⟩
    refine ⟨b, first, ?_⟩
    cases b with
    | none => exact later
    | some b => exact bind_eq_ok_iff.2 ⟨rest, later, rfl⟩

variable (named : ∀ name b, f name = .ok (some b) → b.1 = name)

include named

theorem sublist_filterMapM (h : names.filterMapM f = .ok found) : found.keys.Sublist names := by
  induction names generalizing found with
  | nil =>
    cases h
    exact .slnil
  | cons name names ih =>
    obtain ⟨b, rest, first, later, rfl⟩ := filterMapM_cons_eq_ok.1 h
    cases b with
    | none => exact (ih later).cons _
    | some b => exact named name b first ▸ (ih later).cons_cons _

/-- Another result for one name is what is found under it, and nothing else is changed. -/
theorem exists_filterMapM_set (h : names.filterMapM f = .ok found) (new : g name = .ok (some (name, v)))
    (old : ∀ other, other ≠ name → g other = f other) : ∃ found' : Entries Value, names.filterMapM g = .ok found' ∧
      ∀ other, found'.get? other = if other = name ∧ name ∈ names then some v else found.get? other := by
  -- the name may come up more than once, so a later find of it does not matter
  induction names generalizing found with
  | nil =>
    cases h
    exact ⟨[], rfl, fun other => by simp⟩
  | cons first names ih =>
    obtain ⟨b, rest, here, later, rfl⟩ := filterMapM_cons_eq_ok.1 h
    obtain ⟨rest', later', looks⟩ := ih later
    by_cases same : first = name
    · subst same
      refine ⟨_, filterMapM_cons_eq_ok.2 ⟨_, rest', new, later', rfl⟩, fun other => ?_⟩
      change Entries.get? ((first, v) :: rest') other = _
      rw [Entries.get?_cons]
      by_cases now : other = first
      · simp [now]
      · rw [if_neg now, looks, if_neg fun both => now both.1, if_neg fun both => now both.1]
        cases b with
        | none => rfl
        | some b =>
          change _ = Entries.get? (b :: rest) other
          rw [Entries.get?_cons, named first b here, if_neg now]
    · refine ⟨_, filterMapM_cons_eq_ok.2 ⟨b, rest', (old first same).trans here, later', rfl⟩, fun other => ?_⟩
      have among : name ∈ first :: names ↔ name ∈ names := by simp [Ne.symm same]
      rw [if_congr (and_congr_right' among) rfl rfl]
      cases b with
      | none => exact looks other
      | some b =>
        change Entries.get? (b :: rest') other = if _ then _ else Entries.get? (b :: rest) other
        rw [Entries.get?_cons, Entries.get?_cons, named first b here, looks]
        by_cases now : other = first
        · rw [if_pos now, if_pos now, if_neg fun both => same (now ▸ both.1)]
        · rw [if_neg now, if_neg now]

end

/-- What bindings have for a field. -/
def setting? (source : String) (folded : Entries (Option String)) (name : String) :
    Except Fault (Option (String × Value)) := do
  match folded.get? (environmentPrefix ++ name) with
  | some (some text) =>
    match ← decodeField source name text with
    | .null => return none
    | v => return some (name, v)
  | _ => return none

theorem fromBindings_eq (source : String) (bindings : Entries (Option String)) :
    fromBindings source bindings = fieldNames.filterMapM (setting? source (foldNames bindings)) := rfl

theorem named_setting? {source : String} {folded : Entries (Option String)} (name : String) (b : String × Value)
    (h : setting? source folded name = .ok (some b)) : b.1 = name := by
  unfold setting? at h
  split at h
  · obtain ⟨v, -, h⟩ := bind_eq_ok_iff.1 h
    cases v <;> cases h <;> rfl
  · cases h

theorem setting?_set {source : String} {folded : Entries (Option String)} (plain : name ∉ jsonFields) :
    setting? source (folded.set (environmentPrefix ++ name) (some text)) name = .ok (some (name, .text text)) := by
  have decoded : decodeField source name text = .ok (.text text) := if_neg (by simpa using plain)
  unfold setting?
  rw [Entries.get?_set_self]
  dsimp only
  rw [decoded]
  rfl

theorem setting?_set_of_ne {source other : String} {folded : Entries (Option String)} {value : Option String}
    (apart : other ≠ name) :
    setting? source (folded.set (environmentPrefix ++ name) value) other = setting? source folded other := by
  unfold setting?
  rw [Entries.get?_set_of_ne fun same => apart (by simpa using same)]

theorem nodup_keys_fromBindings {source : String} {bindings : Entries (Option String)} {found : Entries Value}
    (h : fromBindings source bindings = .ok found) : found.keys.Nodup := by
  have distinct : fieldNames.Nodup := by decide +kernel
  rw [fromBindings_eq] at h
  exact distinct.sublist (sublist_filterMapM named_setting? h)

/-- What a setting is called in the environment. -/
def variableName (name : String) : String := "KEYRUNNER_" ++ Text.upper name

/-- A variable of the environment is what its field is read from, unless a value is given. -/
theorem load_variable_eq_ok (known : name ∈ fieldNames) (plain : name ∉ jsonFields)
    (called : Text.lower (variableName name) = environmentPrefix ++ name)
    (absent : ∀ b ∈ given, Text.lower b.1 ≠ name) (ofEnvironment : fromEnvironment environment = .ok outer)
    (reads : read ((together given outer []).set name (.text text)) = .valid s) :
    load given (environment ++ [(variableName name, text)]) none = .ok s := by
  have found := ofEnvironment
  rw [fromEnvironment, fromBindings_eq] at found
  obtain ⟨outer', found', looks⟩ := exists_filterMapM_set named_setting? found
    (setting?_set plain) fun other => setting?_set_of_ne
  have ofEnvironment' : fromEnvironment (environment ++ [(variableName name, text)]) = .ok outer' := by
    rw [fromEnvironment, fromBindings_eq, List.map_append, List.map_singleton, foldNames_append, called]
    exact found'
  refine load_eq_ok.2 ⟨outer', [], ofEnvironment', rfl, ?_⟩
  rw [← reads]
  refine read_congr fun other => ?_
  have distinct := nodup_keys_foldNames given
  unfold together
  rw [get?_mergeEntries distinct, get?_mergeEntries (nodup_keys_fromBindings ofEnvironment'), Entries.get?_set,
    get?_mergeEntries distinct, get?_mergeEntries (nodup_keys_fromBindings ofEnvironment), looks]
  by_cases same : other = name
  · subst same
    rw [if_pos ⟨rfl, known⟩, if_pos rfl, get?_foldNames_eq_none absent]
    rfl
  · rw [if_neg same, if_neg fun both => same both.1]

end Settings

end KeywordSuite
