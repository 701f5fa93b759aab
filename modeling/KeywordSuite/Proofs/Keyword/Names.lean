import KeywordSuite.Proofs.Keyword.Registry
import KeywordSuite.Proofs.Text.Upper

/-!
# Canonical names

The canonical name of a keyword is a normal form. So whatever a registry has filed stands under its own name, and each
name that a registry lists leads to the entry that is listed in its place.
-/

namespace KeywordSuite

theorem canonicalName_canonicalName (name : String) : canonicalName (canonicalName name) = canonicalName name := by
  unfold canonicalName
  rw [Text.strip_upper_strip, Text.upper_upper]

namespace KeywordRegistry

/-- What comes of an empty registry by filing entries of declarations, also in the middle of a registration. -/
inductive Reachable : KeywordRegistry → Prop
  | empty : Reachable .empty
  | files {r : KeywordRegistry} {e : KeywordEntry} {x : Declared} (reached : Reachable r) (shows : e.Shows x) :
      Reachable (r.add e)

variable {r : KeywordRegistry}

theorem Reachable.addAll {es : List KeywordEntry} {ys : List Declared} (shows : List.Forall₂ KeywordEntry.Shows es ys) :
    ∀ {r : KeywordRegistry}, r.Reachable → (r.addAll es).Reachable := by
  induction shows with
  | nil => exact id
  | cons own _ ih => exact fun reached => ih (reached.files own)

theorem Reachable.registering (reached : r.Reachable) (p : KeywordProvider) (collected : List KeywordEntry) :
    (p.registering.run ⟨r, collected⟩).2.registry.Reachable := by
  rcases registering_cases r p collected with ⟨-, -, es, shows, taken⟩ | ⟨-, -, kept⟩
  · rw [taken]
    exact reached.addAll shows
  · rw [kept]
    exact reached

theorem reachable_after (providers : List KeywordProvider) : (after providers).Reachable := by
  induction providers using List.reverseRecOn with
  | nil => exact .empty
  | append_singleton providers p ih =>
    rw [after_concat]
    exact ih.registering p []

/-- Every entry is filed under its own name, and that is canonical. -/
structure NamesItself (r : KeywordRegistry) : Prop where
  distinct : r.keywords.keys.Nodup
  named : ∀ key e, r.keywords.get? key = some e → e.name = key ∧ canonicalName key = key

theorem NamesItself.add (h : r.NamesItself) {e : KeywordEntry} {x : Declared} (shows : e.Shows x) :
    (r.add e).NamesItself where
  distinct := Entries.nodup_keys_set h.distinct e.name e
  named key e' found := by
    change (r.keywords.set e.name e).get? key = some e' at found
    rw [Entries.get?_set] at found
    split at found
    · rename_i here
      obtain rfl := Option.some.inj found
      refine ⟨here.symm, ?_⟩
      rw [here, shows.name]
      exact canonicalName_canonicalName x.declaration.name
    · exact h.named key e' found

theorem Reachable.namesItself (reached : r.Reachable) : r.NamesItself := by
  induction reached with
  | empty => exact ⟨List.nodup_nil, nofun⟩
  | files _ shows ih => exact ih.add shows

/-! ## What is listed -/

theorem exists_of_mem_names {name : String} (listed : name ∈ r.names) (distinct : r.keywords.keys.Nodup) :
    ∃ e, r.keywords.get? name = some e := by
  have key : name ∈ r.keywords.keys := (List.mergeSort_perm _ _).mem_iff.1 listed
  obtain ⟨⟨_, e⟩, held, rfl⟩ := List.mem_map.1 key
  exact ⟨e, Entries.get?_of_mem distinct held⟩

theorem forall₂_filterMap {α β : Type} {find : α → Option β} : ∀ {keys : List α},
    (∀ key ∈ keys, ∃ value, find key = some value) →
      List.Forall₂ (fun key value => find key = some value) keys (keys.filterMap find)
  | [], _ => .nil
  | key :: rest, found => by
    obtain ⟨value, first⟩ := found key List.mem_cons_self
    rw [List.filterMap_cons_some first]
    exact .cons first (forall₂_filterMap fun key held => found key (List.mem_cons_of_mem _ held))

/-- The entries are listed in the order of the names they are filed under. -/
theorem NamesItself.forall₂_entries (h : r.NamesItself) :
    List.Forall₂ (fun name e => r.keywords.get? name = some e) r.names r.entries :=
  forall₂_filterMap fun _ listed => exists_of_mem_names listed h.distinct

/-- What is filed under a name is found there by that name, since the name is canonical. -/
theorem NamesItself.resolve_eq (h : r.NamesItself) {key : String} {e : KeywordEntry}
    (found : r.keywords.get? key = some e) : r.resolve? (some key) = some e := by
  show r.keywords.get? (canonicalName key) = some e
  rw [(h.named key e found).2, found]

/--
A canonical name is its own canonical name. Whatever was filed, and by whichever registrations, every entry is stored
under its own name and found there by it, and the entries are listed in the order of the listed names, each of which
leads to the entry in its place.
-/
theorem listed_names_resolve (name : String) (reached : r.Reachable) :
    canonicalName (canonicalName name) = canonicalName name ∧
    (∀ (p : KeywordProvider) collected, (p.registering.run ⟨r, collected⟩).2.registry.Reachable) ∧
    (∀ key e, (key, e) ∈ r.keywords → e.name = key ∧ r.resolve? (some e.name) = some e) ∧
    r.entries.map KeywordEntry.name = r.names ∧
    List.Forall₂ (fun listed e => r.resolve? (some listed) = some e) r.names r.entries := by
  have names := reached.namesItself
  refine ⟨canonicalName_canonicalName name, reached.registering, fun key e stored => ?_, ?_,
    names.forall₂_entries.imp fun _ _ => names.resolve_eq⟩
  · have found := Entries.get?_of_mem names.distinct stored
    obtain ⟨rfl, -⟩ := names.named key e found
    exact ⟨rfl, names.resolve_eq found⟩
  · have own : List.Forall₂ (fun e listed => e.name = listed) r.entries r.names :=
      (names.forall₂_entries.imp fun key e found => (names.named key e found).1).flip
    rw [← List.forall₂_eq_eq_eq, List.forall₂_map_left_iff]
    exact own

/-- Several letters come of one, and a name with blanks of another script is one declared before. -/
theorem listed_names_resolve_ligature :
    let r := after [
      ⟨"First", [⟨"straße", some fun _ => pure .null, true, ""⟩, ⟨"ﬁnd", some fun _ => pure .null, true, ""⟩], none⟩,
      ⟨"Second", [⟨"\u3000STRASSE\x85", some fun _ => pure .null, false, ""⟩], none⟩]
    r.Reachable ∧ r.keywords.map (fun e => (e.1, e.2.provider)) = [("STRASSE", "Second"), ("FIND", "First")] ∧
      canonicalName (canonicalName "straße") = "STRASSE" ∧ r.entries.map KeywordEntry.name = r.names ∧
      List.Forall₂ (fun listed e => r.resolve? (some listed) = some e) r.names r.entries := by
  intro r
  have reached : r.Reachable := reachable_after _
  obtain ⟨normal, -, -, listed, resolve⟩ := listed_names_resolve "straße" reached
  refine ⟨reached, by decide +kernel, ?_, listed, resolve⟩
  rw [normal]
  decide +kernel

end KeywordRegistry

end KeywordSuite
