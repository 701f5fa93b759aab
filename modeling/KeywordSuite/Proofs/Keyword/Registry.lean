import Mathlib.Data.Finset.Card
import Mathlib.Data.String.Basic
import KeywordSuite.Proofs.Entries
import KeywordSuite.Proofs.Json.Reader
import KeywordSuite.Proofs.Keyword.Account

/-!
# What a registry holds

After any providers, of which some may fail in the middle of their declarations, a registry holds under each
canonical name what was declared last under it by those that did not fail, and nothing else.
-/

namespace KeywordSuite

/-! ## Declarations -/

structure Declared where
  provider : String
  declaration : KeywordDeclaration

def Declared.name (x : Declared) : String := canonicalName x.declaration.name

def lastUnder (key : String) (xs : List Declared) : Option Declared := (xs.filter (·.name = key)).getLast?

/-- The entry of a declaration: its name in canonical form, and all else as it was declared. -/
structure KeywordEntry.Shows (e : KeywordEntry) (x : Declared) : Prop where
  name : e.name = x.name
  body : x.declaration.body = some e.body
  mandatory : e.mandatory = x.declaration.mandatory
  description : e.description = x.declaration.description
  provider : e.provider = x.provider

def KeywordDeclaration.Valid (d : KeywordDeclaration) : Prop := Text.isBlankText d.name = false ∧ d.body.isSome = true

def KeywordProvider.Works (p : KeywordProvider) : Prop := p.fault = none ∧ ∀ d ∈ p.declarations, d.Valid

instance (d : KeywordDeclaration) : Decidable d.Valid := inferInstanceAs (Decidable (_ ∧ _))

instance (p : KeywordProvider) : Decidable p.Works := inferInstanceAs (Decidable (_ ∧ _))

def KeywordProvider.declared (p : KeywordProvider) : List Declared := p.declarations.map (⟨p.name, ·⟩)

/-- What providers declared that did not fail, in the order they did. -/
def declaredBy (providers : List KeywordProvider) : List Declared :=
  (providers.filter fun p => p.Works).flatMap KeywordProvider.declared

theorem KeywordEntry.Shows.unique {e e' : KeywordEntry} {x : Declared} (h : e.Shows x) (h' : e'.Shows x) : e = e' := by
  obtain ⟨name, body, mandatory, description, provider⟩ := e
  obtain ⟨name', body', mandatory', description', provider'⟩ := e'
  obtain ⟨rfl, some, rfl, rfl, rfl⟩ := h
  obtain ⟨rfl, some', rfl, rfl, rfl⟩ := h'
  obtain rfl := Option.some.inj (some.symm.trans some')
  rfl

theorem lastUnder_concat (key : String) (xs : List Declared) (x : Declared) :
    lastUnder key (xs ++ [x]) = if x.name = key then some x else lastUnder key xs := by
  unfold lastUnder
  rw [List.filter_append]
  by_cases here : x.name = key <;> simp [here]

theorem lastUnder_eq_none_iff {key : String} {xs : List Declared} :
    lastUnder key xs = none ↔ ∀ x ∈ xs, x.name ≠ key := by
  simp [lastUnder]

theorem of_lastUnder {key : String} {xs : List Declared} {x : Declared} (h : lastUnder key xs = some x) :
    x ∈ xs ∧ x.name = key := by
  have kept := List.mem_filter.1 (List.mem_of_getLast? h)
  exact ⟨kept.1, of_decide_eq_true kept.2⟩

/-! ## One declaration after another -/

namespace KeywordProvider

/-- What a registration works on: the registry, and the entries that its builder has collected. -/
structure Registering where
  registry : KeywordRegistry
  collected : List KeywordEntry

def declareEach (provider : String) : List KeywordDeclaration → Act Registering Unit
  | [] => pure ()
  | d :: rest => do
    let e ← Act.ofExcept (entry provider d)
    modify fun s => { s with collected := s.collected ++ [e] }
    declareEach provider rest

def fileEach : List KeywordEntry → Act Registering Unit
  | [] => pure ()
  | e :: rest => do
    modify fun s => { s with registry := s.registry.add e }
    fileEach rest

/-- A registration, one declaration after another: its builder collects them all before the registry takes any. -/
def registering (p : KeywordProvider) : Act Registering Nat := do
  modify fun s => { s with collected := [] }
  declareEach p.name p.declarations
  match p.fault with
  | some fault => throw fault
  | none =>
    let s ← get
    fileEach s.collected
    return s.collected.length

theorem run_declareEach (provider : String) : ∀ (ds : List KeywordDeclaration) (s : Registering),
    ∃ collected, (declareEach provider ds).run s = ((ds.mapM (entry provider)).map fun _ => (), { s with collected }) ∧
      ∀ es, ds.mapM (entry provider) = .ok es → collected = s.collected ++ es
  | [], s => ⟨s.collected, rfl, fun es h => by cases h; exact (List.append_nil _).symm⟩
  | d :: rest, s => by
    cases made : entry provider d with
    | error fault =>
      have stops : (d :: rest).mapM (entry provider) = .error fault := by rw [List.mapM_cons, made]; rfl
      refine ⟨s.collected, ?_, fun es h => ?_⟩
      · rw [declareEach, Act.run_bind, made, stops]
        rfl
      · rw [stops] at h
        cases h
    | ok e =>
      obtain ⟨collected, run, all⟩ := run_declareEach provider rest { s with collected := s.collected ++ [e] }
      have goes : (d :: rest).mapM (entry provider) = (rest.mapM (entry provider)).map (e :: ·) := by
        rw [List.mapM_cons, made]
        cases rest.mapM (entry provider) <;> rfl
      refine ⟨collected, ?_, fun es h => ?_⟩
      · rw [declareEach, Act.run_bind, made, goes]
        refine Eq.trans run ?_
        cases rest.mapM (entry provider) <;> rfl
      · rw [goes] at h
        cases others : rest.mapM (entry provider) with
        | error fault => rw [others] at h; cases h
        | ok es' =>
          rw [others] at h
          cases h
          rw [all es' others, List.append_assoc]
          rfl

theorem run_fileEach : ∀ (es : List KeywordEntry) (s : Registering),
    (fileEach es).run s = (.ok (), { s with registry := s.registry.addAll es })
  | [], _ => rfl
  | e :: rest, s => by
    rw [fileEach, Act.run_bind]
    exact run_fileEach rest { s with registry := s.registry.add e }

/-- Declaration by declaration, a registration does what it does as a whole. -/
theorem run_registering (p : KeywordProvider) (s : Registering) :
    ∃ collected, p.registering.run s = match s.registry.register p with
      | .ok done => (.ok done.declared, ⟨done.registry, collected⟩)
      | .error fault => (.error fault, ⟨s.registry, collected⟩) := by
  obtain ⟨collected, run, all⟩ := run_declareEach p.name p.declarations { s with collected := [] }
  refine ⟨collected, ?_⟩
  have steps : p.registering.run s = Act.run (do
      declareEach p.name p.declarations
      match p.fault with
      | some fault => throw fault
      | none =>
        let s ← get
        fileEach s.collected
        return s.collected.length) { s with collected := [] } := by
    rw [registering, Act.run_bind]
    rfl
  rw [steps, Act.run_bind, run]
  unfold KeywordRegistry.register entries
  cases made : p.declarations.mapM (entry p.name) with
  | error fault => rfl
  | ok es =>
    obtain rfl : collected = es := all es made
    cases p.fault with
    | some fault => rfl
    | none =>
      show Act.run _ _ = _
      dsimp only [Except.map]
      rw [Act.run_bind, Act.run_get]
      dsimp only
      rw [Act.run_bind, run_fileEach]
      rfl

/-! ## Which providers fail -/

theorem shows_of_entry {provider : String} {d : KeywordDeclaration} {e : KeywordEntry} (h : entry provider d = .ok e) :
    d.Valid ∧ e.Shows ⟨provider, d⟩ := by
  unfold entry at h
  cases blank : Text.isBlankText d.name with
  | true =>
    rw [blank] at h
    cases h
  | false =>
    cases given : d.body with
    | none =>
      rw [blank, given] at h
      cases h
    | some body =>
      rw [blank, given] at h
      obtain rfl := Except.ok.inj h
      exact ⟨⟨blank, by rw [given]; rfl⟩, rfl, given, rfl, rfl, rfl⟩

theorem exists_entry (provider : String) {d : KeywordDeclaration} (valid : d.Valid) :
    ∃ e, entry provider d = .ok e := by
  obtain ⟨body, given⟩ := Option.isSome_iff_exists.1 valid.2
  refine ⟨⟨canonicalName d.name, body, d.mandatory, d.description, provider⟩, ?_⟩
  unfold entry
  rw [valid.1, given]
  rfl

theorem shows_of_mapM {provider : String} : ∀ {ds : List KeywordDeclaration} {es : List KeywordEntry},
    ds.mapM (entry provider) = .ok es →
      (∀ d ∈ ds, d.Valid) ∧ List.Forall₂ KeywordEntry.Shows es (ds.map (⟨provider, ·⟩))
  | [], es, h => by
    cases h
    exact ⟨nofun, .nil⟩
  | d :: rest, es, h => by
    rw [List.mapM_cons] at h
    cases made : entry provider d with
    | error fault => rw [made] at h; cases h
    | ok e =>
      cases others : rest.mapM (entry provider) with
      | error fault => rw [made, others] at h; cases h
      | ok es' =>
        rw [made, others] at h
        cases h
        obtain ⟨valid, own⟩ := shows_of_entry made
        obtain ⟨valids, all⟩ := shows_of_mapM others
        exact ⟨List.forall_mem_cons.2 ⟨valid, valids⟩, .cons own all⟩

theorem exists_mapM (provider : String) {ds : List KeywordDeclaration} (valid : ∀ d ∈ ds, d.Valid) :
    ∃ es, ds.mapM (entry provider) = .ok es :=
  exists_mapM_ok fun d held => exists_entry provider (valid d held)

theorem entries_cases (p : KeywordProvider) :
    (p.Works ∧ ∃ es, p.entries = .ok es ∧ List.Forall₂ KeywordEntry.Shows es p.declared) ∨
      ¬ p.Works ∧ ∃ fault, p.entries = .error fault := by
  unfold entries
  cases made : p.declarations.mapM (entry p.name) with
  | error fault =>
    refine .inr ⟨fun works => ?_, fault, rfl⟩
    obtain ⟨es, all⟩ := exists_mapM p.name works.2
    rw [made] at all
    cases all
  | ok es =>
    obtain ⟨valid, shows⟩ := shows_of_mapM made
    cases after : p.fault with
    | some fault =>
      refine .inr ⟨fun works => ?_, fault, rfl⟩
      have none := works.1
      rw [after] at none
      cases none
    | none => exact .inl ⟨⟨after, valid⟩, es, rfl, shows⟩

end KeywordProvider

/-! ## Registering -/

namespace KeywordRegistry

open KeywordProvider (Registering)

def after (providers : List KeywordProvider) : KeywordRegistry :=
  providers.foldl (fun r p => (p.registering.run ⟨r, []⟩).2.registry) empty

/-- A registry that has under each name what was declared last under it, and nothing else. -/
structure Files (r : KeywordRegistry) (xs : List Declared) : Prop where
  distinct : r.keywords.keys.Nodup
  get_iff : ∀ key e, r.keywords.get? key = some e ↔ ∃ x, lastUnder key xs = some x ∧ e.Shows x
  shown : ∀ x ∈ xs, ∃ e : KeywordEntry, e.Shows x

variable {r : KeywordRegistry} {xs : List Declared}

theorem files_empty : Files empty [] where
  distinct := List.nodup_nil
  get_iff key e := by
    constructor
    · intro h; cases h
    · rintro ⟨x, h, -⟩; cases h
  shown := nofun

theorem Files.add (files : r.Files xs) {e : KeywordEntry} {x : Declared} (shows : e.Shows x) :
    (r.add e).Files (xs ++ [x]) where
  distinct := Entries.nodup_keys_set files.distinct e.name e
  get_iff key e' := by
    show (r.keywords.set e.name e).get? key = some e' ↔ _
    rw [Entries.get?_set, lastUnder_concat, shows.name]
    by_cases here : x.name = key
    · rw [if_pos here, if_pos here.symm]
      constructor
      · intro h
        exact ⟨x, rfl, Option.some.inj h ▸ shows⟩
      · rintro ⟨y, h, shows'⟩
        cases h
        exact congrArg some (shows.unique shows')
    · rw [if_neg here, if_neg (Ne.symm here)]
      exact files.get_iff key e'
  shown y there := by
    rcases List.mem_append.1 there with earlier | last
    · exact files.shown y earlier
    · exact ⟨e, List.mem_singleton.1 last ▸ shows⟩

theorem Files.addAll {es : List KeywordEntry} {ys : List Declared} (shows : List.Forall₂ KeywordEntry.Shows es ys) :
    ∀ {r : KeywordRegistry} {xs : List Declared}, r.Files xs → (r.addAll es).Files (xs ++ ys) := by
  induction shows with
  | nil => exact fun files => (List.append_nil _).symm ▸ files
  | cons own _ ih =>
    intro r xs files
    have others := ih (files.add own)
    rwa [List.append_assoc] at others

/-- A registration fails exactly if its provider does, and then it leaves the registry alone. -/
theorem registering_cases (r : KeywordRegistry) (p : KeywordProvider) (collected : List KeywordEntry) :
    (p.Works ∧ (p.registering.run ⟨r, collected⟩).1 = .ok p.declarations.length ∧ ∃ es,
      List.Forall₂ KeywordEntry.Shows es p.declared ∧ (p.registering.run ⟨r, collected⟩).2.registry = r.addAll es) ∨
    ¬ p.Works ∧ (∃ fault, (p.registering.run ⟨r, collected⟩).1 = .error fault) ∧
      (p.registering.run ⟨r, collected⟩).2.registry = r := by
  obtain ⟨left, run⟩ := p.run_registering ⟨r, collected⟩
  rw [run]
  unfold register
  rcases p.entries_cases with ⟨works, es, made, shows⟩ | ⟨fails, fault, made⟩
  · rw [made]
    have length : es.length = p.declarations.length := shows.length_eq.trans (List.length_map _)
    exact .inl ⟨works, congrArg Except.ok length, es, shows, rfl⟩
  · rw [made]
    exact .inr ⟨fails, ⟨fault, rfl⟩, rfl⟩

theorem after_concat (providers : List KeywordProvider) (p : KeywordProvider) :
    after (providers ++ [p]) = (p.registering.run ⟨after providers, []⟩).2.registry := by
  simp only [after, List.foldl_append, List.foldl_cons, List.foldl_nil]

theorem files_after (providers : List KeywordProvider) : (after providers).Files (declaredBy providers) := by
  induction providers using List.reverseRecOn with
  | nil => exact files_empty
  | append_singleton providers p ih =>
    rw [after_concat]
    rcases registering_cases (after providers) p [] with ⟨works, -, es, shows, taken⟩ | ⟨fails, -, kept⟩
    · rw [taken]
      have more : declaredBy (providers ++ [p]) = declaredBy providers ++ p.declared := by simp [declaredBy, works]
      rw [more]
      exact ih.addAll shows
    · rw [kept]
      have same : declaredBy (providers ++ [p]) = declaredBy providers := by simp [declaredBy, fails]
      rw [same]
      exact ih

/-! ## Reading the registry -/

theorem Files.mem_keys_iff (files : r.Files xs) {key : String} : key ∈ r.keywords.keys ↔ ∃ x ∈ xs, x.name = key := by
  constructor
  · intro there
    obtain ⟨⟨_, e⟩, held, rfl⟩ := List.mem_map.1 there
    obtain ⟨x, last, -⟩ := (files.get_iff _ e).1 (Entries.get?_of_mem files.distinct held)
    exact ⟨x, of_lastUnder last⟩
  · rintro ⟨x, there, named⟩
    cases last : lastUnder key xs with
    | none => exact absurd named (lastUnder_eq_none_iff.1 last x there)
    | some y =>
      obtain ⟨e, shows⟩ := files.shown y (of_lastUnder last).1
      exact List.mem_map.2 ⟨_, Entries.mem_of_get? ((files.get_iff key e).2 ⟨y, last, shows⟩), rfl⟩

theorem Files.resolve_eq_none_iff (files : r.Files xs) (name : String) :
    r.resolve? (some name) = none ↔ ∀ x ∈ xs, x.name ≠ canonicalName name := by
  rw [← lastUnder_eq_none_iff, ← not_iff_not, ← ne_eq, ← ne_eq, Option.ne_none_iff_exists', Option.ne_none_iff_exists']
  constructor
  · rintro ⟨e, found⟩
    obtain ⟨x, last, -⟩ := (files.get_iff _ e).1 found
    exact ⟨x, last⟩
  · rintro ⟨x, last⟩
    obtain ⟨e, shows⟩ := files.shown x (of_lastUnder last).1
    exact ⟨e, (files.get_iff _ e).2 ⟨x, last, shows⟩⟩

theorem Files.count_eq (files : r.Files xs) : r.count = (xs.map Declared.name).toFinset.card := by
  have same : r.keywords.keys.toFinset = (xs.map Declared.name).toFinset := by
    ext key
    simp only [List.mem_toFinset, List.mem_map]
    exact files.mem_keys_iff
  rw [← same, List.toFinset_card_of_nodup files.distinct]
  exact (List.length_map _).symm

theorem Files.mem_names_iff (files : r.Files xs) {key : String} : key ∈ r.names ↔ ∃ x ∈ xs, x.name = key := by
  rw [← files.mem_keys_iff]
  exact (List.mergeSort_perm _ _).mem_iff

theorem Files.names_sorted (files : r.Files xs) : r.names.Pairwise (· < ·) := by
  have sorted : r.names.Pairwise (decide <| · ≤ ·) :=
    List.pairwise_mergeSort (fun a b c => by simpa using le_trans)
      (fun a b => by simpa using le_total a b) _
  have distinct : r.names.Nodup := (List.mergeSort_perm _ _).nodup_iff.2 files.distinct
  exact (sorted.and distinct).imp fun ⟨le, ne⟩ => lt_of_le_of_ne (of_decide_eq_true le) ne

/--
After any registrations, a failed one leaves the registry as it is. A name stands for what was declared last under its
canonical form by a provider that did not fail. The registry counts and lists the canonical names, each once and in
order, and a dispatch runs what the name stands for.
-/
theorem registry_holds_last_declared (providers : List KeywordProvider) :
    let r := after providers
    let declared := declaredBy providers
    (∀ (p : KeywordProvider) collected, (p.Works ∧ (p.registering.run ⟨r, collected⟩).1 = .ok p.declarations.length) ∨
      ¬ p.Works ∧ (∃ fault, (p.registering.run ⟨r, collected⟩).1 = .error fault) ∧
        (p.registering.run ⟨r, collected⟩).2.registry = r) ∧
    (∀ name e, r.resolve? (some name) = some e ↔
      ∃ x, lastUnder (canonicalName name) declared = some x ∧ e.Shows x) ∧
    (∀ name, r.resolve? (some name) = none ↔ ∀ x ∈ declared, x.name ≠ canonicalName name) ∧
    r.resolve? none = none ∧
    (∀ name, r.has name = true ↔ ∃ e, r.resolve? name = some e) ∧
    r.count = (declared.map Declared.name).toFinset.card ∧
    r.names.Pairwise (· < ·) ∧ (∀ key, key ∈ r.names ↔ ∃ x ∈ declared, x.name = key) ∧
    (∀ name, r.resolve? name = none → r.dispatch name = reportUnknown name) ∧
    ∀ name e, r.resolve? name = some e → r.dispatch name = runEntry e ∧ e.InvokedOnce := by
  intro r declared
  have files : r.Files declared := files_after providers
  refine ⟨fun p collected => ?_, fun name e => files.get_iff _ e, files.resolve_eq_none_iff, rfl,
    fun name => Option.isSome_iff_exists, files.count_eq, files.names_sorted, fun key => files.mem_names_iff,
    fun name unknown => ?_, fun name e found => ⟨?_, e.invokedOnce⟩⟩
  · exact (registering_cases r p collected).imp (fun h => ⟨h.1, h.2.1⟩) id
  · unfold dispatch
    rw [unknown]
  · unfold dispatch
    rw [found]

/-- The second provider fails after it declared a keyword of the first one again, under another spelling. -/
example : (after [⟨"First", [⟨" click", some fun _ => pure .null, true, ""⟩], none⟩,
    ⟨"Second", [⟨"CLICK", none, true, ""⟩], none⟩]).keywords.map (fun e => (e.1, e.2.provider)) =
      [("CLICK", "First")] := by
  rfl

end KeywordRegistry

end KeywordSuite
