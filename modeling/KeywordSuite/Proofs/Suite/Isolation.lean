import KeywordSuite.Proofs.Suite.Crew
import KeywordSuite.Proofs.Suite.Outcome
import KeywordSuite.Proofs.Suite.Seclusion
import KeywordSuite.Proofs.Suite.Sessions

/-!
# Test cases of a suite do not disturb each other

With isolated keywords, in surroundings that keep sessions apart, a test case comes to the result that it
comes to alone, on whichever unit it runs and whatever runs before it or beside it.
-/

namespace KeywordSuite

variable {ω φ : Type} {s : Surroundings ω} {view : ω → SessionId → φ} {plan : SuitePlan}

/-! ## A test case alone -/

section

variable (s plan)

/-- What a test case comes to alone, on the unit `v` and with a fresh registry. -/
def CaseDescriptor.alone (d : CaseDescriptor) (v : UnitId) (outer : ω) : Except Fault CaseResult × World ω :=
  (s.perform (d.run plan v)).run ⟨.empty, outer⟩

variable {s plan}

theorem perform_run (d : CaseDescriptor) (u : UnitId) (w : World ω) :
    (s.perform (d.run plan u)).run w = (Pool.program plan d u).run s.handle w := rfl

theorem alone_closed (hs : s.Uninterrupted) (d : CaseDescriptor) (v : UnitId) (outer : ω) :
    (d.alone s plan v outer).2.sessions.live? v = none := by
  have met : Meets s.actual (d.runWith plan v) (d.freshState v) ⟨.empty, outer⟩ _ := d.meets_runWith_released hs v
  obtain ⟨r, st, w', runs, -, -, slot⟩ := Surroundings.exists_of_meets met
  have whole : d.alone s plan v outer = (r, w') := d.run_eq_runWith runs
  rw [whole]
  exact SessionTable.live?_eq_none_of_hasSlot _ _ slot

end

/-! ## One test case beside its run alone -/

section

/-- What is left of a test case on the unit `u`, beside what is left of its run alone. -/
def Shadowed (s : Surroundings ω) (view : ω → SessionId → φ) (owner : SessionId → UnitId) (u v : UnitId)
    (w : World ω) (rest : Program SharedOp.Reply (Except Fault CaseResult))
    (alone : Except Fault CaseResult × World ω) : Prop :=
  ∃ k rest' w', Abreast s view owner u v k w w' ∧
    Coupled (tandem u v) (fun _ r r' => Matched False CaseResult.Alike r r') k rest rest' ∧
    rest'.run s.handle w' = alone

variable {owner : SessionId → UnitId} {u v : UnitId} {w : World ω} {alone : Except Fault CaseResult × World ω}

theorem shadowed_begin (hk : plan.registry.Isolated) (d : CaseDescriptor) (idle : w.sessions.live? u = none)
    (outer : ω) : Shadowed s view owner u v w (Pool.program plan d u) (d.alone s plan v outer) := by
  exact ⟨⟨[], []⟩, _, _, abreast_idle idle rfl, (tied_run d hk (.refl plan) _ (le_refl _)).mono fun _ _ _ ended => ended.2,
    (perform_run d v _).symm⟩

theorem shadowed_done (hv : s.Secluded view) (hs : s.Uninterrupted) {r : Except Fault CaseResult}
    (h : Shadowed s view owner u v w (.done r) alone) : Matched False CaseResult.Alike r alone.1 ∧
      (alone.2.sessions.live? v = none → w.sessions.live? u = none) := by
  obtain ⟨k, rest', w', abreast, coupled, rfl⟩ := h
  generalize hp : Program.done r = p at coupled
  induction coupled generalizing w' with
  | left => cases hp
  | both => cases hp
  | done alike =>
    cases hp
    refine ⟨alike, fun idle => ?_⟩
    rcases abreast.linked.live_cases with ⟨gone, -⟩ | ⟨n, m, -, live, -⟩
    · exact gone
    · rw [show w'.sessions.live? v = none from idle] at live
      cases live
  | right aside _ ih => exact ih _ (asideReply hs aside w') _ (abreast.right hv aside) hp

/-- One operation of a test case that is shadowed leaves it so, and other units as they were. -/
theorem Shadowed.act (ho : s.Orderly) (hv : s.Secluded view) {op : SharedOp}
    {resume : Except Fault op.Reply → Program SharedOp.Reply (Except Fault CaseResult)}
    (h : Shadowed s view owner u v w (.call op resume) alone) :
    ∃ owner', Moves view owner u w owner' ((s.handle op).run w).2 ∧
      Shadowed s view owner' u v ((s.handle op).run w).2 (resume ((s.handle op).run w).1) alone := by
  have hs := ho.toUninterrupted
  obtain ⟨k, rest', w', abreast, coupled, ends⟩ := h
  generalize hp : Program.call op resume = p at coupled
  -- The run alone first does what it does aside, until it does this operation too or need not.
  induction coupled generalizing w' with
  | done => cases hp
  | left aside coupled _ =>
    cases hp
    have moves : Moves view owner u w owner ((s.handle op).run w).2 :=
      (spares_aside hv aside w).moves fun _ none => by cases none
    exact ⟨owner, moves, _, _, _, abreast.left hv aside, coupled _ (asideReply hs aside w), ends⟩
  | right aside _ ih => exact ih _ (asideReply hs aside w') _ (abreast.right hv aside) ends hp
  | both together coupled _ =>
    cases hp
    obtain ⟨fails, R, tandem, rfl⟩ := together
    obtain ⟨k', owner', grown, matched, moves, abreast⟩ := abreast.together hv ho tandem
    exact ⟨owner', moves, k', _, _, abreast, coupled _ _ k' ⟨grown, matched⟩, ends⟩

theorem Shadowed.frame {rest : Program SharedOp.Reply (Except Fault CaseResult)} {u' : UnitId}
    {owner' : SessionId → UnitId} {w₁ : World ω} (h : Shadowed s view owner u v w rest alone)
    (moves : Moves view owner u' w owner' w₁) (later : s.Later w w₁) (other : u ≠ u') :
    Shadowed s view owner' u v w₁ rest alone := by
  obtain ⟨k, rest', w', abreast, coupled, ends⟩ := h
  exact ⟨k, rest', w', abreast.frame moves later other, coupled, ends⟩

end

/-! ## Test cases on their units -/

section

variable (s view plan) (v : UnitId) (outer : ω)

/-- A test case has come to what it comes to alone. -/
def CaseDescriptor.Settles (d : CaseDescriptor) (r : Except Fault CaseResult) : Prop :=
  Matched False CaseResult.Alike r (d.alone s plan v outer).1

/-- How a unit fares: its test case is shadowed by its run alone, or it has no live session. -/
def Fares (cases : List CaseDescriptor) (owner : SessionId → UnitId) (w : World ω) (u : UnitId) : Option Running → Prop
  | none => w.sessions.live? u = none
  | some x => ∃ d, cases[x.place]? = some d ∧ Shadowed s view owner u v w x.rest (d.alone s plan v outer)

def Company (cases : List CaseDescriptor) (crew : Crew) (w : World ω) : Prop :=
  ∃ owner, ∀ u, Fares s view plan v outer cases owner w u (crew u)

variable {s view plan v outer} {cases : List CaseDescriptor} {owner owner' : SessionId → UnitId}
  {crew : Crew} {u : UnitId} {w w₁ : World ω} {place : Nat}

theorem Fares.frame {u' : UnitId} {x : Option Running} (h : Fares s view plan v outer cases owner w u x)
    (moves : Moves view owner u' w owner' w₁) (later : s.Later w w₁) (other : u ≠ u') :
    Fares s view plan v outer cases owner' w₁ u x := by
  cases x with
  | none => exact (moves.lives u other).trans h
  | some x =>
    obtain ⟨d, listed, shadowed⟩ := h
    exact ⟨d, listed, shadowed.frame moves later other⟩

namespace Company

theorem idle (free : ∀ u, w.sessions.live? u = none) : Company s view plan v outer cases .idle w :=
  ⟨fun _ => .calling, free⟩

theorem begin (h : Company s view plan v outer cases crew w) (hk : plan.registry.Isolated) {d : CaseDescriptor}
    (listed : cases[place]? = some d) (free : crew u = none) :
    Company s view plan v outer cases (Function.update crew u (some ⟨place, Pool.program plan d u⟩)) w := by
  obtain ⟨owner, fares⟩ := h
  have idle := fares u
  rw [free] at idle
  exact ⟨owner, (Function.forall_update_iff crew _).2
    ⟨⟨d, listed, shadowed_begin hk d idle outer⟩, fun u' _ => fares u'⟩⟩

theorem act (h : Company s view plan v outer cases crew w) (ho : s.Orderly) (hv : s.Secluded view) {op : SharedOp}
    {resume : Except Fault op.Reply → Program SharedOp.Reply (Except Fault CaseResult)}
    (here : crew u = some ⟨place, .call op resume⟩) :
    Company s view plan v outer cases
      (Function.update crew u (some ⟨place, resume ((s.handle op).run w).1⟩)) ((s.handle op).run w).2 := by
  obtain ⟨owner, fares⟩ := h
  have busy := fares u
  rw [here] at busy
  obtain ⟨d, listed, shadowed⟩ := busy
  obtain ⟨owner', moves, shadowed⟩ := shadowed.act ho hv
  exact ⟨owner', (Function.forall_update_iff crew _).2
    ⟨⟨d, listed, shadowed⟩, fun u' other => (fares u').frame moves (.step op .refl) other⟩⟩

theorem finish (h : Company s view plan v outer cases crew w) (hs : s.Uninterrupted) (hv : s.Secluded view)
    {r : Except Fault CaseResult} (here : crew u = some ⟨place, .done r⟩) :
    (∃ d, cases[place]? = some d ∧ d.Settles s plan v outer r) ∧
      Company s view plan v outer cases (Function.update crew u none) w := by
  obtain ⟨owner, fares⟩ := h
  have busy := fares u
  rw [here] at busy
  obtain ⟨d, listed, shadowed⟩ := busy
  obtain ⟨settles, closes⟩ := shadowed_done hv hs shadowed
  exact ⟨⟨d, listed, settles⟩, owner,
    (Function.forall_update_iff crew _).2 ⟨closes (alone_closed hs d v outer), fun u' _ => fares u'⟩⟩

end Company

namespace CaseDescriptor.Settles

variable {d : CaseDescriptor} {r : Except Fault CaseResult} {result : CaseResult}

theorem ok (h : d.Settles s plan v outer r) : ∃ result, r = .ok result := by
  cases r with
  | ok result => exact ⟨result, rfl⟩
  | error fault =>
    unfold CaseDescriptor.Settles at h
    generalize (d.alone s plan v outer).1 = alone at h
    cases h with
    | error never _ => exact never.elim

theorem alike (h : d.Settles s plan v outer (.ok result)) :
    ∃ alone, (d.alone s plan v outer).1 = .ok alone ∧ result.Alike alone := by
  unfold CaseDescriptor.Settles at h
  generalize (d.alone s plan v outer).1 = alone at h ⊢
  cases h with
  | ok alike => exact ⟨_, rfl, alike⟩

end CaseDescriptor.Settles

section

variable (v outer) (ho : s.Orderly) (hv : s.Secluded view) (hk : plan.registry.Isolated)
include ho hv hk

theorem upholds_company (cases : List CaseDescriptor) :
    Crew.Upholds s plan cases (Company s view plan v outer cases) (CaseDescriptor.Settles s plan v outer) where
  begin holds listed free := holds.begin hk listed free
  act holds here := holds.act ho hv here
  finish holds here := holds.finish ho.toUninterrupted hv here
  note holds := holds
  completes settles := settles.ok

theorem runAll_settles (idle : ∀ u, w.sessions.live? u = none) (cases : List CaseDescriptor) (schedule : List Nat) :
    ∃ results w', (s.runAll plan cases schedule).run w = (.ok results, w') ∧
      SettledFor (CaseDescriptor.Settles s plan v outer) cases results := by
  obtain ⟨results, w', runs, -, -, settled⟩ := (upholds_company v outer ho hv hk cases).runAll (Company.idle idle) schedule
  exact ⟨results, w', runs, settled⟩

end

end

/-! ## The whole suite -/

section

variable {α : Type} {u : UnitId} (hv : s.Secluded view) (hs : s.Uninterrupted)
include hv hs

/-- What a test case does aside leaves the sessions as they are. -/
theorem sessions_aside {post : α → Unit → Prop} : ∀ {p : Program SharedOp.Reply α} {w : World ω},
    p.Keeps (tandem u u).alone () post → post (p.run s.handle w).1 () ∧ (p.run s.handle w).2.sessions = w.sessions
  | .done _, _, ended => ⟨ended, rfl⟩
  | .call _ _, w, ⟨_, aside, kept⟩ => by
    obtain ⟨ended, same⟩ := sessions_aside (kept _ (asideReply hs aside w))
    exact ⟨ended, same.trans (spares_aside hv aside w).sessions⟩

theorem run_alone {p : SharedProcedure α} (h : Alone (tandem u u) p) (w : World ω) :
    ∃ a w', (s.perform p).run w = (.ok a, w') ∧ w'.sessions = w.sessions := by
  obtain ⟨⟨a, ended⟩, same⟩ := sessions_aside hv hs (w := w) h
  exact ⟨a, _, Prod.ext ended rfl, same⟩

end

section

variable (ho : s.Orderly) (hv : s.Secluded view) (hk : plan.registry.Isolated)
include ho hv hk

/--
With isolated keywords, in surroundings that keep sessions apart, a suite comes to one result for every
test case that is listed, in that order. Each is what the test case comes to alone, with a fresh session
registry, but for times and the paths that carry a time stamp.
-/
theorem suite_isolates_cases {cases : List CaseDescriptor} {w : World ω} (idle : ∀ u, w.sessions.live? u = none)
    (listed : (s.source.listActive.run (s.listingWorld w).outer).1 = .ok cases) (schedule : List Nat)
    (v : UnitId) (outer : ω) :
    ∃ summary, (s.runSuite plan schedule w).1.summary = .ok summary ∧
      List.Forall₂ (fun d result => ∃ alone, (d.alone s plan v outer).1 = .ok alone ∧ result.Alike alone)
        cases summary.results := by
  have hs := ho.toUninterrupted
  obtain ⟨_, w₁, begins, same⟩ := run_alone hv hs (u := v) (alone_tellReport .beginSuite)
    (s.logged .info "========== Starting Test Execution ==========" w)
  obtain rfl : s.listingWorld w = w₁ := congrArg Prod.snd begins
  have unopened : (s.startingWorld cases w).sessions = w.sessions := same
  obtain ⟨results, w₂, runs, alike⟩ := runAll_settles v outer ho hv hk (w := s.startingWorld cases w)
    (by rw [unopened]; exact idle) cases schedule
  obtain ⟨completedAt, path, w₃, sums⟩ := run_finishSuite plan hs.report hs.listeners results (s.now w.outer) w₂
  refine ⟨.ofResults results (s.now w.outer) completedAt, ?_, alike.imp fun _ _ settles => settles.alike⟩
  rw [Surroundings.runSuite_of_results hs.report listed runs sums]

end

/-! ## Two workers with a page each -/

/-- Every session shows a page, and the clock goes on with every line of the log. -/
structure Gallery where
  ticks : Nat
  pages : SessionId → String

/-- Two test cases that visit a page of their own; the second then clicks on something that is not there. -/
def Surroundings.gallery : Surroundings Gallery where
  log _ _ x := { x with ticks := x.ticks + 1 }
  create n _ := modify fun x => { x with pages := Function.update x.pages n "about:blank" }
  browse n
    | .navigate url => modify fun x => { x with pages := Function.update x.pages n url }
    | .title => return (← get).pages n
    | .isEnabled _ | .isChecked _ => return true
    | .click _ => throw (.plain .runtime "no such element")
    | .fill .. | .waitForState .. | .saveScreenshot _ | .quit => return ()
  defaultConfig := {}
  now x := { (default : Timestamp) with time := ⟨0, 0, 0, x.ticks⟩ }
  localNow x := { (default : Timestamp) with time := ⟨0, 0, 0, x.ticks⟩ }
  stopwatch _ := 0.0
  sleep _ := return ()
  source := ⟨return [{ testId := "TC1", testName := "First" }, { testId := "TC2", testName := "Second" }],
    fun testId => return [("URL", .text testId), ("Title", .text testId), ("Element", .text "#go")],
    fun testId => return [.text "open_browser", .text "navigate_to", .text "verify_title"] ++
      if testId = "TC2" then [.text "click"] else []⟩
  report := none
  capture := .screenshots (.ofText "shots")
  listeners := []
  outside _ _ := throw (.plain .runtime "nothing outside")

theorem Surroundings.orderly_gallery : gallery.Orderly where
  create _ _ := fun _ => ordinary_ok _
  browse n call := by
    cases call with
    | click selector => exact Act.ordinarily_throw rfl
    | _ => exact fun _ => ordinary_ok _
  sleep _ := Act.ordinarily_pure _
  loadInput _ := Act.ordinarily_pure _
  loadKeywords _ := Act.ordinarily_pure _
  report _ h := by cases h
  capture _ _ h := by cases h
  listeners _ h := by cases h
  outside _ _ := Act.ordinarily_throw rfl
  closes := rfl
  steady _ _ _ := by
    show (0.0 : Float) ≤ 0.0 - 0.0
    decide

theorem Surroundings.secluded_gallery : gallery.Secluded Gallery.pages where
  create _ n n' x x' := ⟨rfl, (Function.update_self n _ x.pages).trans (Function.update_self n' _ x'.pages).symm⟩
  createConfined _ n x m other := Function.update_of_ne other _ x.pages
  browse call n n' x x' same := by
    cases call with
    | navigate url => exact ⟨rfl, (Function.update_self n _ x.pages).trans (Function.update_self n' _ x'.pages).symm⟩
    | title => exact ⟨congrArg Except.ok same, same⟩
    | _ => exact ⟨rfl, same⟩
  browseConfined call n x m other := by
    cases call with
    | navigate url => exact Function.update_of_ne other _ x.pages
    | _ => rfl
  shots _ _ _ _ _ _ _ _ same := ⟨rfl, same⟩
  log _ _ _ := rfl
  sleep _ := ⟨fun _ _ => rfl, fun _ => rfl⟩
  loadInput _ := ⟨fun _ _ => rfl, fun _ => rfl⟩
  loadKeywords _ := ⟨fun _ _ => rfl, fun _ => rfl⟩
  report _ h := by cases h
  listeners _ h := by cases h
  capture _ _ h := by cases h

def KeywordRegistry.browsing : KeywordRegistry :=
  ⟨(BrowserKeyword.provider default).declarations.filterMap fun d => d.body.map fun body =>
    (canonicalName d.name, ⟨canonicalName d.name, body, d.mandatory, d.description, "BrowserKeywords"⟩)⟩

theorem KeywordRegistry.isolated_browsing : browsing.Isolated := by
  intro name e h
  obtain ⟨key, he⟩ := mem_of_resolve? h
  obtain ⟨d, declared, filed⟩ := List.mem_filterMap.1 he
  obtain ⟨body, hasBody, entry⟩ := Option.map_eq_some_iff.1 filed
  obtain ⟨-, rfl⟩ := Prod.mk.inj entry
  exact BrowserKeyword.isolated_of_isBuiltIn ⟨default, d, declared, hasBody⟩

theorem suite_isolates_two_workers :
    let plan : SuitePlan := ⟨.browsing, [], [], 2⟩
    let turns := (List.replicate 40 [0, 1]).flatten
    let start : Gallery := ⟨0, fun _ => ""⟩
    ∃ summary, (Surroundings.gallery.runSuite plan turns ⟨.empty, start⟩).1.summary = .ok summary ∧
      (summary.results.map fun r => r.keywords.map fun e => e.status) =
        [[.passed, .passed, .passed], [.passed, .passed, .passed, .failed]] ∧
      List.Forall₂ (fun (d : CaseDescriptor) result => ∃ alone,
          (d.alone .gallery plan .calling start).1 = .ok alone ∧ result.Alike alone)
        [{ testId := "TC1", testName := "First" }, { testId := "TC2", testName := "Second" }] summary.results := by
  intro plan turns start
  have keywords : plan.registry.Isolated := KeywordRegistry.isolated_browsing
  obtain ⟨summary, ends, alike⟩ := suite_isolates_cases Surroundings.orderly_gallery Surroundings.secluded_gallery
    keywords (w := ⟨.empty, start⟩) (fun _ => rfl) rfl turns .calling start
  refine ⟨summary, ends, ?_, alike⟩
  have statuses := congrArg (fun ended => ended.toOption.map fun summary : SuiteSummary =>
    summary.results.map fun r => r.keywords.map fun e => e.status) ends
  exact Option.some.inj (statuses.symm.trans (by decide +kernel))

end KeywordSuite
