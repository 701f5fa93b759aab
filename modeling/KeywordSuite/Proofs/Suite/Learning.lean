import KeywordSuite.Proofs.Case.Learning
import KeywordSuite.Proofs.Suite.Crew

/-!
# What a listener learns from a suite

However many workers a suite has and whatever the schedule, a listener learns the result of each of its test cases
once, in the order in which they are reported. If the suite does not come to all of its results, it has learned of
some of them.
-/

namespace KeywordSuite

/-! ## By test cases -/

/-- Results that were learned, with the places of their test cases. -/
abbrev Lessons := List (Nat × CaseResult)

namespace Lessons

def results (lessons : Lessons) : List CaseResult := lessons.map Prod.snd

/-- What was learned from the test case at a place. -/
def of (lessons : Lessons) (place : Nat) : List CaseResult := results (lessons.filter fun q => q.1 = place)

variable {lessons : Lessons} {place : Nat}

theorem of_append_self (more : List CaseResult) :
    of (lessons ++ more.map (Prod.mk place)) place = lessons.of place ++ more := by
  unfold of results
  rw [List.filter_append, List.map_append]
  simp [List.filter_map, Function.comp_def]

theorem of_append_other (more : List CaseResult) {other : Nat} (apart : other ≠ place) :
    of (lessons ++ more.map (Prod.mk place)) other = lessons.of other := by
  unfold of results
  rw [List.filter_append, List.map_append]
  simp [Ne.symm apart]

/-- What was learned at some places is what was learned at each of them. -/
theorem perm_flatMap : ∀ (places : List Nat) (lessons : Lessons), places.Nodup → (∀ q ∈ lessons, q.1 ∈ places) →
    lessons.results.Perm (places.flatMap lessons.of)
  | [], lessons, _, inside => by
    rw [List.eq_nil_iff_forall_not_mem.2 fun q held => List.not_mem_nil (inside q held)]
    exact .refl _
  | place :: rest, lessons, distinct, inside => by
    obtain ⟨other, distinct⟩ := List.nodup_cons.1 distinct
    let elsewhere : Lessons := lessons.filter fun q => !decide (q.1 = place)
    have parts : lessons.results.Perm (lessons.of place ++ elsewhere.results) := by
      have split := List.filter_append_perm (fun q : Nat × CaseResult => decide (q.1 = place)) lessons
      unfold of results
      rw [← List.map_append]
      exact (split.map Prod.snd).symm
    have later := perm_flatMap rest elsewhere distinct fun q held => by
      obtain ⟨held, apart⟩ := List.mem_filter.1 held
      rcases List.mem_cons.1 (inside q held) with same | inside
      · simp [same] at apart
      · exact inside
    have same : rest.flatMap elsewhere.of = rest.flatMap lessons.of := by
      refine List.flatMap_congr fun k there => ?_
      have apart : k ≠ place := fun same => other (same ▸ there)
      unfold of
      rw [List.filter_filter]
      congr 1
      refine List.filter_congr fun q _ => ?_
      by_cases here : q.1 = k <;> simp [here, apart]
    rw [same] at later
    exact parts.trans (later.append_left _)

end Lessons

/-! ## In surroundings that teach -/

variable {ω δ : Type}

/-- Surroundings in which a listener keeps the results that it is told, and something else stays as it is. -/
structure Surroundings.Teaches (s : Surroundings ω) (listener : Nat) (learned : World ω → List CaseResult)
    (aside : World ω → δ) : Prop where
  learns : ∀ op w, (∀ summary, op ≠ .inform listener (.finished summary)) →
    learned ((s.handle op).run w).2 = learned w ++ op.teaches listener
  stays : ∀ op w, (∀ summary, op ≠ .inform listener (.finished summary)) → aside ((s.handle op).run w).2 = aside w

/-- What a listener has learned while test cases run: of each that has come to a result that one, and of none twice. -/
structure Taught (listener : Nat) (learned : World ω → List CaseResult) (aside : World ω → δ) (count : Nat)
    (start : World ω) (lessons : Lessons) (ended : Outcomes) (crew : Crew) (w : World ω) : Prop where
  learns : learned w = learned start ++ lessons.results
  stays : aside w = aside start
  busy : ∀ u x, crew u = some x → x.place < count ∧ x.rest.Keeps (learning listener) (lessons.of x.place) LearnedAll
  all : ∀ q ∈ ended, LearnedAll q.2 (lessons.of q.1)
  fresh : ∀ place, crew.Spares ended place → lessons.of place = []
  inside : ∀ q ∈ lessons, q.1 < count

section

variable {s : Surroundings ω} {plan : SuitePlan} {listener : Nat} {learned : World ω → List CaseResult}
  {aside : World ω → δ} {start w : World ω} {count : Nat} {lessons : Lessons} {ended : Outcomes} {crew : Crew}

/-- One unit changes what it does, and the listener learns more from its test case. -/
theorem Taught.turn (h : Taught listener learned aside count start lessons ended crew w) {u : UnitId} {place : Nat}
    (alone : Crew.Spares (Function.update crew u none) ended place) (within : place < count) {w' : World ω}
    {more : List CaseResult} (learns : learned w' = learned w ++ more) (stays : aside w' = aside w)
    {rest : Program SharedOp.Reply (Except Fault CaseResult)}
    (keeps : rest.Keeps (learning listener) (lessons.of place ++ more) LearnedAll)
    (held : ∀ x, crew u = some x → x.place = place) :
    Taught listener learned aside count start (lessons ++ more.map (Prod.mk place)) ended
      (Function.update crew u (some ⟨place, rest⟩)) w' where
  learns := by
    have taught : Lessons.results (lessons ++ more.map (Prod.mk place)) = lessons.results ++ more := by
      unfold Lessons.results
      rw [List.map_append, List.map_map]
      simp [Function.comp_def]
    rw [learns, h.learns, taught, List.append_assoc]
  stays := stays.trans h.stays
  busy u' x busy := by
    -- only lessons of this place were added, so any other unit still has what it had
    by_cases here : u' = u
    · subst here
      rw [Function.update_self] at busy
      cases busy
      exact ⟨within, by rw [Lessons.of_append_self]; exact keeps⟩
    · rw [Function.update_of_ne here] at busy
      have other : x.place ≠ place := alone.busy u' x (by rwa [Function.update_of_ne here])
      rw [Lessons.of_append_other more other]
      exact h.busy u' x busy
  all q done := by
    rw [Lessons.of_append_other more (alone.ended q done)]
    exact h.all q done
  fresh k spares := by
    have other : k ≠ place := fun same => spares.busy u _ (Function.update_self ..) same.symm
    rw [Lessons.of_append_other more other]
    refine h.fresh k ⟨fun u' x busy => ?_, spares.ended⟩
    by_cases here : u' = u
    · subst here
      exact held x busy ▸ other.symm
    · exact spares.busy u' x (by rwa [Function.update_of_ne here])
  inside := by
    refine List.forall_mem_append.2 ⟨h.inside, fun q held => ?_⟩
    obtain ⟨r, -, rfl⟩ := List.mem_map.1 held
    exact within

theorem Surroundings.Teaches.attends (ht : s.Teaches listener learned aside) (hr : plan.registry.PassesBy listener)
    (inside : listener < plan.listeners.length) (cases : List CaseDescriptor) (start : World ω) :
    Crew.AttendsAlone s plan cases fun ended crew w =>
      ∃ lessons, Taught listener learned aside cases.length start lessons ended crew w where
  begin := by
    rintro ended crew w place d u ⟨lessons, h⟩ listed free spares
    have alone : Crew.Spares (Function.update crew u none) ended place :=
      ⟨fun u' x busy => spares.busy u' x (Crew.Distinct.busy_but busy).2, spares.ended⟩
    -- Nobody was at the place, so nothing was learned of it, and its program starts with nothing learned.
    have keeps := d.keeps_run_learning hr inside u
    rw [← h.fresh place spares, ← List.append_nil (lessons.of place)] at keeps
    exact ⟨_, h.turn alone (List.getElem?_eq_some_iff.1 listed).1 (List.append_nil _).symm rfl keeps fun x busy => by
      cases free.symm.trans busy⟩
  act := by
    rintro ended crew w u place op resume ⟨lessons, h⟩ here alone
    obtain ⟨within, _, ⟨unfinished, rfl⟩, keeps⟩ := h.busy u _ here
    exact ⟨_, h.turn alone within (ht.learns op w unfinished) (ht.stays op w unfinished) (keeps _ trivial) fun x busy => by
      cases here.symm.trans busy
      rfl⟩
  finish := by
    rintro ended crew w u place r ⟨lessons, h⟩ here
    obtain ⟨-, all⟩ := h.busy u _ here
    refine ⟨lessons, { h with busy := ?_, all := ?_, fresh := ?_ }⟩
    · exact fun u' x busy => h.busy u' x (Crew.Distinct.busy_but busy).2
    · exact List.forall_mem_append.2 ⟨h.all, List.forall_mem_singleton.2 all⟩
    · intro k spares
      obtain ⟨early, now⟩ := List.forall_mem_append.1 spares.ended
      refine h.fresh k ⟨fun u' x busy => ?_, early⟩
      by_cases same : u' = u
      · subst same
        cases here.symm.trans busy
        exact now _ (List.mem_singleton.2 rfl)
      · exact spares.busy u' x (by rwa [Function.update_of_ne same])
  note := by
    rintro w level message ⟨lessons, h⟩
    have unfinished : ∀ summary, SharedOp.log level message ≠ .inform listener (.finished summary) :=
      fun _ never => by cases never
    have learns := ht.learns (.log level message) w unfinished
    refine ⟨lessons, { h with learns := ?_, stays := (ht.stays (.log level message) w unfinished).trans h.stays }⟩
    exact (learns.trans (List.append_nil _)).trans h.learns

/-- Where all test cases have come to results, these are what was learned, each of them once. -/
theorem Taught.perm (h : Taught listener learned aside count start lessons ended crew w) {results : List CaseResult}
    (gathers : Gathers ended (List.range count) (.ok results)) : lessons.results.Perm results := by
  have places := Lessons.perm_flatMap (List.range count) lessons List.nodup_range fun q held =>
    List.mem_range.2 (h.inside q held)
  have each : ∀ {places : List Nat} {results : List CaseResult},
      List.Forall₂ (fun place result => (place, .ok result) ∈ ended) places results → places.flatMap lessons.of = results := by
    intro places results gathers
    induction gathers with
    | nil => rfl
    | cons here _ ih => rw [List.flatMap_cons, ih, h.all _ here _ rfl, List.singleton_append]
  rwa [each gathers] at places

/-- All test cases of a suite teach a listener their results, each of them once, or if one of them stops it, some. -/
theorem Surroundings.Teaches.runAll (ht : s.Teaches listener learned aside) (hr : plan.registry.PassesBy listener)
    (inside : listener < plan.listeners.length) (cases : List CaseDescriptor) (schedule : List Nat) (w : World ω) :
    ∃ more, learned ((s.runAll plan cases schedule).run w).2 = learned w ++ more ∧
      aside ((s.runAll plan cases schedule).run w).2 = aside w ∧
      ∀ results, ((s.runAll plan cases schedule).run w).1 = .ok results → more.Perm results := by
  have idle : ∃ lessons, Taught listener learned aside cases.length w lessons [] .idle w := by
    refine ⟨[], (List.append_nil _).symm, rfl, fun _ _ busy => (by cases busy), fun _ done => (by cases done), ?_, ?_⟩
    · exact fun _ _ => rfl
    · exact fun _ held => by cases held
  obtain ⟨ended, ⟨⟨lessons, left⟩, -⟩, gathers⟩ :=
    (ht.attends hr inside cases w).attends.runAll ⟨idle, .idle⟩ schedule
  refine ⟨lessons.results, left.learns, left.stays, fun results came => ?_⟩
  rw [came] at gathers
  exact left.perm gathers

end

end KeywordSuite
