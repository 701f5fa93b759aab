import KeywordSuite.Proofs.Host.Path
import Mathlib.Data.List.Induction

/-!
# Ways between places

A place is given by the names from the root, none of which goes back. A way first goes back as often as there are
names of the directory that the place does not share, and then down; walked from the directory it leads to the
place, and its text is read as that way again.
-/

namespace KeywordSuite

namespace FilePath

/-- Names from the root as files and directories have them. -/
def IsPlace (names : List String) : Prop :=
  ∀ name ∈ names, (name ≠ "" ∧ name ≠ "." ∧ '/' ∉ name.toList) ∧ name ≠ ".." ∧ '\x00' ∉ name.toList

variable {p : FilePath} {names place base : List String}

theorem walk_back (names : List String) : walk names ".." = names.dropLast := if_pos rfl

theorem walk_forward {name : String} (forward : name ≠ "..") (names : List String) : walk names name = names ++ [name] :=
  if_neg forward

/-- Names that do not go back are walked one after the other. -/
theorem foldl_walk_forward (start : List String) (forward : ∀ name ∈ names, name ≠ "..") :
    names.foldl walk start = start ++ names := by
  induction names generalizing start with
  | nil => simp
  | cons name names ih =>
    rw [List.forall_mem_cons] at forward
    rw [List.foldl_cons, walk_forward forward.1, ih _ forward.2, List.append_assoc, List.singleton_append]

theorem foldl_walk_back (start names : List String) : (names.map fun _ => "..").foldl walk (start ++ names) = start := by
  induction names using List.reverseRecOn with
  | nil => simp
  | append_singleton names name ih =>
    -- All steps back are alike, so the first of them leaves the last name.
    have turned : (names ++ [name]).map (fun _ => "..") = ".." :: names.map fun _ => ".." := by
      rw [List.map_append, List.map_const', List.map_singleton, ← List.replicate_succ', List.replicate_succ]
    rw [turned, List.foldl_cons, walk_back, ← List.append_assoc, List.dropLast_concat, ih]

theorem foldl_walk_relativeNames (start : List String) (forward : ∀ name ∈ place, name ≠ "..") :
    (relativeNames place base).foldl walk (start ++ base) = start ++ place := by
  induction place, base using relativeNames.induct generalizing start with
  | case1 place => rw [relativeNames, List.append_nil, foldl_walk_forward start forward]
  | case2 base more =>
    rw [relativeNames, foldl_walk_back, List.append_nil]
    exact more
  | case3 place name base ih =>
    rw [List.forall_mem_cons] at forward
    rw [relativeNames, if_pos rfl, List.append_cons, ih (start ++ [name]) forward.2, ← List.append_cons]
  | case4 name place b base apart =>
    rw [relativeNames, if_neg apart, List.foldl_append, foldl_walk_back, foldl_walk_forward start forward]

theorem relativeNames_cases {name : String} (h : name ∈ relativeNames place base) : name = ".." ∨ name ∈ place := by
  induction place, base using relativeNames.induct with
  | case1 place =>
    rw [relativeNames] at h
    exact .inr h
  | case2 base more =>
    rw [relativeNames] at h
    · obtain ⟨_, -, same⟩ := List.mem_map.1 h
      exact .inl same.symm
    · exact more
  | case3 place name base ih =>
    rw [relativeNames, if_pos rfl] at h
    exact (ih h).imp_right (List.mem_cons_of_mem _)
  | case4 name place b base apart =>
    rw [relativeNames, if_neg apart] at h
    rcases List.mem_append.1 h with back | down
    · obtain ⟨_, -, same⟩ := List.mem_map.1 back
      exact .inl same.symm
    · exact .inr down

/-! ## Places that paths lead to -/

theorem isBroken_ofText {s : String} (whole : '\x00' ∉ s.toList) : (ofText s).isBroken = false := by
  refine List.any_eq_false.2 fun name held => ?_
  obtain ⟨piece, among, rfl⟩ := List.mem_map.1 (List.mem_filter.1 held).1
  rw [toList_eq_intercalate, mem_intercalate_iff (by decide)] at whole
  simpa using fun there => whole ⟨piece, among, there⟩

theorem IsPlace.walk {name : String} (h : IsPlace names)
    (named : (name ≠ "" ∧ name ≠ "." ∧ '/' ∉ name.toList) ∧ '\x00' ∉ name.toList) : IsPlace (walk names name) := by
  by_cases back : name = ".."
  · rw [back, walk_back]
    exact fun other held => h other (List.dropLast_subset _ held)
  · rw [walk_forward back]
    intro other held
    rcases List.mem_append.1 held with old | new
    · exact h other old
    · rw [List.mem_singleton.1 new]
      exact ⟨named.1, back, named.2⟩

theorem isPlace_resolve {working : List String} (lawful : p.Lawful) (unbroken : p.isBroken = false)
    (h : IsPlace working) : IsPlace (p.resolve working) := by
  have named : ∀ name ∈ p.parts, (name ≠ "" ∧ name ≠ "." ∧ '/' ∉ name.toList) ∧ '\x00' ∉ name.toList := by
    intro name held
    refine ⟨lawful.named name held, ?_⟩
    simpa using List.any_eq_false.1 unbroken name held
  have start : IsPlace (if p.isAbsolute then [] else working) := by
    split
    · exact fun _ never => by cases never
    · exact h
  unfold resolve
  generalize (if p.isAbsolute then [] else working) = here at start ⊢
  generalize p.parts = parts at named ⊢
  induction parts generalizing here with
  | nil => exact start
  | cons name parts ih =>
    rw [List.forall_mem_cons] at named
    exact ih _ (start.walk named.1) named.2

/-! ## The text of a way -/

theorem ofText_relativeText (h : IsPlace place) : ofText (relativeText place base) = ⟨"", relativeNames place base⟩ := by
  have lawful : Lawful ⟨"", relativeNames place base⟩ := by
    refine ⟨by simp, fun name held => ?_⟩
    rcases relativeNames_cases held with rfl | down
    · decide
    · exact (h name down).1
  have text : FilePath.text ⟨"", relativeNames place base⟩ = relativeText place base := by
    simp [FilePath.text, relativeText]
  rw [← text, lawful.ofText_text]

theorem resolve_relativeText (h : IsPlace place) : (ofText (relativeText place base)).resolve base = place := by
  have forward : ∀ name ∈ place, name ≠ ".." := fun name held => (h name held).2.1
  rw [ofText_relativeText h]
  exact foldl_walk_relativeNames [] forward

theorem isBroken_relativeText (h : IsPlace place) : (ofText (relativeText place base)).isBroken = false := by
  rw [ofText_relativeText h]
  refine List.any_eq_false.2 fun name held => ?_
  rcases relativeNames_cases held with rfl | down
  · decide
  · simpa using (h name down).2.2

end FilePath

end KeywordSuite
