import KeywordSuite.Host.Path

/-!
# Paths and their texts

A path that was read from a text, or put together of such paths, is read back from its own text.
-/

namespace KeywordSuite

theorem mem_intercalate_iff {c : Char} {sep : List Char} (other : c ∉ sep) :
    ∀ pieces : List (List Char), c ∈ sep.intercalate pieces ↔ ∃ piece ∈ pieces, c ∈ piece
  | [] => by simp [List.intercalate]
  | [piece] => by simp [List.intercalate]
  | piece :: next :: rest => by
    have ih := mem_intercalate_iff other (next :: rest)
    have first : sep.intercalate (piece :: next :: rest) = piece ++ (sep ++ sep.intercalate (next :: rest)) := rfl
    rw [first, List.mem_append, List.mem_append, ih]
    simp [other]

namespace FilePath

/-- A root and names as reading a text finds them. -/
structure Lawful (p : FilePath) : Prop where
  root : p.root ∈ ["", "/", "//"]
  named : ∀ name ∈ p.parts, name ≠ "" ∧ name ≠ "." ∧ '/' ∉ name.toList

theorem not_mem_of_mem_splitOn {c : Char} : ∀ {cs : List Char}, ∀ piece ∈ cs.splitOn c, c ∉ piece
  | [], piece, held => by
    rw [List.splitOn_nil, List.mem_singleton] at held
    simp [held]
  | d :: cs, piece, held => by
    rw [List.splitOn_cons_eq_if_modifyHead] at held
    split at held
    · rcases List.mem_cons.1 held with rfl | later
      · simp
      · exact not_mem_of_mem_splitOn piece later
    · rename_i other
      obtain ⟨first, rest, split⟩ := List.exists_cons_of_ne_nil (List.splitOn_ne_nil c cs)
      have apart : ∀ piece ∈ cs.splitOn c, c ∉ piece := not_mem_of_mem_splitOn
      rw [split] at held apart
      rcases List.mem_cons.1 held with rfl | later
      · have differ : c ≠ d := fun same => other (by simp [same])
        simp [differ, apart first List.mem_cons_self]
      · exact apart piece (List.mem_cons_of_mem _ later)

theorem lawful_ofText (s : String) : (ofText s).Lawful where
  root := by
    unfold ofText rootOf
    dsimp only
    split <;> simp
  named := by
    intro name held
    obtain ⟨split, kept⟩ := List.mem_filter.1 held
    obtain ⟨piece, among, rfl⟩ := List.mem_map.1 split
    simp only [ne_eq, decide_not, Bool.and_eq_true, Bool.not_eq_true', decide_eq_false_iff_not] at kept
    exact ⟨kept.1, kept.2, by simpa using not_mem_of_mem_splitOn piece among⟩

theorem toList_eq_intercalate (s : String) : s.toList = ['/'].intercalate (s.toList.splitOn '/') :=
  (List.intercalate_splitOn '/').symm

theorem exists_name_of_mem {c : Char} {s : String} (other : c ∉ ['/', '.']) (h : c ∈ s.toList) :
    ∃ name ∈ (ofText s).parts, c ∈ name.toList := by
  rw [toList_eq_intercalate, mem_intercalate_iff fun member => other (by simp [List.mem_singleton.mp member])] at h
  obtain ⟨piece, member, holds⟩ := h
  have named : c ∈ (String.ofList piece).toList := by simpa using holds
  refine ⟨String.ofList piece, List.mem_filter.mpr ⟨List.mem_map_of_mem member, ?_⟩, named⟩
  have some : String.ofList piece ≠ "" := by
    intro empty
    rw [empty] at named
    cases named
  have more : String.ofList piece ≠ "." := by
    intro dot
    rw [dot] at named
    have same : c ∈ ['.'] := named
    exact other (by simp [List.mem_singleton.mp same])
  simp [some, more]

theorem Lawful.join {p q : FilePath} (hp : p.Lawful) (hq : q.Lawful) : (p.join q).Lawful := by
  unfold FilePath.join
  split
  · exact hq
  · exact ⟨hp.root, fun name held => (List.mem_append.1 held).elim (hp.named name) (hq.named name)⟩

/-! ## Reading a path back -/

theorem splitNames_slash (cs : List Char) : splitNames ('/' :: cs) = splitNames cs := by
  unfold splitNames
  rw [show '/' :: cs = [] ++ '/' :: cs from rfl, List.splitOn_append_cons_self, List.splitOn_nil]
  rfl

theorem splitNames_intercalate {names : List String}
    (named : ∀ name ∈ names, name ≠ "" ∧ name ≠ "." ∧ '/' ∉ name.toList) :
    splitNames ("/".intercalate names).toList = names := by
  cases names with
  | nil => decide +kernel
  | cons first rest =>
    unfold splitNames
    rw [String.toList_intercalate]
    change ((((['/'].intercalate ((first :: rest).map String.toList)).splitOn '/').map String.ofList).filter _) = _
    rw [List.splitOn_intercalate '/' (by simpa using fun name held => (named name held).2.2) (by simp), List.map_map]
    have same : (first :: rest).map (String.ofList ∘ String.toList) = first :: rest := by simp
    rw [same, List.filter_eq_self]
    intro name held
    simp [named name held]

theorem rootOf_names {root : String} (known : root ∈ ["", "/", "//"]) {c : Char} (other : c ≠ '/') (cs : List Char) :
    rootOf (root.toList ++ c :: cs) = root := by
  simp only [List.mem_cons, List.not_mem_nil, or_false] at known
  rcases known with rfl | rfl | rfl <;> simp [rootOf, other]

theorem Lawful.ofText_text {p : FilePath} (lawful : p.Lawful) : ofText p.text = p := by
  obtain ⟨known, named⟩ := lawful
  obtain ⟨root, parts⟩ := p
  dsimp only at known named
  cases parts with
  | nil =>
    simp only [List.mem_cons, List.not_mem_nil, or_false] at known
    rcases known with rfl | rfl | rfl <;> decide +kernel
  | cons first rest =>
    obtain ⟨c, cs, starts⟩ : ∃ c cs, ("/".intercalate (first :: rest)).toList = c :: cs ∧ c ≠ '/' := by
      obtain ⟨some, -, free⟩ := named first List.mem_cons_self
      obtain ⟨c, cs, letters⟩ := List.exists_cons_of_ne_nil (fun none => some (String.toList_eq_nil_iff.1 none))
      obtain ⟨others, begins⟩ : ∃ others, ("/".intercalate (first :: rest)).toList = first.toList ++ others := by
        rw [String.toList_intercalate]
        cases rest with
        | nil => exact ⟨[], by simp [List.intercalate]⟩
        | cons next rest => exact ⟨_, rfl⟩
      refine ⟨c, cs ++ others, by rw [begins, letters]; rfl, ?_⟩
      rintro rfl
      exact free (by simp [letters])
    have whole : (FilePath.text ⟨root, first :: rest⟩).toList = root.toList ++ c :: cs := by
      simp [FilePath.text, starts.1]
    have slashes : splitNames (root.toList ++ c :: cs) = splitNames (c :: cs) := by
      simp only [List.mem_cons, List.not_mem_nil, or_false] at known
      rcases known with rfl | rfl | rfl
      · rfl
      · exact splitNames_slash _
      · exact (splitNames_slash _).trans (splitNames_slash _)
    rw [ofText, whole, rootOf_names known starts.2, slashes, ← starts.1, splitNames_intercalate named]

end FilePath

end KeywordSuite
