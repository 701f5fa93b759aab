import KeywordSuite.Json.Writer
import KeywordSuite.Proofs.Json.Reader

/-!
# What can be written as JSON text

A mapping of texts and numbers is written unless it has a number with too many digits.
-/

namespace KeywordSuite

namespace Json

/-- A number with more digits than a text may be made of. -/
def TooLong (n : Int) : Prop := integerDigitLimit < (toString n.natAbs).length

/-- A text or a number. -/
def IsField : Value → Prop
  | .text _ | .int _ => True
  | _ => False

theorem exists_write_iff {v : Value} (field : IsField v) : (∃ s, write v = .ok s) ↔ ∀ n, v = .int n → ¬ TooLong n := by
  cases v with
  | text s => exact iff_of_true ⟨_, rfl⟩ fun n same => by cases same
  | int n =>
    unfold write intText
    dsimp only
    split
    · rename_i long
      exact iff_of_false (fun ⟨s, done⟩ => by cases done) fun short => short n rfl long
    · rename_i short
      exact iff_of_true ⟨_, rfl⟩ fun m same => by cases same; exact short
  | _ => exact field.elim

theorem exists_writeMembers_iff : ∀ {es : Entries Value}, (∀ entry ∈ es, IsField entry.2) →
    ((∃ parts, writeMembers es = .ok parts) ↔ ∀ entry ∈ es, ∀ n, entry.2 = .int n → ¬ TooLong n)
  | [], _ => iff_of_true ⟨[], rfl⟩ (by simp)
  | (name, v) :: es, fields => by
    obtain ⟨own, others⟩ := List.forall_mem_cons.1 fields
    rw [List.forall_mem_cons, ← exists_write_iff own, ← exists_writeMembers_iff others, writeMembers]
    constructor
    · rintro ⟨parts, done⟩
      obtain ⟨first, here, done⟩ := ok_of_bind done
      obtain ⟨rest, there, -⟩ := ok_of_bind done
      exact ⟨⟨first, here⟩, rest, there⟩
    · rintro ⟨⟨first, here⟩, rest, there⟩
      exact ⟨_, by rw [here, there]; rfl⟩

theorem exists_write_dict_iff {es : Entries Value} (fields : ∀ entry ∈ es, IsField entry.2) :
    (∃ line, write (.dict es) = .ok line) ↔ ∀ entry ∈ es, ∀ n, entry.2 = .int n → ¬ TooLong n := by
  rw [← exists_writeMembers_iff fields, write]
  constructor
  · rintro ⟨line, done⟩
    obtain ⟨parts, here, -⟩ := ok_of_bind done
    exact ⟨parts, here⟩
  · rintro ⟨parts, here⟩
    exact ⟨_, by rw [here]; rfl⟩

end Json

end KeywordSuite
