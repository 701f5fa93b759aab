import KeywordSuite.Mail.Summary
import KeywordSuite.Proofs.Entries
import Mathlib.Algebra.BigOperators.Group.List.Lemmas
import Mathlib.Algebra.GroupWithZero.Nat

/-!
# The tickets of a summary mail

The rows of a mail are given outright: the tickets as they first came, each with the number of results that refer
to it and the number of these that passed. What a ticket's row says therefore does not depend on the order of the
results, and the rows together count every result with a ticket once.
-/

namespace KeywordSuite

namespace MailSummary

variable {results others : List CaseResult} {ticket : String}

/-- Whether a result refers to a ticket. -/
def refersTo (ticket : String) (r : CaseResult) : Bool := ticket? r == some ticket

def rowOf (results : List CaseResult) (ticket : String) : TicketRow :=
  ⟨ticket, results.countP (refersTo ticket), results.countP fun r => refersTo ticket r && r.passed⟩

theorem ticket?_eq (r : CaseResult) : ticket? r = r.ticketRef.filter (· ≠ "") := by
  unfold ticket?
  cases r.ticketRef with
  | none => rfl
  | some ticket => by_cases empty : ticket = "" <;> simp [Option.filter, empty]

theorem tickets_eq_filter (results : List CaseResult) :
    results.filterMap ticket? = (results.filterMap (·.ticketRef)).filter (· ≠ "") := by
  rw [List.filter_filterMap]
  exact List.filterMap_congr fun r _ => ticket?_eq r

theorem refersTo_eq (nonempty : ticket ≠ "") (r : CaseResult) :
    refersTo ticket r = decide (r.ticketRef = some ticket) := by
  unfold refersTo
  rw [ticket?_eq]
  cases r.ticketRef with
  | none => rfl
  | some other => by_cases empty : other = "" <;> simp [Option.filter, empty, Ne.symm nonempty, beq_eq_decide]

/-! ## The rows as results are counted -/

theorem keys_countTicket (rows : Entries TicketRow) (r : CaseResult) :
    (countTicket rows r).keys = rows.keys ++ (ticket? r).toList.removeAll rows.keys := by
  unfold countTicket
  cases ticket? r with
  | none => simp [List.removeAll]
  | some ticket => exact Entries.keys_set_eq_append ..

theorem nodup_keys_foldl (results : List CaseResult) : (results.foldl countTicket []).keys.Nodup := by
  induction results using List.reverseRecOn with
  | nil => exact .nil
  | append_singleton results r ih =>
    rw [List.foldl_append, List.foldl_cons, List.foldl_nil, countTicket]
    split
    · exact ih
    · exact Entries.nodup_keys_set ih _ _

theorem getD_foldl (results : List CaseResult) (ticket : String) :
    ((results.foldl countTicket []).get? ticket).getD ⟨ticket, 0, 0⟩ = rowOf results ticket := by
  induction results using List.reverseRecOn with
  | nil => rfl
  | append_singleton results r ih =>
    rw [List.foldl_append, List.foldl_cons, List.foldl_nil, countTicket]
    unfold rowOf at ih ⊢
    simp only [List.countP_append, List.countP_singleton]
    cases given : ticket? r with
    | none => simpa [refersTo, given] using ih
    | some other =>
      dsimp only
      rw [Entries.get?_set]
      by_cases here : ticket = other
      · subst here
        simp [refersTo, given, ih]
      · simpa [refersTo, given, here, Ne.symm here] using ih

theorem foldl_countTicket (results : List CaseResult) : results.foldl countTicket [] =
    (results.filterMap ticket?).eraseDups.map fun ticket => (ticket, rowOf results ticket) := by
  have keys : (results.foldl countTicket []).keys = (results.filterMap ticket?).eraseDups :=
    keys_foldl_of_new Entries.keys ticket? (fun r _ rows => keys_countTicket rows r) rfl
  rw [← keys]
  refine Entries.eq_map_keys (nodup_keys_foldl results) fun ticket held => ?_
  have counted := getD_foldl results ticket
  cases found : (results.foldl countTicket []).get? ticket with
  | some row => exact congrArg some (by rw [← counted, found]; rfl)
  | none =>
    obtain ⟨entry, there, rfl⟩ := List.mem_map.1 held
    rw [Entries.get?_of_mem (nodup_keys_foldl results) there] at found
    cases found

theorem tickets_eq_rows (results : List CaseResult) :
    tickets results = (results.filterMap ticket?).eraseDups.map (rowOf results) := by
  rw [tickets, foldl_countTicket, List.map_map]
  rfl

theorem nodup_eraseDups (results : List CaseResult) : (results.filterMap ticket?).eraseDups.Nodup := by
  have distinct := nodup_keys_foldl results
  rw [foldl_countTicket, Entries.keys, List.map_map] at distinct
  exact .of_map _ distinct

/-! ## What the rows count -/

theorem countP_and_not (p q : CaseResult → Bool) (results : List CaseResult) :
    results.countP p = results.countP (fun r => p r && q r) + results.countP fun r => p r && !q r := by
  rw [List.countP_eq_countP_filter_add results p q, List.countP_filter, List.countP_filter]

theorem sum_totals (results : List CaseResult) :
    ((tickets results).map (·.total)).sum = (results.filterMap ticket?).length := by
  have totals : (tickets results).map (·.total) =
      (results.filterMap ticket?).eraseDups.map fun ticket => (results.filterMap ticket?).count ticket := by
    rw [tickets_eq_rows, List.map_map]
    refine List.map_congr_left fun ticket _ => ?_
    rw [List.count, List.countP_filterMap]
    refine List.countP_congr fun r _ => ?_
    unfold refersTo
    cases ticket? r <;> simp
  have once : (results.filterMap ticket?).eraseDups.Perm (results.filterMap ticket?).dedup :=
    (List.perm_ext_iff_of_nodup (nodup_eraseDups results) (List.nodup_dedup _)).2 fun ticket => by simp
  rw [totals, (once.map _).sum_eq, List.sum_map_count_dedup_eq_length]

theorem tickets_perm (h : results.Perm others) : (tickets results).Perm (tickets others) := by
  have rows : rowOf results = rowOf others := by
    funext ticket
    simp only [rowOf, h.countP_eq]
  have same : (results.filterMap ticket?).eraseDups.Perm (others.filterMap ticket?).eraseDups :=
    (List.perm_ext_iff_of_nodup (nodup_eraseDups results) (nodup_eraseDups others)).2 fun ticket => by
      simp only [List.mem_eraseDups, (h.filterMap ticket?).mem_iff]
  rw [tickets_eq_rows, tickets_eq_rows, rows]
  exact same.map _

theorem map_ticket (results : List CaseResult) :
    (tickets results).map (·.ticket) = (results.filterMap ticket?).eraseDups := by
  rw [tickets_eq_rows, List.map_map]
  exact List.map_id _

/-- A row belongs to a ticket some result refers to, and so it counts at least that result. -/
theorem exists_refersTo {row : TicketRow} (h : row ∈ tickets results) :
    row = rowOf results row.ticket ∧ row.ticket ≠ "" ∧ ∃ r ∈ results, refersTo row.ticket r := by
  rw [tickets_eq_rows] at h
  obtain ⟨ticket, first, rfl⟩ := List.mem_map.1 h
  have referred : ticket ∈ results.filterMap ticket? := List.mem_eraseDups.1 first
  obtain ⟨r, held, refers⟩ := List.mem_filterMap.1 referred
  rw [tickets_eq_filter] at referred
  exact ⟨rfl, of_decide_eq_true (List.mem_filter.1 referred).2, r, held, beq_iff_eq.2 refers⟩

theorem failed_rowOf (results : List CaseResult) (ticket : String) :
    (rowOf results ticket).failed = results.countP fun r => refersTo ticket r && !r.passed := by
  have parts := countP_and_not (refersTo ticket) (·.passed) results
  simp only [TicketRow.failed, rowOf]
  omega

/-- The rows are the tickets as they first came, each with its results counted, and no result is counted twice. -/
theorem tickets_count_results (results : List CaseResult) :
    (tickets results).map (·.ticket) = ((results.filterMap (·.ticketRef)).filter (· ≠ "")).eraseDups ∧
      ((tickets results).map (·.ticket)).Nodup ∧
      (∀ row ∈ tickets results, row.total = row.passed + row.failed ∧ 1 ≤ row.total ∧
        row.total = results.countP (fun r => r.ticketRef = some row.ticket) ∧
        row.passed = results.countP (fun r => r.ticketRef = some row.ticket ∧ r.passed) ∧
        row.failed = results.countP (fun r => r.ticketRef = some row.ticket ∧ ¬ r.passed)) ∧
      ((tickets results).map (·.total)).sum =
        results.countP (fun r => r.ticketRef ≠ none ∧ r.ticketRef ≠ some "") ∧
      ∀ others, results.Perm others → (tickets results).Perm (tickets others) := by
  refine ⟨by rw [map_ticket, tickets_eq_filter], map_ticket results ▸ nodup_eraseDups results, ?rows, ?sum,
    fun others => tickets_perm⟩
  case rows =>
    intro row held
    obtain ⟨counted, nonempty, r, there, refers⟩ := exists_refersTo held
    have failed := failed_rowOf results row.ticket
    have parts := countP_and_not (refersTo row.ticket) (·.passed) results
    rw [← counted] at failed
    have total : row.total = results.countP (refersTo row.ticket) := congrArg TicketRow.total counted
    have passed : row.passed = results.countP fun r => refersTo row.ticket r && r.passed :=
      congrArg TicketRow.passed counted
    refine ⟨by omega, total ▸ List.countP_pos_iff.2 ⟨r, there, refers⟩, ?_, ?_, ?_⟩
    · exact total.trans (List.countP_congr fun r _ => by rw [refersTo_eq nonempty])
    · simp only [passed, refersTo_eq nonempty, Bool.decide_and, Bool.decide_eq_true]
    · simp only [failed, refersTo_eq nonempty, Bool.decide_and, Bool.not_eq_true, Bool.decide_eq_false]
  case sum =>
    rw [sum_totals, tickets_eq_filter, ← List.countP_eq_length_filter, List.countP_filterMap]
    refine List.countP_congr fun r _ => ?_
    cases r.ticketRef <;> simp

/-- A result without a ticket, one with an empty one, and a ticket that comes back after another. -/
theorem tickets_count_results_mixed :
    let result (ticket : Option String) (status : CaseStatus) : CaseResult :=
      ⟨"", "", "", status, none, [], ticket, [], [], default, none, 0.0⟩
    let results := [result (some "QA-2") .failed, result none .passed, result (some "QA-1") .passed,
      result (some "") .failed, result (some "QA-2") .passed]
    ⟨"QA-2", 2, 1⟩ ∈ tickets results ∧ results.countP (fun r => r.ticketRef = some "QA-2") = 2 ∧
      (tickets results).Perm (tickets results.reverse) := by
  intro result results
  obtain ⟨_, _, rows, _, reordered⟩ := tickets_count_results results
  have there : ⟨"QA-2", 2, 1⟩ ∈ tickets results := by decide
  obtain ⟨_, _, total, _⟩ := rows _ there
  exact ⟨there, total.symm, reordered _ (List.reverse_perm results).symm⟩

end MailSummary

end KeywordSuite
