import Mathlib.Data.List.Forall2
import KeywordSuite.Mail.Delivery
import KeywordSuite.Proofs.Report.Masking
import KeywordSuite.Proofs.Suite.Sessions

/-!
# Inserted texts and the markup around them

A text that is inserted into a page has no character that could end the markup it stands in, and is read back
from what it is written as. So the markup of a report or a mail is the one of its template, and texts have no
influence on it.
-/

namespace KeywordSuite

namespace Markup

/-! ## Entities -/

def isMarkupChar (c : Char) : Bool := c == '<' || c == '>' || c == '"' || c == '\''

/-- What stands after an ampersand that begins an entity. -/
def entities : List String := ["amp;", "lt;", "gt;", "#34;", "#39;"]

/-- A text without characters of markup, in which each ampersand begins an entity. -/
structure Inert (text : String) : Prop where
  plain : ∀ c ∈ text.toList, isMarkupChar c = false
  entity : ∀ rest, '&' :: rest <:+ text.toList → ∃ e ∈ entities, e.toList <+: rest

/-- A text with its entities read. -/
def unescapeChars : List Char → List Char
  | '&' :: 'a' :: 'm' :: 'p' :: ';' :: rest => '&' :: unescapeChars rest
  | '&' :: 'l' :: 't' :: ';' :: rest => '<' :: unescapeChars rest
  | '&' :: 'g' :: 't' :: ';' :: rest => '>' :: unescapeChars rest
  | '&' :: '#' :: '3' :: '4' :: ';' :: rest => '"' :: unescapeChars rest
  | '&' :: '#' :: '3' :: '9' :: ';' :: rest => '\'' :: unescapeChars rest
  | c :: rest => c :: unescapeChars rest
  | [] => []

def unescape (text : String) : String := String.ofList (unescapeChars text.toList)

def markupChars (text : String) : List Char := text.toList.filter isMarkupChar

theorem toList_escape (x : String) : (escape x).toList = x.toList.flatMap escapeChar := String.toList_ofList

/-- A character is written as an entity, or as itself where that means nothing. -/
theorem escapeChar_cases (c : Char) : (∃ e ∈ entities, escapeChar c = '&' :: e.toList) ∨
    escapeChar c = [c] ∧ c ≠ '&' ∧ isMarkupChar c = false := by
  unfold escapeChar
  split
  · exact .inl ⟨"amp;", by decide, rfl⟩
  · exact .inl ⟨"lt;", by decide, rfl⟩
  · exact .inl ⟨"gt;", by decide, rfl⟩
  · exact .inl ⟨"#34;", by decide, rfl⟩
  · exact .inl ⟨"#39;", by decide, rfl⟩
  · rename_i ampersand less more double single
    have plain : isMarkupChar c = false := by
      simp only [isMarkupChar, Bool.or_eq_false_iff, beq_eq_false_iff_ne]
      exact ⟨⟨⟨less, more⟩, double⟩, single⟩
    exact .inr ⟨rfl, ampersand, plain⟩

theorem entities_plain : ∀ e ∈ entities, '&' ∉ e.toList ∧ ∀ c ∈ e.toList, isMarkupChar c = false := by
  intro e known
  have plain : entities.all (fun e => e.toList.all fun c => c != '&' && !isMarkupChar c) = true := by decide
  have plain := List.all_eq_true.mp (List.all_eq_true.mp plain e known)
  simp only [Bool.and_eq_true, bne_iff_ne, Bool.not_eq_true'] at plain
  exact ⟨fun held => (plain _ held).1 rfl, fun c held => (plain c held).2⟩

theorem isMarkupChar_escapeChar (c : Char) : ∀ d ∈ escapeChar c, isMarkupChar d = false := by
  intro d held
  rcases escapeChar_cases c with ⟨e, known, written⟩ | ⟨written, -, plain⟩
  · rw [written] at held
    rcases List.mem_cons.1 held with rfl | held
    · decide
    · exact (entities_plain e known).2 d held
  · rw [written] at held
    rwa [List.mem_singleton.1 held]

theorem suffix_of_append {α : Type} {a : α} {l rest tail : List α} (apart : a ∉ l) (h : a :: rest <:+ l ++ tail) :
    a :: rest <:+ tail := by
  obtain ⟨before, whole⟩ := h
  rcases List.append_eq_append_iff.1 whole with ⟨later, inside, here⟩ | ⟨later, -, behind⟩
  · cases later with
    | nil => exact ⟨[], here⟩
    | cons b later =>
      obtain ⟨rfl, -⟩ := List.cons.inj here
      exact absurd (inside ▸ List.mem_append_right before List.mem_cons_self) apart
  · exact ⟨later, behind.symm⟩

/-- An ampersand in an escaped text is the one with which some character was written. -/
theorem entity_of_suffix {rest chars : List Char} (h : '&' :: rest <:+ chars.flatMap escapeChar) :
    ∃ e ∈ entities, e.toList <+: rest := by
  induction chars with
  | nil => cases List.suffix_nil.1 h
  | cons c chars ih =>
    rw [List.flatMap_cons] at h
    rcases escapeChar_cases c with ⟨e, known, written⟩ | ⟨written, other, -⟩
    · rw [written, List.cons_append, List.suffix_cons_iff] at h
      rcases h with here | behind
      · exact ⟨e, known, _, (List.cons.inj here).2.symm⟩
      · exact ih (suffix_of_append (entities_plain e known).1 behind)
    · rw [written] at h
      exact ih (suffix_of_append (fun held => other (List.mem_singleton.1 held).symm) h)

theorem inert_escape (x : String) : Inert (escape x) where
  plain c held := by
    rw [toList_escape] at held
    obtain ⟨source, -, held⟩ := List.mem_flatMap.1 held
    exact isMarkupChar_escapeChar source c held
  entity rest h := by
    rw [toList_escape] at h
    exact entity_of_suffix h

theorem unescapeChars_escapeChar (c : Char) (rest : List Char) :
    unescapeChars (escapeChar c ++ rest) = c :: unescapeChars rest := by
  unfold escapeChar
  split
  · rfl
  · rfl
  · rfl
  · rfl
  · rfl
  · rename_i c ampersand _ _ _ _
    rw [List.singleton_append, unescapeChars] <;> rintro _ rfl <;> exact absurd rfl ampersand

theorem unescape_escape (x : String) : unescape (escape x) = x := by
  have chars : ∀ l : List Char, unescapeChars (l.flatMap escapeChar) = l := by
    intro l
    induction l with
    | nil => rfl
    | cons c l ih => rw [List.flatMap_cons, unescapeChars_escapeChar, ih]
  rw [unescape, toList_escape, chars, String.ofList_toList]

example : escape "a<b> & 'c'" = "a&lt;b&gt; &amp; &#39;c&#39;" := by decide

end Markup

/-! ## The markup of a page -/

def Segment.markup? : Segment → Option String
  | .markup s => some s
  | .inserted _ => none

/-- Markup is taken from the given texts; what is inserted is inert and can be read back. -/
def Segment.Fits (own : List String) : Segment → Prop
  | .markup s => s ∈ own
  | .inserted x => Markup.Inert (Markup.escape x) ∧ Markup.unescape (Markup.escape x) = x

namespace Page

def Fits (own : List String) (page : Page) : Prop := ∀ segment ∈ page, segment.Fits own

/-- The markup of a page, with a hole where a text is inserted. -/
def skeleton (page : Page) : List (Option String) := page.map Segment.markup?

def markups (page : Page) : List String := page.filterMap Segment.markup?

variable {page page' : Page} {own : List String}

theorem fits_of_markups (h : page.markups ⊆ own) : page.Fits own := by
  intro segment held
  cases segment with
  | markup s => exact h (List.mem_filterMap.2 ⟨_, held, rfl⟩)
  | inserted x => exact ⟨Markup.inert_escape x, Markup.unescape_escape x⟩

/-- The characters of markup in a page are those of its own markup. -/
theorem markupChars_render (page : Page) :
    Markup.markupChars (Markup.render page) = page.skeleton.flatMap fun part => Markup.markupChars (part.getD "") := by
  unfold Markup.markupChars skeleton Markup.render
  induction page with
  | nil => rfl
  | cons segment page ih =>
    rw [List.map_cons, List.map_cons, String.join_cons, String.toList_append, List.filter_append, ih, List.flatMap_cons]
    congr 1
    cases segment with
    | markup s => rfl
    | inserted x => exact List.filter_eq_nil_iff.2 fun c held => by simp [(Markup.inert_escape x).plain c held]

theorem markupChars_congr (same : page.skeleton = page'.skeleton) :
    Markup.markupChars (Markup.render page) = Markup.markupChars (Markup.render page') := by
  rw [markupChars_render, markupChars_render, same]

theorem skeleton_markup (s : String) (page : Page) : skeleton (.markup s :: page) = some s :: page.skeleton := rfl

theorem skeleton_inserted (x : String) (page : Page) : skeleton (.inserted x :: page) = none :: page.skeleton := rfl

theorem skeleton_append : (page ++ page').skeleton = page.skeleton ++ page'.skeleton := List.map_append

theorem markups_markup (s : String) (page : Page) : markups (.markup s :: page) = s :: page.markups := rfl

theorem markups_inserted (x : String) (page : Page) : markups (.inserted x :: page) = page.markups := rfl

theorem markups_append : (page ++ page').markups = page.markups ++ page'.markups := List.filterMap_append

variable {α β : Type} {l : List α} {l' : List β} {f : α → Page} {g : β → Page}

theorem skeleton_flatMap (same : List.Forall₂ (fun a b => (f a).skeleton = (g b).skeleton) l l') :
    Page.skeleton (l.flatMap f) = Page.skeleton (l'.flatMap g) := by
  induction same with
  | nil => rfl
  | cons first _ ih => rw [List.flatMap_cons, List.flatMap_cons, skeleton_append, skeleton_append, first, ih]

theorem skeleton_flatMap_of_length (same : ∀ a b, (f a).skeleton = (g b).skeleton) (length : l.length = l'.length) :
    Page.skeleton (l.flatMap f) = Page.skeleton (l'.flatMap g) :=
  skeleton_flatMap (List.forall₂_iff_get.2 ⟨length, fun _ _ _ => same _ _⟩)

theorem skeleton_flatMap_of_map {γ : Type} {shape : α → γ} {shape' : β → γ}
    (same : ∀ a b, shape a = shape' b → (f a).skeleton = (g b).skeleton) (shapes : l.map shape = l'.map shape') :
    Page.skeleton (l.flatMap f) = Page.skeleton (l'.flatMap g) := by
  rw [← List.forall₂_eq_eq_eq, List.forall₂_map_left_iff, List.forall₂_map_right_iff] at shapes
  exact skeleton_flatMap (shapes.imp same)

theorem markups_flatMap (h : ∀ a ∈ l, (f a).markups ⊆ own) : Page.markups (l.flatMap f) ⊆ own := by
  intro s held
  obtain ⟨segment, mem, here⟩ := List.mem_filterMap.1 held
  obtain ⟨a, among, mem⟩ := List.mem_flatMap.1 mem
  exact h a among (List.mem_filterMap.2 ⟨segment, mem, here⟩)

theorem append_subset_append {l₁ l₂ l₁' l₂' : List String} (h₁ : l₁ ⊆ l₁') (h₂ : l₂ ⊆ l₂') : l₁ ++ l₂ ⊆ l₁' ++ l₂' :=
  List.append_subset.2 ⟨List.subset_append_of_subset_left _ h₁, List.subset_append_of_subset_right _ h₂⟩

end Page

/-! ## The page of a report -/

/-- What the markup for a test case depends on. -/
structure CaseShape where
  entries : Nat
  artifacts : Nat
  described : Bool
  detailed : Bool
  deriving DecidableEq

def ReportCase.shape (c : ReportCase) : CaseShape :=
  ⟨c.entries.length, c.artifacts.length, c.description != "", c.details != ""⟩

namespace HtmlPage

open Page

/-- A test case of which everything is shown that a page can show. -/
def fullCase : ReportCase := ⟨"", "", "shown", .running, "shown", [⟨"", .info, ""⟩], [⟨"", ""⟩]⟩

def fullPage : Page := page ⟨"", "", "", "", "", [("", "")]⟩ [("", fullCase)]

def ownMarkup : List String := markups fullPage

theorem skeleton_headPart (h h' : ReportHeading) : skeleton (headPart h) = skeleton (headPart h') := by
  simp only [headPart, skeleton_markup, skeleton_inserted]

theorem skeleton_metricsPart (cases cases' : ReportCases) : skeleton (metricsPart cases) = skeleton (metricsPart cases') := by
  simp only [metricsPart, metric, skeleton_append, skeleton_markup, skeleton_inserted]

theorem skeleton_environmentRow (row row' : String × String) :
    skeleton (environmentRow row) = skeleton (environmentRow row') := by
  simp only [environmentRow, skeleton_markup, skeleton_inserted]

theorem skeleton_entryRow (e e' : ReportEntry) : skeleton (entryRow e) = skeleton (entryRow e') := by
  simp only [entryRow, skeleton_markup, skeleton_inserted]

theorem skeleton_artifactPart (a a' : ReportArtifact) : skeleton (artifactPart a) = skeleton (artifactPart a') := by
  simp only [artifactPart, skeleton_markup, skeleton_inserted]

theorem skeleton_optionalPart {opening text text' : String} (same : (text != "") = (text' != "")) :
    skeleton (optionalPart opening text) = skeleton (optionalPart opening text') := by
  unfold optionalPart
  by_cases shown : text = ""
  · have shown' : text' = "" := by simpa [shown] using same.symm
    rw [if_pos shown, if_pos shown']
  · have shown' : text' ≠ "" := fun none => by simp [shown, none] at same
    rw [if_neg shown, if_neg shown']
    rfl

theorem skeleton_casePart {category category' : String} {c c' : ReportCase} (same : c.shape = c'.shape) :
    skeleton (casePart category c) = skeleton (casePart category' c') := by
  obtain ⟨entries, artifacts, described, detailed⟩ := CaseShape.mk.inj same
  simp only [casePart, skeleton_append, skeleton_markup, skeleton_inserted]
  rw [skeleton_optionalPart described, skeleton_optionalPart detailed, skeleton_flatMap_of_length skeleton_entryRow entries,
    skeleton_flatMap_of_length skeleton_artifactPart artifacts]

/-- The markup of a page depends on the shapes of its test cases, and on nothing else. -/
theorem skeleton_page {h h' : ReportHeading} {cases cases' : ReportCases}
    (rows : h.environment.length = h'.environment.length)
    (same : cases.list.map ReportCase.shape = cases'.list.map ReportCase.shape) :
    skeleton (page h cases) = skeleton (page h' cases') := by
  simp only [page, environmentPart, casesPart, skeleton_append]
  rw [skeleton_headPart h h', skeleton_metricsPart cases cases', skeleton_flatMap_of_length skeleton_environmentRow rows,
    skeleton_flatMap_of_map (g := casePart h'.category) (fun _ _ => skeleton_casePart) same]

theorem markups_optionalPart (opening text : String) :
    markups (optionalPart opening text) ⊆ markups (optionalPart opening "shown") := by
  unfold optionalPart
  split
  · exact List.nil_subset _
  · exact List.Subset.refl _

theorem markups_casePart (category : String) (c : ReportCase) :
    markups (casePart category c) ⊆ markups (casePart "" fullCase) := by
  have entries : markups (c.entries.flatMap entryRow) ⊆ markups (fullCase.entries.flatMap entryRow) :=
    markups_flatMap fun e _ => by simp only [entryRow, markups_markup, markups_inserted]; exact List.Subset.refl _
  have artifacts : markups (c.artifacts.flatMap artifactPart) ⊆ markups (fullCase.artifacts.flatMap artifactPart) :=
    markups_flatMap fun a _ => by simp only [artifactPart, markups_markup, markups_inserted]; exact List.Subset.refl _
  have same : ∀ l : List String, l ⊆ l := List.Subset.refl
  have described := markups_optionalPart "<div>" c.description
  have detailed := markups_optionalPart "<div class=\"details\">" c.details
  simp only [casePart, markups_append, markups_markup, markups_inserted]
  exact append_subset_append (append_subset_append (append_subset_append (append_subset_append (append_subset_append
    (append_subset_append (append_subset_append (append_subset_append (same _) described) (same _)) entries) (same _))
      artifacts) (same _)) detailed) (same _)

theorem markups_page (h : ReportHeading) (cases : ReportCases) : markups (page h cases) ⊆ ownMarkup := by
  have same : ∀ l : List String, l ⊆ l := List.Subset.refl
  have rows : markups (h.environment.flatMap environmentRow) ⊆ markups ([("", "")].flatMap environmentRow) :=
    markups_flatMap fun row _ => by simp only [environmentRow, markups_markup, markups_inserted]; exact same _
  have shown : markups (cases.list.flatMap (casePart h.category)) ⊆ markups ([fullCase].flatMap (casePart "")) := by
    rw [List.flatMap_singleton]
    exact markups_flatMap fun c _ => markups_casePart h.category c
  have head : markups (headPart h) ⊆ markups (headPart ⟨"", "", "", "", "", [("", "")]⟩) := by
    simp only [headPart, markups_markup, markups_inserted]
    exact same _
  have metrics : markups (metricsPart cases) ⊆ markups (metricsPart [("", fullCase)]) := by
    simp only [metricsPart, metric, markups_append, markups_markup, markups_inserted]
    exact same _
  simp only [ownMarkup, fullPage, page, environmentPart, casesPart, markups_append]
  exact append_subset_append (append_subset_append (append_subset_append (append_subset_append head metrics)
    (append_subset_append (append_subset_append (same _) rows) (same _))) (append_subset_append (same _) shown)) (same _)

end HtmlPage

/-! ## The body of a mail -/

theorem forall_of_forall₂ {α β : Type} {R : α → β → Prop} {p : α → Prop} {l : List α} {l' : List β}
    (h : List.Forall₂ R l l') (weaker : ∀ a b, R a b → p a) : ∀ a ∈ l, p a := by
  induction h with
  | nil => exact List.forall_mem_nil p
  | cons first _ ih => exact List.forall_mem_cons.2 ⟨weaker _ _ first, ih⟩

namespace MailSummary

open Page

def tableEnd : Page := [.markup "
    </table>

    "]

variable {settings settings' : Settings} {s s' : SuiteSummary} {results results' : List CaseResult} {now now' : Timestamp}
  {page page' : Page}

/-- A body is there if all durations can be shown, and has a row for each result. -/
theorem body_eq_ok_iff : body settings s results now = .ok page ↔
    ∃ seconds rows, (∃ duration, s.durationSeconds = .ok duration ∧ durationText duration = .ok seconds) ∧
      List.Forall₂ (fun r row => ∃ text, r.durationDisplay = .ok text ∧ row = resultRow settings.resultMetadataKeys r text)
        results rows ∧
      page = headPart settings s seconds now ++ resultsHead settings.resultMetadataKeys ++ rows.flatten ++ tableEnd ++
        ticketsPart (tickets results) ++ footPart := by
  unfold body
  simp only [bind_eq_ok_iff, mapM_eq_ok_iff]
  constructor
  · rintro ⟨duration, lasted, seconds, shown, rows, each, ⟨⟩⟩
    exact ⟨seconds, rows, ⟨duration, lasted, shown⟩, each.imp fun _ _ ⟨text, here, row⟩ => ⟨text, here, (Except.ok.inj row).symm⟩, rfl⟩
  · rintro ⟨seconds, rows, ⟨duration, lasted, shown⟩, each, rfl⟩
    exact ⟨duration, lasted, seconds, shown, rows, each.imp fun _ _ ⟨text, here, row⟩ => ⟨text, here, congrArg Except.ok row.symm⟩, rfl⟩

theorem exists_body_iff : (∃ page, body settings s results now = .ok page) ↔
    (∃ duration text, s.durationSeconds = .ok duration ∧ durationText duration = .ok text) ∧
      ∀ r ∈ results, ∃ text, r.durationDisplay = .ok text := by
  simp only [body_eq_ok_iff]
  constructor
  · rintro ⟨page, seconds, rows, ⟨duration, lasted⟩, each, -⟩
    exact ⟨⟨duration, seconds, lasted⟩, forall_of_forall₂ each fun r row ⟨text, shown, _⟩ => ⟨text, shown⟩⟩
  · rintro ⟨⟨duration, seconds, lasted⟩, each⟩
    choose! text shown using each
    refine ⟨_, seconds, results.map fun r => resultRow settings.resultMetadataKeys r (text r), ⟨duration, lasted⟩, ?_, rfl⟩
    rw [List.forall₂_map_right_iff, List.forall₂_same]
    exact fun r held => ⟨text r, shown r held, rfl⟩

/-- Every row of a table is the one of some result. -/
theorem exists_resultRow {keys : List String} {rows : List Page} (each : List.Forall₂ (fun r row => ∃ text,
    r.durationDisplay = .ok text ∧ row = resultRow keys r text) results rows) :
    ∀ row ∈ rows, ∃ r text, row = resultRow keys r text :=
  forall_of_forall₂ each.flip fun _ r ⟨text, _, here⟩ => ⟨r, text, here⟩

theorem skeleton_headPart (settings settings' : Settings) (s s' : SuiteSummary) (seconds seconds' : String)
    (now now' : Timestamp) : skeleton (headPart settings s seconds now) = skeleton (headPart settings' s' seconds' now') := by
  simp only [headPart, Markup.number, skeleton_markup, skeleton_inserted]

theorem skeleton_resultsHead {keys keys' : List String} (same : keys.length = keys'.length) :
    skeleton (resultsHead keys) = skeleton (resultsHead keys') := by
  simp only [resultsHead, skeleton_append]
  rw [skeleton_flatMap_of_length (g := fun key => [.markup "<th>", .inserted key, .markup "</th>"]) (fun _ _ => rfl) same]

theorem skeleton_resultRow {keys keys' : List String} (same : keys.length = keys'.length) (r r' : CaseResult)
    (duration duration' : String) : skeleton (resultRow keys r duration) = skeleton (resultRow keys' r' duration') := by
  simp only [resultRow, skeleton_append, skeleton_markup, skeleton_inserted]
  rw [skeleton_flatMap_of_length (g := fun key => [.markup "<td>", .inserted ((r'.metadata.get? key).getD "N/A"),
    .markup "</td>"]) (fun _ _ => rfl) same]

theorem skeleton_ticketRow (t t' : TicketRow) : skeleton (ticketRow t) = skeleton (ticketRow t') := by
  simp only [ticketRow, Markup.number, skeleton_markup, skeleton_inserted]

theorem skeleton_ticketsPart {rows rows' : List TicketRow} (same : rows.length = rows'.length) :
    skeleton (ticketsPart rows) = skeleton (ticketsPart rows') := by
  unfold ticketsPart
  have empty : rows.isEmpty = rows'.isEmpty := by
    rw [Bool.eq_iff_iff, List.isEmpty_iff_length_eq_zero, List.isEmpty_iff_length_eq_zero, same]
  rw [empty]
  split
  · rfl
  · simp only [skeleton_append]
    rw [skeleton_flatMap_of_length skeleton_ticketRow same]

/-- The markup of a body depends on the numbers of its results, metadata keys and tickets, and on nothing else. -/
theorem skeleton_body (read : body settings s results now = .ok page) (read' : body settings' s' results' now' = .ok page')
    (keys : settings.resultMetadataKeys.length = settings'.resultMetadataKeys.length)
    (length : results.length = results'.length) (counted : (tickets results).length = (tickets results').length) :
    page.skeleton = page'.skeleton := by
  obtain ⟨seconds, rows, -, each, rfl⟩ := body_eq_ok_iff.1 read
  obtain ⟨seconds', rows', -, each', rfl⟩ := body_eq_ok_iff.1 read'
  have table : skeleton rows.flatten = skeleton rows'.flatten := by
    rw [← List.flatMap_id, ← List.flatMap_id]
    refine skeleton_flatMap (List.forall₂_iff_get.2 ⟨by rw [← each.length_eq, ← each'.length_eq, length], ?_⟩)
    intro i inside inside'
    obtain ⟨r, text, row⟩ := exists_resultRow each _ (List.get_mem rows ⟨i, inside⟩)
    obtain ⟨r', text', row'⟩ := exists_resultRow each' _ (List.get_mem rows' ⟨i, inside'⟩)
    rw [id, id, row, row']
    exact skeleton_resultRow keys r r' text text'
  simp only [skeleton_append]
  rw [skeleton_headPart settings settings' s s' seconds seconds' now now', skeleton_resultsHead keys, table,
    skeleton_ticketsPart counted]

def fullResult : CaseResult := ⟨"", "", "", .passed, none, [], none, [], [], default, none, 0.0⟩

/-- A body in which everything is shown that a body can show. -/
def fullBody : Page := headPart default ⟨0, 0, 0, default, none, []⟩ "" default ++ resultsHead [""] ++
  resultRow [""] fullResult "" ++ tableEnd ++ ticketsPart [⟨"", 0, 0⟩] ++ footPart

def ownMarkup : List String := markups fullBody

theorem markups_resultRow (keys : List String) (r : CaseResult) (duration : String) :
    markups (resultRow keys r duration) ⊆ markups (resultRow [""] fullResult "") := by
  have same : ∀ l : List String, l ⊆ l := List.Subset.refl
  simp only [resultRow, markups_append, markups_markup, markups_inserted]
  exact append_subset_append (append_subset_append (same _) (markups_flatMap fun _ _ => same _)) (same _)

theorem markups_body (read : body settings s results now = .ok page) : page.markups ⊆ ownMarkup := by
  obtain ⟨seconds, rows, -, each, rfl⟩ := body_eq_ok_iff.1 read
  have same : ∀ l : List String, l ⊆ l := List.Subset.refl
  have begun : markups (headPart settings s seconds now) ⊆ markups (headPart default ⟨0, 0, 0, default, none, []⟩ "" default) := by
    simp only [headPart, Markup.number, markups_markup, markups_inserted]
    exact same _
  have head : markups (resultsHead settings.resultMetadataKeys) ⊆ markups (resultsHead [""]) := by
    simp only [resultsHead, markups_append]
    exact append_subset_append (append_subset_append (same _) (markups_flatMap fun _ _ => same _)) (same _)
  have table : markups rows.flatten ⊆ markups (resultRow [""] fullResult "") := by
    rw [← List.flatMap_id]
    refine markups_flatMap fun row among => ?_
    obtain ⟨r, text, rfl⟩ := exists_resultRow each row among
    exact markups_resultRow _ r text
  have listed : markups (ticketsPart (tickets results)) ⊆ markups (ticketsPart [⟨"", 0, 0⟩]) := by
    unfold ticketsPart
    split
    · exact List.nil_subset _
    · have filled : ¬ ([⟨"", 0, 0⟩] : List TicketRow).isEmpty = true := Bool.false_ne_true
      rw [if_neg filled]
      simp only [markups_append]
      refine append_subset_append (append_subset_append (same _) (markups_flatMap fun t _ => ?_)) (same _)
      simp only [ticketRow, Markup.number, markups_markup, markups_inserted]
      exact same _
  simp only [ownMarkup, fullBody, markups_append]
  exact append_subset_append (append_subset_append (append_subset_append (append_subset_append (append_subset_append
    begun head) table) (same _)) listed) (same _)

end MailSummary

open HtmlReport

/--
No text that is inserted into the page of a report or the body of a mail counts as markup. All markup of such a
document is the one of its template; each text in it is without characters of markup, an ampersand in it begins
an entity, and it can be read back. Two reports whose test cases have as many entries and artifacts, and have
descriptions and details or not, show the same markup; statuses and levels need not agree, as they are inserted
like other texts. So do two mails of as many results, metadata keys and tickets. What the file of a report
holds is its page, and a mail has a body if its durations can be shown.
-/
theorem inserted_text_forges_no_markup :
    (∀ (settings : Settings) (p : Platform) (r : HtmlReport) (now : Timestamp),
      (pageOf settings p r now).Fits HtmlPage.ownMarkup ∧
        ∀ (settings' : Settings) (p' : Platform) (r' : HtmlReport) (now' : Timestamp),
          r.cases.list.map ReportCase.shape = r'.cases.list.map ReportCase.shape →
            (pageOf settings p r now).skeleton = (pageOf settings' p' r' now').skeleton ∧
              Markup.markupChars (text settings p r now) = Markup.markupChars (text settings' p' r' now')) ∧
      (∀ (ε : Type) (settings : Settings) (p : Platform) (kept : Place ε HtmlReport) (h h' : Host ε) (file : String),
        (receive settings p kept .endSuite).run h = (.ok (some file), h') →
          ∃ path names files made, (kept.get h.outer).path = some path ∧ file = path.text ∧
            Files.locate files path = .ok names ∧ h'.files = files.put names (.file (.text (Markup.render
              (pageOf settings p (kept.get h.outer) h.localNow))) made)) ∧
      ∀ (settings : Settings) (r : MailReporter) (s : SuiteSummary) (now : Timestamp),
        ((∃ page, r.bodyFor settings s now = .ok page) ↔
          (∃ duration text, s.durationSeconds = .ok duration ∧ durationText duration = .ok text) ∧
            ∀ result ∈ r.resultsFor s, ∃ text, result.durationDisplay = .ok text) ∧
        ∀ page, r.bodyFor settings s now = .ok page → page.Fits MailSummary.ownMarkup ∧
          ∀ (settings' : Settings) (r' : MailReporter) (s' : SuiteSummary) (now' : Timestamp) (page' : Page),
            r'.bodyFor settings' s' now' = .ok page' → (r.resultsFor s).length = (r'.resultsFor s').length →
            settings.resultMetadataKeys.length = settings'.resultMetadataKeys.length →
            (MailSummary.tickets (r.resultsFor s)).length = (MailSummary.tickets (r'.resultsFor s')).length →
              page.skeleton = page'.skeleton ∧
                Markup.markupChars (Markup.render page) = Markup.markupChars (Markup.render page') := by
  refine ⟨fun settings p r now => ⟨Page.fits_of_markups (HtmlPage.markups_page _ _), ?_⟩, ?_, ?_⟩
  · intro settings' p' r' now' same
    have markup : (pageOf settings p r now).skeleton = (pageOf settings' p' r' now').skeleton := HtmlPage.skeleton_page rfl same
    exact ⟨markup, Page.markupChars_congr markup⟩
  · exact fun ε settings p kept h h' file ends => endSuite_writes settings p ends
  · refine fun settings r s now => ⟨MailSummary.exists_body_iff, fun page read => ⟨Page.fits_of_markups
      (MailSummary.markups_body read), fun settings' r' s' now' page' read' length keys counted => ?_⟩⟩
    have markup := MailSummary.skeleton_body read read' keys length counted
    exact ⟨markup, Page.markupChars_congr markup⟩

/-- A duration of nothing can be shown. -/
theorem exists_durationText_zero : ∃ text, durationText 0.0 = .ok text := by
  have value : (durationText 0.0).toOption = some "0 seconds" := by decide +kernel
  generalize durationText 0.0 = read at value
  cases read with
  | error fault => cases value
  | ok text => exact ⟨text, rfl⟩

/-- Whatever the names and the reasons of failure are, the markup is the same. -/
theorem script_forges_no_markup :
    let shown (name description : String) : HtmlReport := ⟨[("T1", ⟨"T1", name, description, .running, "", [], []⟩)], none, none⟩
    let failed (name reason : String) : MailReporter :=
      ⟨[⟨"T1", name, "", .failed, some reason, [], none, [], [], default, none, 0.0⟩], none⟩
    let s : SuiteSummary := ⟨1, 0, 1, default, none, []⟩
    Markup.markupChars (text default ⟨"", ""⟩ (shown "</h3><script>" "<!--") default) =
      Markup.markupChars (text default ⟨"", ""⟩ (shown "Login" "plain") default) ∧
    ∃ page page', (failed "</td>" "'\"&").bodyFor default s default = .ok page ∧
      (failed "Login" "").bodyFor default s default = .ok page' ∧
      Markup.markupChars (Markup.render page) = Markup.markupChars (Markup.render page') := by
  intro shown failed s
  obtain ⟨report, -, mail⟩ := inserted_text_forges_no_markup
  have bodies : ∀ name reason, ∃ page, (failed name reason).bodyFor default s default = .ok page := by
    intro name reason
    obtain ⟨text, shows⟩ := exists_durationText_zero
    refine (mail default (failed name reason) s default).1.2 ⟨⟨0.0, text, rfl, shows⟩, fun result held => ?_⟩
    obtain rfl := List.mem_singleton.1 held
    exact ⟨text, shows⟩
  obtain ⟨page, read⟩ := bodies "</td>" "'\"&"
  obtain ⟨page', read'⟩ := bodies "Login" ""
  have same : (shown "</h3><script>" "<!--").cases.list.map ReportCase.shape =
      (shown "Login" "plain").cases.list.map ReportCase.shape := by decide
  exact ⟨((report default ⟨"", ""⟩ (shown "</h3><script>" "<!--") default).2 default ⟨"", ""⟩ (shown "Login" "plain") default
    same).2, page, page', read, read', (((mail default _ s default).2 page read).2 default _ s default page' read'
      rfl rfl rfl).2⟩

end KeywordSuite
