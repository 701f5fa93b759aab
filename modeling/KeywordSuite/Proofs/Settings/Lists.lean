import KeywordSuite.Proofs.Settings.Rereading
import KeywordSuite.Proofs.Settings.Sources

/-!
# Settings that are lists

A list setting may be written with commas, and with any blanks and empty items between them. It is then read as
its items, and the recipients that come out of any reading are read again as they are.
-/

namespace KeywordSuite

namespace Settings

/-! ## Texts with commas -/

/-- A text of items with commas between them, where any blanks stand around an item, and alone for no item. -/
inductive Lists : List Char → List String → Prop
  | blank {blanks : List Char} : (∀ c ∈ blanks, Text.isBlank c) → Lists blanks []
  | item {before after : List Char} (name : String) : (∀ c ∈ before, Text.isBlank c) → (∀ c ∈ after, Text.isBlank c) →
      Lists (before ++ name.toList ++ after) [name]
  | comma {left right : List Char} {items others : List String} : Lists left items → Lists right others →
      Lists (left ++ ',' :: right) (items ++ others)

/-- An item that is found again between commas. -/
structure Plain (item : String) : Prop where
  nonempty : item ≠ ""
  stripped : Text.strip item = item
  whole : ',' ∉ item.toList

variable {cs : List Char} {items : List String} {data : Entries Value} {s : Settings} {v : Value}

theorem not_blank_comma {blanks : List Char} (blank : ∀ c ∈ blanks, Text.isBlank c) : ',' ∉ blanks := fun held =>
  absurd (blank ',' held) (by decide)

theorem splitItems_comma (left right : List Char) :
    splitItems (left ++ ',' :: right) = splitItems left ++ splitItems right := by
  unfold splitItems
  rw [List.splitOn_append_cons_self, List.map_append, List.filter_append]

theorem splitItems_single (one : ',' ∉ cs) :
    splitItems cs = [String.ofList (Text.stripChars cs)].filter (· ≠ "") := by
  unfold splitItems
  rw [List.splitOn_eq_singleton one, List.map_singleton]

theorem splitItems_append_left {blanks : List Char} (blank : ∀ c ∈ blanks, Text.isBlank c) (cs : List Char) :
    splitItems (blanks ++ cs) = splitItems cs := by
  have none := not_blank_comma blank
  have single (cs : List Char) (one : ',' ∉ cs) : splitItems (blanks ++ cs) = splitItems cs := by
    rw [splitItems_single (by simp [none, one]), splitItems_single one, Text.stripChars,
      Text.trimEnds_append_left blank, Text.stripChars]
  by_cases one : ',' ∈ cs
  · obtain ⟨first, rest, rfl, alone⟩ := List.eq_append_cons_of_mem one
    rw [← List.append_assoc, splitItems_comma, splitItems_comma, single first alone]
  · exact single cs one

theorem splitItems_append_right {blanks : List Char} (blank : ∀ c ∈ blanks, Text.isBlank c) (cs : List Char) :
    splitItems (cs ++ blanks) = splitItems cs := by
  have none := not_blank_comma blank
  by_cases one : ',' ∈ cs
  · obtain ⟨first, rest, rfl, alone⟩ := List.eq_append_cons_of_mem one
    rw [List.append_assoc, List.cons_append, splitItems_comma, splitItems_comma, splitItems_append_right blank rest]
  · rw [splitItems_single (by simp [none, one]), splitItems_single one, Text.stripChars,
      Text.trimEnds_append_right blank, Text.stripChars]
termination_by cs.length
decreasing_by
  simp_all
  omega

theorem splitItems_stripChars (cs : List Char) : splitItems (Text.stripChars cs) = splitItems cs := by
  obtain ⟨before, after, whole, left, right⟩ := Text.exists_eq_trimEnds (p := Text.isBlank) cs
  conv_rhs => rw [whole, splitItems_append_right right, splitItems_append_left left]
  rfl

theorem Lists.splitItems_eq (lists : Lists cs items) (plain : ∀ item ∈ items, Plain item) : splitItems cs = items := by
  induction lists with
  | blank blank =>
    rw [splitItems_single (not_blank_comma blank), Text.stripChars, Text.trimEnds_eq_nil_iff.2 blank]
    rfl
  | item name left right =>
    obtain ⟨nonempty, stripped, whole⟩ := plain name List.mem_cons_self
    rw [splitItems_append_right right, splitItems_append_left left, splitItems_single whole]
    change [Text.strip name].filter _ = _
    simp [stripped, nonempty]
  | comma _ _ first second =>
    obtain ⟨left, right⟩ := List.forall_mem_append.1 plain
    rw [splitItems_comma, first left, second right]

theorem Plain.head?_dropWhile {item : String} (plain : Plain item) :
    (item.toList.dropWhile Text.isBlank).head? = item.toList.head? := by
  have whole : Text.trimEnds Text.isBlank item.toList = item.toList := by
    rw [← String.ofList_inj, String.ofList_toList]
    exact plain.stripped
  rw [← Text.head?_trimEnds, whole]

/-- The first character that is not blank is a comma or the first of the first item. -/
theorem Lists.head?_ne (lists : Lists cs items) (plain : ∀ item ∈ items, Plain item)
    (bare : ∀ item ∈ items.head?, item.toList.head? ≠ some '[') :
    (cs.dropWhile Text.isBlank).head? ≠ some '[' := by
  induction lists with
  | blank blank => simp [List.dropWhile_eq_nil_iff.2 blank]
  | item name left right =>
    have named := plain name List.mem_cons_self
    rw [List.append_assoc, List.dropWhile_append_of_pos left, List.dropWhile_append, if_neg, List.head?_append,
      named.head?_dropWhile]
    · have starts := bare name rfl
      cases first : name.toList.head? with
      | none => exact absurd (String.toList_inj.1 (List.head?_eq_none_iff.1 first)) named.nonempty
      | some c => simpa [first] using starts
    · rw [List.isEmpty_iff, ← List.head?_eq_none_iff, named.head?_dropWhile, List.head?_eq_none_iff]
      exact fun empty => named.nonempty (String.toList_inj.1 empty)
  | @comma left right items others _ _ first _ =>
    have start := first (List.forall_mem_append.1 plain).1 fun item held => bare item (by simp [Option.mem_def.1 held])
    rw [List.dropWhile_append]
    split
    · rw [List.dropWhile_cons_of_neg (by decide)]
      simp
    · rename_i some
      cases drop : left.dropWhile Text.isBlank with
      | nil => exact absurd (by rw [drop]; rfl) some
      | cons c rest => simpa [drop] using start

theorem Lists.readList_eq (lists : Lists cs items) (plain : ∀ item ∈ items, Plain item)
    (bare : ∀ item ∈ items.head?, item.toList.head? ≠ some '[') :
    readList (.text (String.ofList cs)) = .valid items := by
  have unbracketed : (Text.stripChars cs).head? ≠ some '[' := by
    rw [Text.stripChars, Text.head?_trimEnds]
    exact lists.head?_ne plain bare
  unfold readList listValue
  dsimp only
  rw [String.toList_ofList, if_neg unbracketed, splitItems_stripChars, lists.splitItems_eq plain]
  exact Read.list_texts items

/-! ## Readings that differ in a list -/

theorem field_congr {α : Type} {others : Entries Value} {name : String} {default : Option α} {reads : Value → Checked α}
    (same : others.get? name = data.get? name) : field others name default reads = field data name default reads := by
  unfold field
  rw [same]

/-- Where nothing but the two lists is given otherwise, all other fields are read as they were. -/
theorem read_of_agree {others : Entries Value} (h : read data = .valid s)
    (agree : ∀ name, name ≠ "result_metadata_keys" → name ≠ "email_recipients" → others.get? name = data.get? name) :
    read others = (fun keys recipients => { s with resultMetadataKeys := keys, emailRecipients := recipients })
      <$> field others "result_metadata_keys" (some ["TECS_ID"]) readList
      <*> (field others "email_recipients" (some []) readList).map normalRecipients := by
  have same {α : Type} {name : String} {default : Option α} {reads : Value → Checked α}
      (first : name ≠ "result_metadata_keys") (second : name ≠ "email_recipients") :
      field others name default reads = field data name default reads := field_congr (agree name first second)
  unfold read at h
  iterate 32
    replace h := Checked.seq_eq_valid.1 h
    obtain ⟨_, _, h, _, rfl⟩ := h
  obtain ⟨_, _, rfl⟩ := Checked.map_eq_valid.1 h
  simp only [read, ne_eq, String.reduceEq, not_false_eq_true, *]
  cases field others "result_metadata_keys" (some ["TECS_ID"]) readList <;>
    cases field others "email_recipients" (some []) readList <;> rfl

theorem lists_of_read (h : read data = .valid s) :
    field data "result_metadata_keys" (some ["TECS_ID"]) readList = .valid s.resultMetadataKeys ∧
      (field data "email_recipients" (some []) readList).map normalRecipients = .valid s.emailRecipients := by
  obtain ⟨_, recipients, partly, second, same⟩ :=
    Checked.seq_eq_valid.1 ((read_of_agree h fun _ _ _ => rfl).symm.trans h)
  obtain ⟨keys, first, rfl⟩ := Checked.map_eq_valid.1 partly
  have keys_eq : keys = s.resultMetadataKeys := congrArg resultMetadataKeys same
  have recipients_eq : recipients = s.emailRecipients := congrArg emailRecipients same
  exact ⟨keys_eq ▸ first, recipients_eq ▸ second⟩

theorem read_set_keys (h : read data = .valid s) (reads : readList v = .valid items) :
    read (data.set "result_metadata_keys" v) = .valid { s with resultMetadataKeys := items } := by
  have apart : "email_recipients" ≠ "result_metadata_keys" := by decide
  have recipients := (lists_of_read h).2
  rw [← field_congr (Entries.get?_set_of_ne apart data v)] at recipients
  rw [read_of_agree h fun _ other _ => Entries.get?_set_of_ne other data v, recipients,
    field_of_get? (Entries.get?_set_self data _ v) reads]
  rfl

theorem read_set_recipients (h : read data = .valid s) (reads : readList v = .valid items) :
    read (data.set "email_recipients" v) = .valid { s with emailRecipients := normalRecipients items } := by
  have apart : "result_metadata_keys" ≠ "email_recipients" := by decide
  have keys := (lists_of_read h).1
  rw [← field_congr (Entries.get?_set_of_ne apart data v)] at keys
  rw [read_of_agree h fun _ _ other => Entries.get?_set_of_ne other data v, keys,
    field_of_get? (Entries.get?_set_self data _ v) reads]
  rfl

theorem normalRecipients_of_plain (plain : ∀ item ∈ items, Plain item) : normalRecipients items = items := by
  have still : items.map Text.strip = items :=
    (List.map_congr_left fun item held => (plain item held).stripped).trans (List.map_id _)
  rw [normalRecipients, still, List.filter_eq_self]
  exact fun item held => by simpa using (plain item held).nonempty

theorem stripped_of_normal {recipients : List String} (normal : normalRecipients recipients = recipients)
    {r : String} (held : r ∈ recipients) : Text.isBlankText r = false ∧ Text.strip r = r := by
  rw [← normal] at held
  obtain ⟨among, nonempty⟩ := List.mem_filter.1 held
  obtain ⟨given, -, rfl⟩ := List.mem_map.1 among
  refine ⟨?_, Text.strip_strip given⟩
  rw [Bool.eq_false_iff, ne_eq, ← Text.strip_eq_empty_iff, Text.strip_strip]
  exact of_decide_eq_true nonempty

/-! ## Lists from any source -/

variable {given : Entries Value} {environment : Entries String} {file : Option String}

/-- A text for a field gives these settings, whether it is given last or is in the environment. -/
def TextGives (given : Entries Value) (environment : Entries String) (file : Option String) (name text : String)
    (s : Settings) : Prop :=
  load (given ++ [(name, .text text)]) environment file = .ok s ∧
    (file = none → (∀ b ∈ given, Text.lower b.1 ≠ name) →
      load given (environment ++ [(variableName name, text)]) none = .ok s)

theorem textGives {name text : String} {s' : Settings} (h : load given environment file = .ok s)
    (known : name ∈ fieldNames) (plain : name ∉ jsonFields) (small : Text.lower name = name)
    (called : Text.lower (variableName name) = environmentPrefix ++ name)
    (reads : ∀ data, read data = .valid s → read (data.set name (.text text)) = .valid s') :
    TextGives given environment file name text s' := by
  obtain ⟨outer, inner, ofEnvironment, ofFile, before⟩ := load_eq_ok.1 h
  refine ⟨(load_given_eq_ok small (mergeValue_text text)).2 ⟨outer, inner, ofEnvironment, ofFile, reads _ before⟩, ?_⟩
  rintro rfl absent
  cases ofFile
  exact load_variable_eq_ok known plain called absent ofEnvironment (reads _ before)

theorem keys_of_load (text : String) (reads : readList (.text text) = .valid items)
    (h : load (given ++ [("result_metadata_keys", .text text)]) environment file = .ok s) :
    s.resultMetadataKeys = items := by
  obtain ⟨outer, inner, -, -, after⟩ := (load_given_eq_ok (by decide +kernel) (mergeValue_text text)).1 h
  have found := (lists_of_read after).1
  rw [field_of_get? (Entries.get?_set_self _ _ _) reads] at found
  exact (Checked.valid.inj found).symm

theorem recipients_of_load (text : String) (reads : readList (.text text) = .valid items)
    (h : load (given ++ [("email_recipients", .text text)]) environment file = .ok s) :
    s.emailRecipients = normalRecipients items := by
  obtain ⟨outer, inner, -, -, after⟩ := (load_given_eq_ok (by decide +kernel) (mergeValue_text text)).1 h
  have found := (lists_of_read after).2
  rw [field_of_get? (Entries.get?_set_self _ _ _) reads] at found
  exact (Checked.valid.inj found).symm

/--
A text with commas is read as its items, whatever blanks and empty items stand between them; recipients have no
blanks around them, and given again they stay as they are.
-/
theorem list_settings_are_lossless (given : Entries Value) (environment : Entries String) (file : Option String)
    (s : Settings) :
    (∀ text items, Lists text.toList items → (∀ item ∈ items, Plain item) →
      (∀ item ∈ items.head?, item.toList.head? ≠ some '[') →
        (load (given ++ [("result_metadata_keys", .text text)]) environment file = .ok s →
          s.resultMetadataKeys = items) ∧
        (load (given ++ [("email_recipients", .text text)]) environment file = .ok s → s.emailRecipients = items) ∧
        (load given environment file = .ok s →
          TextGives given environment file "result_metadata_keys" text { s with resultMetadataKeys := items } ∧
          TextGives given environment file "email_recipients" text { s with emailRecipients := items })) ∧
      (load given environment file = .ok s →
        (∀ r ∈ s.emailRecipients, Text.isBlankText r = false ∧ Text.strip r = r) ∧
        load (given ++ [("email_recipients", .list (s.emailRecipients.map .text))]) environment file = .ok s) := by
  refine ⟨fun text items lists plain bare => ?texts, fun h => ⟨fun r held => ?trimmed, ?again⟩⟩
  case texts =>
    have reads : readList (.text text) = .valid items := by
      have := lists.readList_eq plain bare
      rwa [String.ofList_toList] at this
    refine ⟨keys_of_load text reads, fun h => ?_, fun h => ⟨?_, ?_⟩⟩
    · exact (recipients_of_load text reads h).trans (normalRecipients_of_plain plain)
    · refine textGives h (by decide +kernel) (by decide) (by decide +kernel) (by decide +kernel) fun data before => ?_
      exact read_set_keys before reads
    · refine textGives h (by decide +kernel) (by decide) (by decide +kernel) (by decide +kernel) fun data before => ?_
      rw [read_set_recipients before reads, normalRecipients_of_plain plain]
  case trimmed =>
    obtain ⟨outer, inner, -, -, reads⟩ := load_eq_ok.1 h
    exact stripped_of_normal (sound_of_read reads).1.recipients held
  case again =>
    have reads : readList (.list (s.emailRecipients.map .text)) = .valid s.emailRecipients := Read.list_texts _
    obtain ⟨outer, inner, ofEnvironment, ofFile, before⟩ := load_eq_ok.1 h
    refine (load_given_eq_ok (by decide +kernel) (mergeValue_list _)).2 ⟨outer, inner, ofEnvironment, ofFile, ?_⟩
    rw [read_set_recipients before reads, (sound_of_read before).1.recipients]

/-- Recipients in JSON text, and two in a text with an ideographic space and empty items. -/
theorem list_settings_are_lossless_padded :
    let given : Entries Value := [("email_recipients", .text "[\"\", \" qa@x \"]")]
    let text := " a@x ,,\u3000b@y\n, "
    ∃ s, load given [] none = .ok s ∧ s.emailRecipients = ["qa@x"] ∧ (∀ r ∈ s.emailRecipients, Text.strip r = r) ∧
      load (given ++ [("email_recipients", .text text)]) [] none = .ok { s with emailRecipients := ["a@x", "b@y"] } ∧
      load (given ++ [("email_recipients", .list [.text "qa@x"])]) [] none = .ok s := by
  intro given text
  have shown : (load given [] none).toOption.map (·.emailRecipients) = some ["qa@x"] := by decide +kernel
  obtain ⟨s, loads, recipients⟩ := Option.map_eq_some_iff.1 shown
  replace loads : load given [] none = .ok s := by
    cases outcome : load given [] none with
    | error fault =>
      rw [outcome] at loads
      cases loads
    | ok s' =>
      rw [outcome] at loads
      exact congrArg Except.ok (Option.some.inj loads)
  obtain ⟨texts, normal⟩ := list_settings_are_lossless given [] none s
  have lists : Lists text.toList ["a@x", "b@y"] := by
    have whole : text.toList = ([' '] ++ "a@x".toList ++ [' ']) ++ ',' :: ([] ++ ',' ::
        ((['\u3000'] ++ "b@y".toList ++ ['\n']) ++ ',' :: [' '])) := by decide +kernel
    have one (c : Char) (blank : Text.isBlank c = true) : ∀ d ∈ [c], Text.isBlank d := by simpa using blank
    rw [whole]
    exact .comma (.item _ (one ' ' (by decide)) (one ' ' (by decide))) (.comma (.blank (by simp))
      (.comma (.item _ (one '\u3000' (by decide)) (one '\n' (by decide))) (.blank (one ' ' (by decide)))))
  have plain : ∀ item ∈ ["a@x", "b@y"], Plain item := by
    intro item held
    simp only [List.mem_cons, List.not_mem_nil, or_false] at held
    rcases held with rfl | rfl <;> exact ⟨by decide, by decide +kernel, by decide⟩
  obtain ⟨-, -, gives⟩ := texts text ["a@x", "b@y"] lists plain (by decide)
  obtain ⟨trimmed, again⟩ := normal loads
  rw [recipients] at again
  exact ⟨s, loads, recipients, fun r held => (trimmed r held).2, (gives loads).2.1, again⟩

end Settings

end KeywordSuite
