import KeywordSuite.Log.Setup
import KeywordSuite.Proofs.Actions

/-!
# Reaching files and directories

The faults that making directories and writing files end in, and what a file that was written once
takes later: writing fails only where the place cannot be reached or is a directory, and no other
write takes a directory away.
-/

namespace KeywordSuite

/-- A fault of a name that cannot be reached or made. -/
def Fault.IsFile (fault : Fault) : Prop := ∃ (kind : FileFault) (path : FilePath), fault = kind.toFault path

namespace Files

variable {f f' : Files} {path other : FilePath} {content : FileContent} {modified : Float}

theorem lookup_setNode (names other : List String) (node : FileNode) : ∀ nodes : List (List String × FileNode),
    List.lookup other (setNode nodes names node) = if other = names then some node else List.lookup other nodes
  | [] => by
    by_cases same : other = names <;> simp [setNode, same]
  | (n, old) :: rest => by
    rw [setNode]
    by_cases first : n = names
    · subst first
      by_cases same : other = n
      · simp [same]
      · simp [same, List.lookup_cons, beq_false_of_ne same]
    · rw [if_neg first, List.lookup_cons, List.lookup_cons, lookup_setNode names other node rest]
      by_cases here : other = n
      · subst here
        simp [first]
      · simp [beq_false_of_ne here]

theorem node?_put {names : List String} (named : names ≠ []) (other : List String) (node : FileNode) :
    (f.put names node).node? other = if other = names then some node else f.node? other := by
  unfold node? put
  rw [lookup_setNode]
  by_cases same : other = names
  · simp [same, named]
  · simp [same]

theorem locate_eq (plain : '\x00' ∉ path.text.toList) (short : path.text.utf8ByteSize ≤ pathLimit) :
    f.locate path = f.descend (if path.isAbsolute then [] else f.working) path.parts := by
  unfold locate
  rw [if_neg (by rw [String.contains_char_eq]; simpa using plain), if_neg (Nat.not_lt.mpr short)]

/-- Whether a file can be written at a path. -/
def Takes (f : Files) (path : FilePath) : Prop :=
  ∃ names, f.locate path = .ok names ∧ ∀ made, f.node? names ≠ some (.directory made)

theorem descend_put {names : List String} (named : names ≠ []) (free : ∀ made, f.node? names ≠ some (.directory made)) :
    ∀ {here : List String} {rest place : List String}, f.descend here rest = .ok place →
      (f.put names (.file content modified)).descend here rest = .ok place
  | here, [], place, h => h
  | here, name :: rest, place, h => by
    unfold descend at h ⊢
    cases there : f.node? here with
    | none =>
      rw [there] at h
      cases h
    | some node =>
      have apart : here ≠ names ∨ ∃ old, ∃ at', node = .file old at' := by
        cases node with
        | file old at' => exact .inr ⟨old, at', rfl⟩
        | directory made =>
          left
          rintro rfl
          exact free made there
      rw [there] at h
      obtain apart | ⟨old, at', rfl⟩ := apart
      · rw [node?_put named, if_neg apart, there]
        cases node with
        | file => cases h
        | directory made =>
          dsimp only at h ⊢
          split at h
          · cases h
          · rename_i short
            rw [if_neg short]
            exact descend_put named free h
      · cases h

theorem locate_put {names place : List String} (named : names ≠ [])
    (free : ∀ made, f.node? names ≠ some (.directory made)) (located : f.locate path = .ok place) :
    (f.put names (.file content modified)).locate path = .ok place := by
  unfold locate at located ⊢
  split at located
  · cases located
  · rename_i whole
    rw [if_neg whole]
    split at located
    · cases located
    · rename_i short
      rw [if_neg short]
      exact descend_put named free located

theorem write_eq_ok (h : f.write path content modified = .ok f') :
    ∃ names, names ≠ [] ∧ f.locate path = .ok names ∧ (∀ made, f.node? names ≠ some (.directory made)) ∧
      f' = f.put names (.file content modified) := by
  unfold write at h
  cases located : f.locate path with
  | error fault =>
    rw [located] at h
    cases h
  | ok names =>
    rw [located] at h
    dsimp only [bind, Except.bind, pure, Except.pure] at h
    have free : ∀ made, f.node? names ≠ some (.directory made) := by
      intro made there
      rw [there] at h
      cases h
    refine ⟨names, ?_, rfl, free, ?_⟩
    · rintro rfl
      exact free 0.0 rfl
    · split at h
      · cases h
      · cases h
        rfl

theorem Takes.of_write (h : f.write path content modified = .ok f') : f.Takes path := by
  obtain ⟨names, -, located, free, -⟩ := write_eq_ok h
  exact ⟨names, located, free⟩

theorem Takes.write (h : f.Takes path) (content : FileContent) (modified : Float) :
    ∃ f', f.write path content modified = .ok f' := by
  obtain ⟨names, located, free⟩ := h
  refine ⟨f.put names (.file content modified), ?_⟩
  unfold Files.write
  rw [located]
  dsimp only [bind, Except.bind, pure, Except.pure]
  split
  · rename_i made there
    exact absurd there (free made)
  · rfl

/-- A file that was written takes more, and so do all others. -/
theorem Takes.after_write (h : f.Takes other) (writes : f.write path content modified = .ok f') : f'.Takes other := by
  obtain ⟨names, named, -, free, rfl⟩ := write_eq_ok writes
  obtain ⟨place, located, open'⟩ := h
  refine ⟨place, locate_put named free located, fun made => ?_⟩
  rw [node?_put named]
  split
  · simp
  · exact open' made

theorem find_eq_ok {node : FileNode} :
    f.find path = .ok node ↔ ∃ names, f.locate path = .ok names ∧ f.node? names = some node := by
  unfold find
  cases f.locate path with
  | error fault => simp [bind, Except.bind]
  | ok names =>
    dsimp only [bind, Except.bind]
    cases there : f.node? names <;> simp [there]

/-- At a path there is a file of a text. -/
def Holds (f : Files) (path : FilePath) (text : String) : Prop :=
  ∃ modified, f.find path = .ok (.file (.text text) modified)

theorem Holds.takes {text : String} (h : f.Holds path text) : f.Takes path := by
  obtain ⟨modified, found⟩ := h
  obtain ⟨names, located, there⟩ := find_eq_ok.1 found
  exact ⟨names, located, fun made => by rw [there]; simp⟩

theorem holds_of_write {text : String} (writes : f.write path (.text text) modified = .ok f') : f'.Holds path text := by
  obtain ⟨names, named, located, free, rfl⟩ := write_eq_ok writes
  exact ⟨modified, find_eq_ok.2 ⟨names, locate_put named free located, by rw [node?_put named, if_pos rfl]⟩⟩

theorem makePath_isFile {made : Float} {fault : Fault} (h : f.makePath made path = .error fault) : fault.IsFile := by
  unfold makePath at h
  cases ended : f.ensureDirectories made path.root path.parts.reverse with
  | ok f' =>
    rw [ended] at h
    cases h
  | error both =>
    rw [ended] at h
    cases h
    exact ⟨both.1, both.2, rfl⟩

/-- A directory that is there already is left. -/
theorem makePath_of_directory {made since : Float} (there : f.find path = .ok (.directory since)) :
    f.makePath made path = .ok f := by
  obtain ⟨names, located, node⟩ := find_eq_ok.1 there
  have taken : f.makeDirectory made path = .error .exists := by
    unfold makeDirectory
    rw [located]
    dsimp only [bind, Except.bind]
    rw [node]
  have kept : f.ensureDirectory made path = .ok f := by
    have directory : f.isDirectory path = true := by
      unfold isDirectory
      rw [there]
      rfl
    unfold ensureDirectory
    rw [taken]
    exact if_pos directory
  have whole : f.ensureDirectories made path.root path.parts.reverse = .ok f := by
    obtain ⟨root, parts⟩ := path
    cases reversed : parts.reverse with
    | nil =>
      obtain rfl := List.reverse_eq_nil_iff.1 reversed
      exact kept
    | cons name above =>
      have parts_eq : (name :: above).reverse = parts := by rw [← reversed, List.reverse_reverse]
      unfold ensureDirectories
      rw [parts_eq]
      dsimp only
      rw [taken]
      exact kept
  unfold makePath
  rw [whole]
  rfl

end Files

/-! ## The files of a host -/

namespace Host

variable {ε : Type} {path other : FilePath} {content : FileContent} {h h' : Host ε}

theorem run_onFiles (f : Files → Except Fault Files) (h : Host ε) :
    (onFiles f).run h = match f h.files with
      | .ok files => (.ok (), { h with files })
      | .error fault => (.error fault, h) := by
  unfold onFiles
  rw [Act.run_bind, Act.run_get]
  dsimp only
  rw [Act.run_bind, Act.run_ofExcept]
  cases f h.files <;> rfl

theorem raises_onFiles {P : Fault → Prop} {f : Files → Except Fault Files}
    (raises : ∀ files fault, f files = .error fault → P fault) : (onFiles (ε := ε) f).Raises P := by
  intro h fault
  rw [run_onFiles]
  cases ended : f h.files with
  | ok files => exact fun done => by cases done
  | error other =>
    intro failed
    cases failed
    exact raises _ _ ended

theorem raises_makePath (path : FilePath) : (makePath (ε := ε) path).Raises Fault.IsFile :=
  Act.raises_get.bind fun _ => raises_onFiles fun _ _ => Files.makePath_isFile

theorem run_makePath_of_directory {since : Float} (there : h.files.find path = .ok (.directory since)) :
    (makePath path).run h = (.ok (), h) := by
  unfold makePath
  rw [Act.run_bind, Act.run_get]
  dsimp only
  rw [run_onFiles, Files.makePath_of_directory there]

theorem raises_writeFile (path : FilePath) (content : FileContent) :
    (writeFile (ε := ε) path content).Raises Fault.IsFile := by
  refine Act.raises_get.bind fun h => raises_onFiles fun files fault ended => ?_
  cases written : files.write path content h.epochSeconds with
  | ok files =>
    rw [written] at ended
    cases ended
  | error kind =>
    rw [written] at ended
    cases ended
    exact ⟨kind, path, rfl⟩

theorem run_writeFile (path : FilePath) (content : FileContent) (h : Host ε) :
    (writeFile path content).run h = match h.files.write path content h.epochSeconds with
      | .ok files => (.ok (), { h with files })
      | .error fault => (.error (fault.toFault path), h) := by
  unfold writeFile
  rw [Act.run_bind, Act.run_get]
  dsimp only
  rw [run_onFiles]
  cases h.files.write path content h.epochSeconds <;> rfl

theorem takes_of_writeFile (writes : (writeFile path content).run h = (.ok (), h')) :
    h.files.Takes path ∧ ∀ other, h.files.Takes other → h'.files.Takes other := by
  rw [run_writeFile] at writes
  cases written : h.files.write path content h.epochSeconds with
  | error fault =>
    rw [written] at writes
    cases writes
  | ok files =>
    rw [written] at writes
    cases writes
    exact ⟨.of_write written, fun other takes => takes.after_write written⟩

theorem exists_writeFile (takes : h.files.Takes path) (content : FileContent) :
    ∃ h', (writeFile path content).run h = (.ok (), h') := by
  obtain ⟨files, written⟩ := takes.write content h.epochSeconds
  rw [run_writeFile, written]
  exact ⟨_, rfl⟩

end Host

/-! ## The files of a log -/

namespace LogSetup

variable {ε : Type} {h h' : Host ε}

theorem raises_appendText (path : FilePath) (text : String) : (appendText (ε := ε) path text).Raises Fault.IsFile :=
  Act.raises_get.bind fun _ => Host.raises_writeFile _ _

theorem exists_appendText {path : FilePath} (takes : h.files.Takes path) (text : String) :
    ∃ h', (appendText path text).run h = (.ok (), h') := by
  unfold appendText
  rw [Act.run_bind, Act.run_get]
  exact Host.exists_writeFile takes _

theorem run_appendText {path : FilePath} {old : String} (holds : h.files.Holds path old) (more : String) :
    ∃ files, (appendText path more).run h = (.ok (), { h with files }) ∧ files.Holds path (old ++ more) := by
  obtain ⟨files, written⟩ := holds.takes.write (.text (old ++ more)) h.epochSeconds
  obtain ⟨modified, found⟩ := holds
  refine ⟨files, ?_, Files.holds_of_write written⟩
  unfold appendText
  rw [Act.run_bind, Act.run_get]
  dsimp only
  rw [found, Host.run_writeFile, written]

theorem holds_of_appendText {path : FilePath} {more : String} (writes : (appendText path more).run h = (.ok (), h')) :
    ∃ text, h'.files.Holds path text := by
  unfold appendText at writes
  obtain ⟨_, _, got, writes⟩ := Act.exists_of_run_bind writes
  cases got
  rw [Host.run_writeFile] at writes
  split at writes
  · rename_i files written
    cases writes
    exact ⟨_, Files.holds_of_write written⟩
  · cases writes

/-- The file that a handler writes to is opened before those after it. -/
theorem openFiles_cons (handler : LogHandler) (hs : List LogHandler) :
    (∃ path, handler.target = .file path ∧
      openFiles (ε := ε) (handler :: hs) = appendText (.ofText path) "" >>= fun _ => openFiles hs) ∨
    (∀ path, handler.target ≠ .file path) ∧ openFiles (ε := ε) (handler :: hs) = openFiles hs := by
  rw [openFiles]
  cases target : handler.target with
  | file path => exact .inl ⟨path, rfl, rfl⟩
  | console => exact .inr ⟨by simp, rfl⟩
  | output => exact .inr ⟨by simp, rfl⟩

theorem raises_openFiles : ∀ hs : List LogHandler, (openFiles (ε := ε) hs).Raises Fault.IsFile
  | [] => Act.raises_pure ()
  | handler :: hs => by
    obtain ⟨path, -, opens⟩ | ⟨-, opens⟩ := openFiles_cons (ε := ε) handler hs
    · rw [opens]
      exact (raises_appendText _ _).bind fun _ => raises_openFiles hs
    · rw [opens]
      exact raises_openFiles hs

theorem takes_of_appendText {path : FilePath} {text : String} (writes : (appendText path text).run h = (.ok (), h')) :
    h.files.Takes path ∧ ∀ other, h.files.Takes other → h'.files.Takes other := by
  unfold appendText at writes
  obtain ⟨_, _, got, writes⟩ := Act.exists_of_run_bind writes
  cases got
  exact Host.takes_of_writeFile writes

/-- Files that are opened take lines from then on. -/
theorem takes_of_openFiles : ∀ {hs : List LogHandler} {h h' : Host ε}, (openFiles hs).run h = (.ok (), h') →
    (∀ other, h.files.Takes other → h'.files.Takes other) ∧
      ∀ handler ∈ hs, ∀ path, handler.target = .file path → h'.files.Takes (.ofText path)
  | [], h, h', opened => by
    cases opened
    exact ⟨fun _ takes => takes, by simp⟩
  | handler :: hs, h, h', opened => by
    obtain ⟨path, target, opens⟩ | ⟨plain, opens⟩ := openFiles_cons (ε := ε) handler hs
    · rw [opens] at opened
      obtain ⟨_, h₁, first, others⟩ := Act.exists_of_run_bind opened
      obtain ⟨later, own⟩ := takes_of_openFiles others
      obtain ⟨there, kept⟩ := takes_of_appendText first
      refine ⟨fun other takes => later other (kept other takes), List.forall_mem_cons.mpr ⟨fun place same => ?_, own⟩⟩
      rw [target] at same
      cases same
      exact later _ (kept _ there)
    · rw [opens] at opened
      obtain ⟨later, own⟩ := takes_of_openFiles opened
      exact ⟨later, List.forall_mem_cons.mpr ⟨fun place same => absurd same (plain place), own⟩⟩

theorem exists_writeLines {lines : List (LogTarget × String)}
    (takes : ∀ line ∈ lines, ∀ path, line.1 = .file path → h.files.Takes (.ofText path)) :
    ∃ others h', (writeLines lines).run h = (.ok others, h') := by
  induction lines generalizing h with
  | nil => exact ⟨[], h, rfl⟩
  | cons line lines ih =>
    obtain ⟨own, later⟩ := List.forall_mem_cons.mp takes
    obtain ⟨target, text⟩ := line
    cases target with
    | file path =>
      obtain ⟨h₁, first⟩ := exists_appendText (own path rfl) (text ++ "\n")
      obtain ⟨-, kept⟩ := takes_of_appendText first
      obtain ⟨others, h', rest⟩ := ih fun line member place same => kept _ (later line member place same)
      refine ⟨others, h', ?_⟩
      rw [writeLines, Act.run_bind, first]
      exact rest
    | console =>
      obtain ⟨others, h', rest⟩ := ih later
      refine ⟨(.console, text) :: others, h', ?_⟩
      simp only [writeLines, Act.run_bind, rest, Act.run_pure]
    | output =>
      obtain ⟨others, h', rest⟩ := ih later
      refine ⟨(.output, text) :: others, h', ?_⟩
      simp only [writeLines, Act.run_bind, rest, Act.run_pure]

theorem target_of_linesOf {now : Timestamp} {line : LogTarget × String} : ∀ {hs : List LogHandler} {r : LogRecord},
    line ∈ linesOf now hs r → ∃ handler ∈ hs, line.1 = handler.target
  | [], r, member => by cases member
  | handler :: hs, r, member => by
    have later : ∀ {r}, line ∈ linesOf now hs r → ∃ handler' ∈ handler :: hs, line.1 = handler'.target := by
      intro r member
      obtain ⟨handler', there, same⟩ := target_of_linesOf member
      exact ⟨handler', List.mem_cons_of_mem _ there, same⟩
    unfold linesOf at member
    split at member
    · obtain own | member := List.mem_append.mp member
      · split at own
        · exact ⟨handler, List.mem_cons_self, by rw [List.mem_singleton.mp own]⟩
        · cases own
      · exact later member
    · exact later member

/-- A log whose files are open takes every record. -/
theorem exists_write {setup : LogSetup} (opened : (openFiles setup.handlers).run h = (.ok (), h')) (r : LogRecord) :
    ∃ others h'', (setup.write r).run h' = (.ok others, h'') := by
  obtain ⟨-, takes⟩ := takes_of_openFiles opened
  unfold write
  rw [Act.run_bind, Act.run_get]
  refine exists_writeLines fun line member path same => ?_
  obtain ⟨handler, there, target⟩ := target_of_linesOf member
  exact takes handler there path (target ▸ same)

/-! ## A log without a file -/

theorem run_openFiles_of_plain {h : Host ε} : ∀ {hs : List LogHandler}, (∀ handler ∈ hs, ∀ path, handler.target ≠ .file path) →
    (openFiles hs).run h = (.ok (), h)
  | [], _ => rfl
  | handler :: hs, plain => by
    obtain ⟨own, others⟩ := List.forall_mem_cons.mp plain
    obtain ⟨path, target, -⟩ | ⟨-, opens⟩ := openFiles_cons (ε := ε) handler hs
    · exact absurd target (own path)
    · rw [opens]
      exact run_openFiles_of_plain others

theorem run_writeLines_of_plain {h : Host ε} : ∀ {lines : List (LogTarget × String)},
    (∀ line ∈ lines, ∀ path, line.1 ≠ .file path) → (writeLines lines).run h = (.ok lines, h)
  | [], _ => rfl
  | (target, text) :: lines, plain => by
    obtain ⟨own, others⟩ := List.forall_mem_cons.mp plain
    have rest := run_writeLines_of_plain (h := h) others
    cases target with
    | file path => exact absurd rfl (own path)
    | console => simp only [writeLines, Act.run_bind, rest, Act.run_pure]
    | output => simp only [writeLines, Act.run_bind, rest, Act.run_pure]

theorem exists_write_of_plain {setup : LogSetup} (plain : ∀ handler ∈ setup.handlers, ∀ path, handler.target ≠ .file path)
    (r : LogRecord) (h : Host ε) : ∃ others, (setup.write r).run h = (.ok others, h) := by
  unfold write
  rw [Act.run_bind, Act.run_get]
  refine ⟨_, run_writeLines_of_plain fun line member path same => ?_⟩
  obtain ⟨handler, there, target⟩ := target_of_linesOf member
  exact plain handler there path (target ▸ same)

end LogSetup

end KeywordSuite
