import Chatdown.Program
import Chatdown.Proofs.Arguments.Pretty
import Chatdown.Proofs.ConvertedMessages

/-! # How a run ends

A run ends in one of four ways, and which of them it is follows from the arguments, the files and
standard input. Arguments may be rejected or ask for a text. If they are accepted, five things are
required in a fixed order, and the first that fails is reported with nothing written; if none fails,
the message is written. `Ends` says this with no mention of how the program goes about it.
-/

namespace Chatdown.Program

/-- What is required of a run before it writes a message. -/
inductive Stage where
  | inputExists
  | managersExist
  | inputReadable
  | managersReadable
  | managersValid
  deriving DecidableEq, Repr

namespace Stage

def all : List Stage := [inputExists, managersExist, inputReadable, managersReadable, managersValid]

def before (s : Stage) : List Stage := all.takeWhile (· ≠ s)

/-- What is said of a stage that fails. -/
def complaint : Stage → Text
  | inputExists => "Input file does not exist: ".toList
  | managersExist => "Manager list does not exist: ".toList
  | inputReadable => "Failed to read markdown file: ".toList
  | managersReadable => "Failed to read manager list: ".toList
  | managersValid => "Invalid manager list: ".toList

/-- How the report of a failure at a stage begins. -/
def heading (s : Stage) : Text := "Error: ".toList ++ s.complaint

private theorem mem_before_or {s t : Stage} (different : s ≠ t) : s ∈ t.before ∨ t ∈ s.before := by
  cases s <;> cases t <;> first | exact absurd rfl different | decide

private theorem eq_of_complaint_isPrefix {s t : Stage} (starts : s.complaint <+: t.complaint) :
    s = t := by
  revert starts
  cases s <;> cases t <;> decide

/-- A text begins like the reports of one stage at most. -/
theorem eq_of_heading_isPrefix {s t : Stage} {report : Text} (first : s.heading <+: report)
    (second : t.heading <+: report) : s = t := by
  rcases List.prefix_or_prefix_of_prefix first second with starts | starts
  · exact eq_of_complaint_isPrefix ((List.prefix_append_right_inj _).mp starts)
  · exact (eq_of_complaint_isPrefix ((List.prefix_append_right_inj _).mp starts)).symm

end Stage

section

variable (read : FileReader) (standardInput : List UInt8) (o : Options)

/-- What goes wrong at each stage, whatever happens at the others. -/
inductive Fails : Stage → Failure → Prop where
  | inputExists (named : o.readsStandardInput = false) (absent : read.finds o.input = false) :
      Fails .inputExists (.missingInput o.input)
  | managersExist {path : Text} (given : o.managers = some path)
      (absent : read.finds path = false) : Fails .managersExist (.missingManagers path)
  | inputReadable {e : FileError} (named : o.readsStandardInput = false)
      (unreadable : read o.input = .error e) :
      Fails .inputReadable (.unreadableInput o.input e)
  | managersReadable {path : Text} {e : TextFileError} (given : o.managers = some path)
      (unreadable : readText read path = .error e) :
      Fails .managersReadable (.managers (.unreadable path e))
  | managersValid {path t : Text} {e : Json.Error} (given : o.managers = some path)
      (readable : readText read path = .ok t) (invalid : Manager.listOfJsonText t = .error e) :
      Fails .managersValid (.managers (.invalid (some path) e))

/-- A stage that goes well. -/
def Passes (s : Stage) : Prop := ∀ f, ¬ Fails read o s f

/-- A stage that fails when those before it go well. -/
structure FailsFirst (s : Stage) (f : Failure) : Prop where
  passed : ∀ earlier ∈ s.before, Passes read o earlier
  fails : Fails read o s f

/-- The bytes to convert: those of standard input or those of the named file. -/
inductive HasSource : List UInt8 → Prop where
  | standardInput (unnamed : o.readsStandardInput = true) : HasSource standardInput
  | file {bytes : List UInt8} (named : o.readsStandardInput = false)
      (readable : read o.input = .ok bytes) : HasSource bytes

/-- The directory to look names up in: that of the list of managers, or the empty one. -/
inductive HasDirectory : Directory → Prop where
  | empty (absent : o.managers = none) : HasDirectory .empty
  | ofList {path t : Text} {records : List Manager} (given : o.managers = some path)
      (readable : readText read path = .ok t) (valid : Manager.listOfJsonText t = .ok records) :
      HasDirectory (.ofList records)

end

/-- The ways in which a run may end. -/
inductive Ending where
  | rejected (h : Halt)
  | answered (h : Halt)
  | failed (s : Stage) (f : Failure)
  | written (o : Options) (m : Message)

/-- What a run that ends in a way leaves behind. A message is written in its compact form unless the
pretty form is asked for. -/
def Ending.outcome : Ending → Outcome
  | rejected h => ⟨2, [], h.message⟩
  | answered h => ⟨0, h.message, []⟩
  | failed _ f => ⟨1, [], f.report⟩
  | written o m =>
    ⟨0, (if o.pretty then m.toJson.pretty 0 else m.toJson.compact) ++ ['\n'], []⟩

/-- When a run ends in a way. -/
inductive Ends (arguments : List Text) (read : FileReader) (standardInput : List UInt8) :
    Ending → Prop where
  | rejected {h : Halt} (halts : Arguments.read arguments = .error h)
      (unasked : h.isRequested = false) : Ends arguments read standardInput (.rejected h)
  | answered {h : Halt} (halts : Arguments.read arguments = .error h)
      (asked : h.isRequested = true) : Ends arguments read standardInput (.answered h)
  | failed {o : Options} {s : Stage} {f : Failure} (accepts : Arguments.read arguments = .ok o)
      (failsFirst : FailsFirst read o s f) : Ends arguments read standardInput (.failed s f)
  | written {o : Options} {source : List UInt8} {d : Directory}
      (accepts : Arguments.read arguments = .ok o) (passes : ∀ s, Passes read o s)
      (hasSource : HasSource read standardInput o source) (hasDirectory : HasDirectory read o d) :
      Ends arguments read standardInput (.written o ⟨convertBytes d.find? source⟩)

section

variable {arguments : List Text} {read : FileReader} {standardInput : List UInt8} {o : Options}

/-! ### There is one ending at most -/

theorem Fails.unique {s : Stage} {f g : Failure} (first : Fails read o s f)
    (second : Fails read o s g) : f = g := by
  cases first <;> cases second <;> simp_all

theorem FailsFirst.unique {s t : Stage} {f g : Failure} (first : FailsFirst read o s f)
    (second : FailsFirst read o t g) : s = t ∧ f = g := by
  by_cases same : s = t
  · subst same
    exact ⟨rfl, first.fails.unique second.fails⟩
  · rcases Stage.mem_before_or same with earlier | earlier
    · exact absurd first.fails (second.passed s earlier f)
    · exact absurd second.fails (first.passed t earlier g)

theorem HasSource.unique {source other : List UInt8} (first : HasSource read standardInput o source)
    (second : HasSource read standardInput o other) : source = other := by
  cases first <;> cases second <;> simp_all

theorem HasDirectory.unique {d e : Directory} (first : HasDirectory read o d)
    (second : HasDirectory read o e) : d = e := by
  cases first <;> cases second <;> simp_all

/-- No run ends in two ways. -/
theorem Ends.unique {first second : Ending} (ends : Ends arguments read standardInput first)
    (alsoEnds : Ends arguments read standardInput second) : first = second := by
  -- the arguments are accepted or not, so only the last two kinds can meet
  cases ends with
  | rejected halts unasked => cases alsoEnds <;> simp_all
  | answered halts asked => cases alsoEnds <;> simp_all
  | failed accepts failsFirst =>
    cases alsoEnds with
    | failed accepts' failsFirst' =>
      cases accepts.symm.trans accepts'
      obtain ⟨rfl, rfl⟩ := failsFirst.unique failsFirst'
      rfl
    | written accepts' passes _ _ =>
      cases accepts.symm.trans accepts'
      exact absurd failsFirst.fails (passes _ _)
    | _ => simp_all
  | written accepts passes hasSource hasDirectory =>
    cases alsoEnds with
    | failed accepts' failsFirst =>
      cases accepts.symm.trans accepts'
      exact absurd failsFirst.fails (passes _ _)
    | written accepts' _ hasSource' hasDirectory' =>
      cases accepts.symm.trans accepts'
      rw [hasSource.unique hasSource', hasDirectory.unique hasDirectory']
    | _ => simp_all

/-! ### The program reaches it -/

theorem HasSource.passes {source : List UInt8} (hasSource : HasSource read standardInput o source) :
    Passes read o .inputReadable := by
  intro f fails
  cases hasSource <;> cases fails <;> simp_all

theorem HasDirectory.passes_readable {d : Directory} (hasDirectory : HasDirectory read o d) :
    Passes read o .managersReadable := by
  intro f fails
  cases hasDirectory <;> cases fails <;> simp_all

theorem HasDirectory.passes_valid {d : Directory} (hasDirectory : HasDirectory read o d) :
    Passes read o .managersValid := by
  intro f fails
  cases hasDirectory <;> cases fails <;> simp_all

theorem passes_inputExists (found : o.readsStandardInput = true ∨ read.finds o.input = true) :
    Passes read o .inputExists := by
  intro f fails
  cases fails
  simp_all

theorem passes_managersExist (found : ∀ path, o.managers = some path → read.finds path = true) :
    Passes read o .managersExist := by
  intro f fails
  cases fails with
  | managersExist given absent =>
    rw [found _ given] at absent
    contradiction

/-- All goes well if the files are there and give a source and a directory. -/
theorem passes_all {source : List UInt8} {d : Directory}
    (inputFound : Passes read o .inputExists) (managersFound : Passes read o .managersExist)
    (hasSource : HasSource read standardInput o source) (hasDirectory : HasDirectory read o d)
    (s : Stage) : Passes read o s := by
  cases s with
  | inputExists => exact inputFound
  | managersExist => exact managersFound
  | inputReadable => exact hasSource.passes
  | managersReadable => exact hasDirectory.passes_readable
  | managersValid => exact hasDirectory.passes_valid

variable (read standardInput o)

private theorem validate_cases :
    (∃ f, Fails read o .inputExists f ∧ validate read o = .error f) ∨
      (Passes read o .inputExists ∧ ∃ f, Fails read o .managersExist f ∧
        validate read o = .error f) ∨
      (Passes read o .inputExists ∧ Passes read o .managersExist ∧ validate read o = .ok ()) := by
  by_cases missing : o.readsStandardInput = false ∧ read.finds o.input = false
  · exact .inl ⟨_, .inputExists missing.1 missing.2, by simp [validate, missing]⟩
  have found : o.readsStandardInput = true ∨ read.finds o.input = true := by grind
  have goesOn : (!o.readsStandardInput && !read.finds o.input) = false := by grind
  have passes := passes_inputExists found
  refine .inr ?_
  cases given : o.managers with
  | none =>
    refine .inr ⟨passes, passes_managersExist (by simp [given]), ?_⟩
    simp [validate, goesOn, given]
  | some path =>
    cases present : read.finds path with
    | false =>
      refine .inl ⟨passes, _, .managersExist given present, ?_⟩
      simp [validate, goesOn, given, present]
    | true =>
      refine .inr ⟨passes, passes_managersExist ?_, by simp [validate, goesOn, given, present]⟩
      intro other alsoGiven
      cases given.symm.trans alsoGiven
      exact present

private theorem readInput_cases :
    (∃ f, Fails read o .inputReadable f ∧ readInput read standardInput o = .error f) ∨
      ∃ source, HasSource read standardInput o source ∧
        readInput read standardInput o = .ok source := by
  unfold readInput
  cases unnamed : o.readsStandardInput with
  | true => exact .inr ⟨_, .standardInput unnamed, rfl⟩
  | false =>
    cases readable : read o.input with
    | error e => exact .inl ⟨_, .inputReadable unnamed readable, rfl⟩
    | ok bytes => exact .inr ⟨_, .file unnamed readable, rfl⟩

private theorem loadManagers_cases :
    (∃ f, Fails read o .managersReadable f ∧ loadManagers read o = .error f) ∨
      (Passes read o .managersReadable ∧ ∃ f, Fails read o .managersValid f ∧
        loadManagers read o = .error f) ∨
      ∃ d, HasDirectory read o d ∧ loadManagers read o = .ok d := by
  cases given : o.managers with
  | none => exact .inr (.inr ⟨_, .empty given, by simp [loadManagers, given]⟩)
  | some path =>
    cases readable : readText read path with
    | error e =>
      refine .inl ⟨_, .managersReadable given readable, ?_⟩
      simp [loadManagers, given, Directory.load, readable, Except.mapError]
    | ok t =>
      have passes : Passes read o .managersReadable := by
        intro f fails
        cases fails
        simp_all
      cases valid : Manager.listOfJsonText t with
      | error e =>
        refine .inr (.inl ⟨passes, _, .managersValid given readable valid, ?_⟩)
        simp [loadManagers, given, Directory.load, readable, Directory.ofJsonText, valid,
          Except.mapError, Except.map]
      | ok records =>
        refine .inr (.inr ⟨_, .ofList given readable valid, ?_⟩)
        simp [loadManagers, given, Directory.load, readable, Directory.ofJsonText, valid,
          Except.mapError, Except.map]

/-- Either the first stage to fail is reported, or the message is that of the source and the
directory. -/
theorem message_cases :
    (∃ s f, FailsFirst read o s f ∧ message read standardInput o = .error f) ∨
      ∃ source d, (∀ s, Passes read o s) ∧ HasSource read standardInput o source ∧
        HasDirectory read o d ∧
        message read standardInput o = .ok ⟨convertBytes d.find? source⟩ := by
  rcases validate_cases read o with
    ⟨f, fails, validated⟩ | ⟨inputFound, f, fails, validated⟩ | ⟨inputFound, managersFound, validated⟩
  · refine .inl ⟨.inputExists, f, ⟨?_, fails⟩, by simp [message, bind, Except.bind, validated]⟩
    simp [Stage.before, Stage.all]
  · refine .inl ⟨.managersExist, f, ⟨?_, fails⟩, by simp [message, bind, Except.bind, validated]⟩
    simpa [Stage.before, Stage.all] using inputFound
  rcases readInput_cases read standardInput o with
    ⟨f, fails, obtained⟩ | ⟨source, hasSource, obtained⟩
  · refine .inl ⟨.inputReadable, f, ⟨?_, fails⟩, ?_⟩
    · simpa [Stage.before, Stage.all] using ⟨inputFound, managersFound⟩
    · simp [message, bind, Except.bind, validated, obtained]
  have inputReadable := hasSource.passes
  rcases loadManagers_cases read o with
    ⟨f, fails, loaded⟩ | ⟨managersReadable, f, fails, loaded⟩ | ⟨d, hasDirectory, loaded⟩
  · refine .inl ⟨.managersReadable, f, ⟨?_, fails⟩, ?_⟩
    · simpa [Stage.before, Stage.all] using ⟨inputFound, managersFound, inputReadable⟩
    · simp [message, bind, Except.bind, validated, obtained, loaded]
  · refine .inl ⟨.managersValid, f, ⟨?_, fails⟩, ?_⟩
    · simpa [Stage.before, Stage.all] using
        ⟨inputFound, managersFound, inputReadable, managersReadable⟩
    · simp [message, bind, Except.bind, validated, obtained, loaded]
  · refine .inr ⟨source, d, ?_, hasSource, hasDirectory, ?_⟩
    · exact passes_all inputFound managersFound hasSource hasDirectory
    · simp [message, bind, Except.bind, validated, obtained, loaded, pure, Except.pure]

/-- Every run ends in some way. -/
theorem exists_ends (arguments : List Text) :
    ∃ ending, Ends arguments read standardInput ending ∧
      run arguments read standardInput = ending.outcome := by
  cases accepts : Arguments.read arguments with
  | error h =>
    cases asked : h.isRequested with
    | false => exact ⟨_, .rejected accepts asked, by simp [run, accepts, halt, asked, Ending.outcome]⟩
    | true => exact ⟨_, .answered accepts asked, by simp [run, accepts, halt, asked, Ending.outcome]⟩
  | ok o =>
    rcases message_cases read standardInput o with
      ⟨s, f, failsFirst, reached⟩ | ⟨source, d, passes, hasSource, hasDirectory, reached⟩
    · exact ⟨_, .failed accepts failsFirst, by
        simp [run, accepts, runWith, reached, Ending.outcome]⟩
    · exact ⟨_, .written accepts passes hasSource hasDirectory, by
        simp [run, accepts, runWith, encode, reached, Ending.outcome]⟩

end

/-! ### What can be read off an ending -/

variable {read : FileReader} {standardInput : List UInt8} {o : Options}

theorem Fails.exists_chain {s : Stage} {f : Failure} (fails : Fails read o s f) :
    ∃ path causes, f.chain = (s.complaint ++ path) :: causes := by
  cases fails with
  | inputExists => exact ⟨_, _, rfl⟩
  | managersExist => exact ⟨_, _, rfl⟩
  | inputReadable => exact ⟨_, _, rfl⟩
  | managersReadable => exact ⟨_, _, rfl⟩
  | managersValid => exact ⟨_, _, rfl⟩

private theorem report_starts {f : Failure} {error : Text} {causes : List Text}
    (chain : f.chain = error :: causes) : "Error: ".toList ++ error <+: f.report := by
  unfold Failure.report
  rw [chain]
  match causes with
  | [] => exact List.prefix_append _ _
  | [_] =>
    simp only [List.append_assoc]
    exact ⟨_, rfl⟩
  | _ :: _ :: _ =>
    simp only [List.append_assoc]
    exact ⟨_, List.append_assoc _ _ _⟩

theorem Fails.heading_isPrefix {s : Stage} {f : Failure} (fails : Fails read o s f) :
    s.heading <+: f.report := by
  obtain ⟨path, causes, chain⟩ := fails.exists_chain
  have starts := report_starts chain
  rw [← List.append_assoc] at starts
  exact (List.prefix_append _ path).trans starts

/-- The report names the stage. -/
theorem Fails.heading_isPrefix_iff {s : Stage} {f : Failure} (fails : Fails read o s f) (t : Stage) :
    t.heading <+: f.report ↔ t = s := by
  constructor
  · intro starts
    exact Stage.eq_of_heading_isPrefix starts fails.heading_isPrefix
  · rintro rfl
    exact fails.heading_isPrefix

private theorem encode_mem_writtenForms (o : Options) (m : Message) :
    encode o m ∈ m.toJson.writtenForms := by
  unfold encode Json.writtenForms
  split <;> simp

/-- Whoever reads the output finds the message, in whatever form it is written. -/
theorem ofJsonText_output (o : Options) (find? : Text → Option Manager) (bytes : List UInt8) :
    Message.ofJsonText (encode o ⟨convertBytes find? bytes⟩ ++ ['\n']) =
      .ok ⟨convertBytes find? bytes⟩ := by
  have blank : ∀ c ∈ ['\n'], Json.Token.isBlank c = true := by simp [Json.Token.isBlank]
  have shallow := Nat.le_of_lt (nesting_convertBytes_lt find? bytes)
  generalize Message.mk (convertBytes find? bytes) = m at shallow ⊢
  exact (m.ofJsonText_append_within (encode_mem_writtenForms o m) blank).eq_ok shallow

private theorem message_congr (read : FileReader) (standardInput : List UInt8) {o o' : Options}
    (sameInput : o'.input = o.input) (sameManagers : o'.managers = o.managers) :
    message read standardInput o' = message read standardInput o := by
  cases o
  cases o'
  cases sameInput
  cases sameManagers
  rfl

/-- Runs that write the same message in two forms cannot be told apart by who reads them. -/
theorem runWith_agrees {o o' : Options} (sameInput : o'.input = o.input)
    (sameManagers : o'.managers = o.managers) :
    let first := runWith read standardInput o
    let second := runWith read standardInput o'
    second.code = first.code ∧ second.errors = first.errors ∧
      Message.ofJsonText second.output = Message.ofJsonText first.output := by
  have same := message_congr read standardInput sameInput sameManagers
  rcases message_cases read standardInput o with ⟨_, f, _, reached⟩ | ⟨source, d, _, _, _, reached⟩
  · simp [runWith, same, reached]
  · simp [runWith, same, reached, ofJsonText_output]

/-- A run ends in one way and leaves behind what belongs to it: the report of a failure names the
stage, and the output of a run that writes is read back as the message. What it ends with does not
depend on the form of the output or on how much is logged. -/
theorem run_ends (arguments : List Text) (read : FileReader) (standardInput : List UInt8) :
    (∃! ending, Ends arguments read standardInput ending) ∧
      (∀ ending, Ends arguments read standardInput ending →
        run arguments read standardInput = ending.outcome) ∧
      (∀ s f, Ends arguments read standardInput (.failed s f) →
        ∀ t : Stage, t.heading <+: (run arguments read standardInput).errors ↔ t = s) ∧
      (∀ o m, Ends arguments read standardInput (.written o m) →
        (o.pretty = true ↔
            Arguments.prettyFlag ∈ arguments.takeWhile (· ≠ Arguments.optionsEnd)) ∧
          Message.ofJsonText (run arguments read standardInput).output = .ok m) ∧
      ∀ others o o', Arguments.read arguments = .ok o → Arguments.read others = .ok o' →
        o'.input = o.input → o'.managers = o.managers →
          (run others read standardInput).code = (run arguments read standardInput).code ∧
            (run others read standardInput).errors = (run arguments read standardInput).errors ∧
            Message.ofJsonText (run others read standardInput).output =
              Message.ofJsonText (run arguments read standardInput).output := by
  obtain ⟨reached, ends, ran⟩ := exists_ends read standardInput arguments
  have outcome : ∀ ending, Ends arguments read standardInput ending →
      run arguments read standardInput = ending.outcome := by
    intro ending alsoEnds
    rw [alsoEnds.unique ends, ran]
  refine ⟨⟨reached, ends, fun other alsoEnds => alsoEnds.unique ends⟩, outcome, ?_, ?_, ?_⟩
  · intro s f failed t
    rw [outcome _ failed]
    cases failed with
    | failed accepts failsFirst => exact failsFirst.fails.heading_isPrefix_iff t
  · intro o m written
    rw [outcome _ written]
    cases written with
    | written accepts passes hasSource hasDirectory =>
      exact ⟨Arguments.read_pretty accepts, ofJsonText_output _ _ _⟩
  · intro others o o' accepts alsoAccepts sameInput sameManagers
    simp only [run, accepts, alsoAccepts]
    exact runWith_agrees sameInput sameManagers

theorem run_ends_twoForms :
    let read : FileReader :=
      (Files.ofList [("a.md".toList, [104, 105]), ("m".toList, [91, 93])]).read
    let pretty := ["--pretty".toList, "-v".toList, "a.md".toList, "-mm".toList]
    let compact := ["--managers".toList, "m".toList, "a.md".toList]
    let m : Message := ⟨convertBytes (Directory.ofList []).find? [104, 105]⟩
    Stage.inputExists.heading <+: (run ["b.md".toList] read []).errors ∧
      Message.ofJsonText (run pretty read []).output = .ok m ∧
      Message.ofJsonText (run compact read []).output = .ok m := by
  intro read pretty compact m
  have missing : Ends ["b.md".toList] read []
      (.failed .inputExists (.missingInput "b.md".toList)) := by
    refine .failed (o := ⟨"b.md".toList, none, false, 0⟩) rfl ⟨?_, .inputExists rfl rfl⟩
    simp [Stage.before, Stage.all]
  have acceptsPretty : Arguments.read pretty =
      .ok ⟨"a.md".toList, some "m".toList, true, 1⟩ := rfl
  have acceptsCompact : Arguments.read compact =
      .ok ⟨"a.md".toList, some "m".toList, false, 0⟩ := rfl
  have written : Ends pretty read [] (.written ⟨"a.md".toList, some "m".toList, true, 1⟩ m) := by
    have hasSource : HasSource read [] ⟨"a.md".toList, some "m".toList, true, 1⟩ [104, 105] :=
      .file rfl rfl
    have hasDirectory : HasDirectory read ⟨"a.md".toList, some "m".toList, true, 1⟩
        (.ofList []) := .ofList rfl rfl rfl
    have found : Passes read ⟨"a.md".toList, some "m".toList, true, 1⟩ .managersExist := by
      refine passes_managersExist ?_
      rintro _ ⟨⟩
      rfl
    exact .written acceptsPretty
      (passes_all (passes_inputExists (.inr rfl)) found hasSource hasDirectory) hasSource hasDirectory
  obtain ⟨-, -, headings, -, -⟩ := run_ends ["b.md".toList] read []
  obtain ⟨-, -, -, decodes, agrees⟩ := run_ends pretty read []
  have decoded := (decodes _ _ written).2
  have same := agrees compact _ _ acceptsPretty acceptsCompact rfl rfl
  exact ⟨(headings _ _ missing _).mpr rfl, decoded, same.2.2.trans decoded⟩

end Chatdown.Program
