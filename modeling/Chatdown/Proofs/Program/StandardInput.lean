import Chatdown.Proofs.Arguments.Operands
import Chatdown.Proofs.Program.Endings
import Chatdown.Proofs.Text.Join

/-! # Where standard input matters

What a run leaves behind may depend on standard input, and that two runs differ in nothing else is
all there is to see of it. An operand keeps standard input out of a run unless it is spelled as a
hyphen. Slashes and dots behind the hyphen do not make it another path, so there are more such
operands than the hyphen alone. With one of them standard input does matter, if the run comes to
converting it.
-/

namespace Chatdown

namespace Options

/-- A hyphen, with slashes behind it or dots between them. -/
def SpellsHyphen (path : Text) : Prop :=
  ∃ rest, path = ['/'].intercalate (['-'] :: rest) ∧ ∀ part ∈ rest, part = [] ∨ part = ['.']

theorem isStandardInput_iff {path : Text} : isStandardInput path = true ↔ SpellsHyphen path := by
  constructor
  · intro stands
    have whole : ['/'].intercalate (path.splitOn '/') = path := List.intercalate_splitOn '/'
    unfold isStandardInput at stands
    cases found : path.splitOn '/' with
    | nil =>
      rw [found] at stands
      contradiction
    | cons name rest =>
      rw [found] at stands whole
      simp only [Bool.and_eq_true, List.all_eq_true, Bool.or_eq_true, decide_eq_true_eq] at stands
      obtain ⟨hyphen, trailing⟩ := stands
      rw [hyphen] at whole
      exact ⟨rest, whole.symm, trailing⟩
  · rintro ⟨rest, rfl, trailing⟩
    have plain : ∀ part ∈ ['-'] :: rest, '/' ∉ part := by
      rw [List.forall_mem_cons]
      refine ⟨by decide, ?_⟩
      intro part mem
      rcases trailing part mem with rfl | rfl <;> decide
    unfold isStandardInput
    rw [List.splitOn_intercalate '/' plain (List.cons_ne_nil _ rest)]
    simpa [standardInput] using trailing

end Options

namespace Program

/-- Runs whose standard inputs differ leave the same behind. -/
def IgnoresStandardInput (arguments : List Text) (read : FileReader) : Prop :=
  ∀ first second, run arguments read first = run arguments read second

variable {arguments : List Text} {read : FileReader} {o : Options} {d : Directory}

private theorem run_of_read (accepts : Arguments.read arguments = .ok o)
    (standardInput : List UInt8) :
    run arguments read standardInput = runWith read standardInput o := by
  simp only [run, accepts]

private theorem runWith_of_named (named : o.readsStandardInput = false)
    (first second : List UInt8) :
    runWith read first o = runWith read second o := by
  simp [runWith, message, readInput, named]

/-- What fails before the document is converted fails whatever is in it. -/
theorem runWith_of_noDirectory (noDirectory : ∀ d, ¬ HasDirectory read o d)
    (first second : List UInt8) : runWith read first o = runWith read second o := by
  rcases message_cases read first o with
    ⟨s, f, failsFirst, reached⟩ | ⟨_, d, _, _, hasDirectory, _⟩
  · rcases message_cases read second o with
      ⟨t, g, alsoFailsFirst, alsoReached⟩ | ⟨_, d, _, _, hasDirectory, _⟩
    · obtain ⟨-, rfl⟩ := failsFirst.unique alsoFailsFirst
      simp only [runWith, reached, alsoReached]
    · exact absurd hasDirectory (noDirectory d)
  · exact absurd hasDirectory (noDirectory d)

theorem HasDirectory.passes_exist (hasDirectory : HasDirectory read o d) :
    Passes read o .managersExist := by
  refine passes_managersExist ?_
  intro path given
  cases hasDirectory with
  | empty absent =>
    rw [absent] at given
    contradiction
  | ofList alsoGiven readable valid =>
    cases given.symm.trans alsoGiven
    unfold readText at readable
    unfold FileReader.finds
    split at readable
    · contradiction
    · simp_all

private theorem runWith_standardInput (unnamed : o.readsStandardInput = true)
    (hasDirectory : HasDirectory read o d) (standardInput : List UInt8) :
    runWith read standardInput o = ⟨0, encode o ⟨convertBytes d.find? standardInput⟩ ++ ['\n'], []⟩ := by
  have given : HasSource read standardInput o standardInput := .standardInput unnamed
  have passes := passes_all (passes_inputExists (.inl unnamed)) hasDirectory.passes_exist given
    hasDirectory
  rcases message_cases read standardInput o with
    ⟨s, f, failsFirst, _⟩ | ⟨source, e, _, hasSource, alsoHasDirectory, reached⟩
  · exact absurd failsFirst.fails (passes s f)
  · cases hasSource.unique given
    cases alsoHasDirectory.unique hasDirectory
    simp only [runWith, reached]

/-- A rule across the page, in bytes. -/
def rule : List UInt8 := [45, 45, 45]

/-- An empty document and a rule are told apart by the number of blocks. -/
theorem runWith_nil_ne_rule (unnamed : o.readsStandardInput = true)
    (hasDirectory : HasDirectory read o d) :
    runWith read [] o ≠ runWith read rule o := by
  intro same
  rw [runWith_standardInput unnamed hasDirectory, runWith_standardInput unnamed hasDirectory] at same
  have sameMessage := congrArg (fun outcome => Message.ofJsonText outcome.output) same
  dsimp only at sameMessage
  rw [ofJsonText_output, ofJsonText_output] at sameMessage
  injection sameMessage with sameMessage
  injection sameMessage with sameBlocks
  have empty : (convertBytes d.find? []).length = 0 := rfl
  have single : (convertBytes d.find? rule).length = 1 := rfl
  rw [← sameBlocks, empty] at single
  contradiction

theorem runWith_ignores_iff :
    (∀ first second, runWith read first o = runWith read second o) ↔
      o.readsStandardInput = false ∨ ∀ d, ¬ HasDirectory read o d := by
  constructor
  · intro same
    cases unnamed : o.readsStandardInput with
    | false => exact .inl rfl
    | true => exact .inr fun d hasDirectory => runWith_nil_ne_rule unnamed hasDirectory (same _ _)
  · rintro (named | noDirectory)
    · exact runWith_of_named named
    · exact runWith_of_noDirectory noDirectory

/-- An operand is the input. -/
theorem input_of_operand {path : Text} (accepts : Arguments.read arguments = .ok o)
    (given : path ∈ Arguments.operands arguments) : o.input = path := by
  obtain ⟨operand, operands, input⟩ := Arguments.read_operands accepts
  rw [operands, Option.mem_toList] at given
  rw [input, given]
  rfl

/-- A run with an operand ignores standard input exactly if the operand does not spell a hyphen, or
if there is no directory to convert anything with. -/
theorem ignoresStandardInput_iff {path : Text} (accepts : Arguments.read arguments = .ok o)
    (given : path ∈ Arguments.operands arguments) (read : FileReader) :
    IgnoresStandardInput arguments read ↔
      ¬ Options.SpellsHyphen path ∨ ∀ d, ¬ HasDirectory read o d := by
  simp only [IgnoresStandardInput, run_of_read accepts, runWith_ignores_iff]
  rw [← Options.isStandardInput_iff, ← input_of_operand accepts given, Bool.not_eq_true]
  rfl

theorem ignoresStandardInput_iff_dotHyphen :
    let arguments := ["-vm".toList, "m.json".toList, "--".toList, "./-".toList]
    Arguments.read arguments = .ok ⟨"./-".toList, some "m.json".toList, false, 1⟩ ∧
      "./-".toList ∈ Arguments.operands arguments ∧
      ∀ read, IgnoresStandardInput arguments read := by
  intro arguments
  have accepts : Arguments.read arguments =
      .ok ⟨"./-".toList, some "m.json".toList, false, 1⟩ := rfl
  have given : "./-".toList ∈ Arguments.operands arguments := by decide
  refine ⟨accepts, given, ?_⟩
  intro read
  rw [ignoresStandardInput_iff accepts given, ← Options.isStandardInput_iff]
  exact .inl (by decide)

/-- Not every operand but the hyphen alone keeps standard input out. -/
theorem run_hyphenSlash_differs :
    let arguments := ["--".toList, "-/".toList]
    let read := (Files.ofList []).read
    Arguments.read arguments = .ok ⟨"-/".toList, none, false, 0⟩ ∧
      "-/".toList ∈ Arguments.operands arguments ∧ "-/".toList ≠ "-".toList ∧
      run arguments read [] ≠ run arguments read rule := by
  intro arguments read
  have accepts : Arguments.read arguments = .ok ⟨"-/".toList, none, false, 0⟩ := rfl
  refine ⟨accepts, by decide, by decide, ?_⟩
  rw [run_of_read accepts, run_of_read accepts]
  exact runWith_nil_ne_rule rfl (.empty rfl)

end Program

end Chatdown
