import Chatdown.Arguments
import Chatdown.Proofs.Text.Runs
import Mathlib.Data.List.TakeWhile
import Mathlib.Tactic.SplitIfs

/-! # Asking for pretty output

Of all that a command line may hold, only the argument `--pretty` has to do with the form of the
output, and only before `--`: it is no value of another option and has no letter of its own. So
every step but one keeps what is known of it.
-/

namespace Chatdown.Arguments

def prettyFlag : Text := "--pretty".toList

def optionsEnd : Text := ['-', '-']

namespace Draft

/-- A step that does not change whether pretty output is asked for, if it is taken at all. -/
def KeepsPretty (d : Draft) (result : Except Halt Draft) : Prop :=
  ∀ e, result = .ok e → e.pretty = d.pretty

variable {d : Draft} {result : Except Halt Draft}

private theorem keepsPretty_error (h : Halt) : d.KeepsPretty (.error h) := by
  intro e same
  contradiction

private theorem keepsPretty_ok {e : Draft} (kept : e.pretty = d.pretty) :
    d.KeepsPretty (.ok e) := by
  intro other same
  cases same
  exact kept

theorem KeepsPretty.bind {f : Draft → Except Halt Draft} (first : d.KeepsPretty result)
    (second : ∀ e : Draft, e.KeepsPretty (f e)) : d.KeepsPretty (result.bind f) := by
  cases result with
  | error h => exact keepsPretty_error h
  | ok e =>
    intro last same
    exact (second e last same).trans (first e rfl)

theorem KeepsPretty.map {f : Draft → Draft} (first : d.KeepsPretty result)
    (second : ∀ e, (f e).pretty = e.pretty) : d.KeepsPretty (result.map f) := by
  cases result with
  | error h => exact keepsPretty_error h
  | ok e => exact keepsPretty_ok ((second e).trans (first e rfl))

variable (d)

private theorem setManagers_keepsPretty (path : Text) : d.KeepsPretty (d.setManagers path) := by
  unfold setManagers
  split_ifs
  · exact keepsPretty_error _
  · exact keepsPretty_error _
  · exact keepsPretty_ok rfl

private theorem settle_keepsPretty : d.KeepsPretty d.settle := by
  unfold settle
  split
  · exact keepsPretty_ok rfl
  · exact keepsPretty_error _
  · exact setManagers_keepsPretty { d with pending := none } _
  · split_ifs
    · exact keepsPretty_error _
    · exact keepsPretty_ok rfl

private theorem takeOperand_keepsPretty (path : Text) : d.KeepsPretty (d.takeOperand path) := by
  unfold takeOperand
  split
  · exact keepsPretty_error _
  · exact keepsPretty_error _
  · exact d.settle_keepsPretty.map fun _ => rfl

private theorem takeManagers_keepsPretty (path : Option Text) :
    d.KeepsPretty (d.takeManagers path) := by
  refine d.settle_keepsPretty.bind ?_
  intro e
  cases path with
  | none => exact keepsPretty_ok rfl
  | some path => exact e.setManagers_keepsPretty path

private theorem takeVerbose_keepsPretty : d.KeepsPretty d.takeVerbose :=
  d.settle_keepsPretty.map fun _ => rfl

private theorem takeHalt_keepsPretty (h : Halt) : d.KeepsPretty (d.takeHalt h) :=
  d.settle_keepsPretty.bind fun _ => keepsPretty_error h

private theorem takeShort_keepsPretty (letters : Text) : d.KeepsPretty (d.takeShort letters) := by
  induction letters generalizing d with
  | nil => exact keepsPretty_ok rfl
  | cons c rest ih =>
    unfold takeShort
    by_cases isManagers : c = 'm'
    · rw [if_pos isManagers]
      exact d.takeManagers_keepsPretty _
    rw [if_neg isManagers]
    split_ifs
    · have verbose := d.takeVerbose_keepsPretty.bind ih
      revert verbose
      cases d.takeVerbose <;> exact id
    · exact d.takeHalt_keepsPretty .help
    · exact d.takeHalt_keepsPretty .version
    · exact keepsPretty_error _

private theorem takeValue_keepsPretty (path : Text) : d.KeepsPretty (d.takeValue path) := by
  unfold takeValue
  split
  · exact keepsPretty_ok rfl
  · exact d.takeOperand_keepsPretty path

private theorem takePretty_pretty {e : Draft} (taken : d.takePretty = .ok e) : e.pretty = true := by
  unfold takePretty at taken
  cases settled : d.settle with
  | error h =>
    rw [settled] at taken
    contradiction
  | ok f =>
    simp only [settled, Except.bind] at taken
    split_ifs at taken
    cases taken
    rfl

/-- Only one name is about pretty output, and it takes no value. -/
theorem takeLong_pretty {name : Text} {value : Option Text} {e : Draft}
    (taken : d.takeLong name value = .ok e) :
    e.pretty = true ↔ d.pretty = true ∨ name = "pretty".toList ∧ value = none := by
  have kept (same : e.pretty = d.pretty) (other : name ≠ "pretty".toList) :
      e.pretty = true ↔ d.pretty = true ∨ name = "pretty".toList ∧ value = none := by
    rw [same, or_iff_left fun both => other both.1]
  unfold takeLong at taken
  dsimp only at taken
  split_ifs at taken with isManagers isPretty given isVerbose given isHelp given isVersion given
  · exact kept (d.takeManagers_keepsPretty value e taken) (by rw [isManagers]; decide)
  · have absent : value = none := by simpa using given
    simp [d.takePretty_pretty taken, isPretty, absent]
  · exact kept (d.takeVerbose_keepsPretty e taken) isPretty
  · exact kept (d.takeHalt_keepsPretty .help e taken) isPretty
  · exact kept (d.takeHalt_keepsPretty .version e taken) isPretty

/-- A long option that is spelled as a name with no value is that name. -/
theorem long_eq_iff {name : Text} (plain : '=' ∉ name) (long : Text) :
    (long.takeWhile (· ≠ '=') = name ∧
        Text.after? ['='] (long.drop (long.takeWhile (· ≠ '=')).length) = none) ↔
      long = name := by
  rw [Text.drop_length_takeWhile]
  constructor
  · rintro ⟨same, absent⟩
    have ended : long.dropWhile (· ≠ '=') = [] := by
      cases value : long.dropWhile (· ≠ '=') with
      | nil => rfl
      | cons c rest =>
        have equals : c = '=' := by
          have head := List.head?_dropWhile_not (· ≠ '=') long
          rw [value] at head
          simpa using head
        rw [value, equals] at absent
        contradiction
    rw [← List.takeWhile_append_dropWhile (p := (· ≠ '=')) (l := long), ended, List.append_nil, same]
  · rintro rfl
    have passed : ∀ c ∈ long, decide (c ≠ '=') = true := by
      intro c mem
      simpa using ne_of_mem_of_not_mem mem plain
    rw [List.takeWhile_eq_self_iff.mpr passed, List.dropWhile_eq_nil_iff.mpr passed]
    exact ⟨rfl, rfl⟩

theorem take_long (long : Text) : d.take ('-' :: '-' :: long) =
    d.takeLong (long.takeWhile (· ≠ '='))
      (Text.after? ['='] (long.drop (long.takeWhile (· ≠ '=')).length)) :=
  rfl

/-- An argument that does not begin with two hyphens is no long option. -/
theorem take_keepsPretty {argument : Text} (other : ¬ ['-', '-'] <+: argument) :
    d.KeepsPretty (d.take argument) := by
  unfold take
  split
  · exact absurd ⟨_, rfl⟩ other
  · exact d.takeShort_keepsPretty _
  · exact d.takeValue_keepsPretty _

/-- One argument before `--`. -/
theorem take_pretty {argument : Text} {e : Draft} (taken : d.take argument = .ok e) :
    e.pretty = true ↔ d.pretty = true ∨ argument = prettyFlag := by
  have flag : prettyFlag = '-' :: '-' :: "pretty".toList := rfl
  by_cases isLong : ['-', '-'] <+: argument
  · obtain ⟨long, rfl⟩ := isLong
    rw [List.cons_append, List.singleton_append] at taken ⊢
    rw [take_long] at taken
    rw [d.takeLong_pretty taken, long_eq_iff (by decide)]
    simp [flag]
  · have other : argument ≠ prettyFlag := by
      rintro rfl
      exact isLong ⟨_, rfl⟩
    rw [d.take_keepsPretty isLong e taken, or_iff_left other]

theorem takeAll_operand (argument : Text) (arguments : List Text) :
    d.takeAll true (argument :: arguments) =
      (d.takeOperand argument).bind fun e => e.takeAll true arguments := by
  rw [takeAll, if_pos rfl]
  cases d.takeOperand argument <;> rfl

theorem takeAll_end (arguments : List Text) :
    d.takeAll false (optionsEnd :: arguments) = d.takeAll true arguments :=
  rfl

theorem takeAll_cons {argument : Text} (goesOn : argument ≠ optionsEnd) (arguments : List Text) :
    d.takeAll false (argument :: arguments) =
      (d.take argument).bind fun e => e.takeAll false arguments := by
  rw [takeAll, if_neg Bool.false_ne_true, if_neg (show argument ≠ ['-', '-'] from goesOn)]
  cases d.take argument <;> rfl

/-- What follows `--` is no option. -/
theorem takeAll_operands_keepsPretty (arguments : List Text) :
    d.KeepsPretty (d.takeAll true arguments) := by
  induction arguments generalizing d with
  | nil => exact d.settle_keepsPretty
  | cons argument arguments ih =>
    rw [takeAll_operand]
    exact (d.takeOperand_keepsPretty argument).bind ih

private theorem takeAll_pretty {arguments : List Text} {e : Draft}
    (taken : d.takeAll false arguments = .ok e) :
    e.pretty = true ↔
      d.pretty = true ∨ prettyFlag ∈ arguments.takeWhile (· ≠ optionsEnd) := by
  induction arguments generalizing d with
  | nil => simp [d.settle_keepsPretty e taken]
  | cons argument arguments ih =>
    by_cases ended : argument = optionsEnd
    · rw [ended, takeAll_end] at taken
      simp [d.takeAll_operands_keepsPretty arguments e taken, ended]
    · rw [takeAll_cons d ended] at taken
      rw [List.takeWhile_cons_of_pos (by simpa using ended), List.mem_cons, ← or_assoc,
        eq_comm (a := prettyFlag)]
      cases first : d.take argument with
      | error h =>
        rw [first] at taken
        contradiction
      | ok f =>
        rw [first] at taken
        rw [ih f taken, d.take_pretty first]

end Draft

/-- An accepted command line asks for pretty output exactly if `--pretty` is in it, before any
`--`. -/
theorem read_pretty {arguments : List Text} {o : Options} (accepts : read arguments = .ok o) :
    o.pretty = true ↔ prettyFlag ∈ arguments.takeWhile (· ≠ optionsEnd) := by
  unfold read at accepts
  cases taken : Draft.takeAll {} false arguments with
  | error h =>
    rw [taken] at accepts
    contradiction
  | ok e =>
    rw [taken] at accepts
    cases accepts
    simpa [Draft.options] using Draft.takeAll_pretty {} taken

end Chatdown.Arguments
