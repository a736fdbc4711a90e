import Chatdown.Proofs.Arguments.Pretty
import Chatdown.Proofs.Results

/-! # Operands

Which arguments of a command line are operands can be said without reading it: before `--` those
that are no options and no values of options, and behind it all. A command line that is accepted has
one operand at most, and that is what its input is. Every step of reading it is an operand, a value,
or an option, and only an option can make the next argument a value.
-/

namespace Chatdown.Arguments

/-- Tests for an argument that is an option if it comes before `--`: a hyphen alone is none. -/
def isOption : Text → Bool
  | '-' :: _ :: _ => true
  | _ => false

theorem isOption_iff {argument : Text} :
    isOption argument ↔ ∃ c rest, argument = '-' :: c :: rest := by
  unfold isOption
  split
  case h_1 c rest => exact iff_of_true rfl ⟨c, rest, rfl⟩
  case h_2 other => exact iff_of_false Bool.false_ne_true fun ⟨c, rest, same⟩ => other c rest same

/-- Tests for an option that takes the next argument as its value: the option for managers by its
name, or by its letter behind those of options without values. -/
def takesNext (argument : Text) : Bool :=
  argument = "--managers".toList || (argument.drop 1).dropWhile (· = 'v') = ['m']

private theorem takesNext_cons_cons (c : Char) (rest : Text) :
    takesNext ('-' :: c :: rest) =
      (decide (c = '-' ∧ rest = "managers".toList) ||
        decide ((c :: rest).dropWhile (· = 'v') = ['m'])) := by
  have name : "--managers".toList = '-' :: '-' :: "managers".toList := rfl
  rw [takesNext, name]
  congr 1
  rw [decide_eq_decide, List.cons.injEq, List.cons.injEq]
  exact and_iff_right rfl

private theorem takesNext_long (long : Text) :
    takesNext ('-' :: '-' :: long) = decide (long = "managers".toList) := by
  rw [takesNext_cons_cons, decide_eq_false (p := ('-' :: long).dropWhile (· = 'v') = ['m']),
    Bool.or_false, decide_eq_decide]
  · exact and_iff_right rfl
  · intro same
    injection same with same
    contradiction

private theorem takesNext_short {c : Char} (short : c ≠ '-') (rest : Text) :
    takesNext ('-' :: c :: rest) = decide ((c :: rest).dropWhile (· = 'v') = ['m']) := by
  rw [takesNext_cons_cons, decide_eq_false fun both => short both.1, Bool.false_or]

/-- The operands among arguments; `awaiting` tells whether the first is the value of an option. -/
def operandsFrom : (awaiting : Bool) → List Text → List Text
  | _, [] => []
  | awaiting, argument :: arguments =>
    if argument = optionsEnd then arguments
    else if isOption argument then operandsFrom (takesNext argument) arguments
    else if awaiting then operandsFrom false arguments
    else argument :: operandsFrom false arguments

def operands (arguments : List Text) : List Text := operandsFrom false arguments

namespace Draft

/-- The operand that has been read, be it checked or not. -/
def operand? (d : Draft) : Option Text :=
  match d.pending with
  | some (.operand path) => some path
  | _ => d.operand

/-- Tests whether the next argument is the value of an option. -/
def isAwaiting (d : Draft) : Bool := d.pending = some (.managers none)

/-- A step that takes an option, after which the next argument is a value or not. -/
def TakesOption (d : Draft) (awaiting : Bool) (result : Except Halt Draft) : Prop :=
  ∀ e, result = .ok e →
    d.isAwaiting = false ∧ e.operand? = d.operand? ∧ e.isAwaiting = awaiting

variable {d : Draft} {awaiting : Bool} {result : Except Halt Draft}

private theorem takesOption_error (h : Halt) : d.TakesOption awaiting (.error h) := by
  intro e same
  contradiction

theorem TakesOption.bind {f : Draft → Except Halt Draft} (first : d.TakesOption false result)
    (second : ∀ e : Draft, e.isAwaiting = false → e.TakesOption awaiting (f e)) :
    d.TakesOption awaiting (result.bind f) := by
  intro last same
  obtain ⟨e, taken, same⟩ := Except.bind_eq_ok.mp same
  obtain ⟨notAwaiting, kept, after⟩ := first e taken
  obtain ⟨-, alsoKept, awaits⟩ := second e after last same
  exact ⟨notAwaiting, alsoKept.trans kept, awaits⟩

private theorem operand?_of_pending {e : Draft} (checked : e.pending = none) :
    e.operand? = e.operand := by
  unfold operand?
  rw [checked]

private theorem isAwaiting_of_pending {e : Draft} (checked : e.pending = none) :
    e.isAwaiting = false := by
  simp [isAwaiting, checked]

private theorem setManagers_eq_ok {path : Text} {e : Draft} (taken : d.setManagers path = .ok e) :
    e.operand = d.operand ∧ e.pending = d.pending := by
  unfold setManagers at taken
  split_ifs at taken
  cases taken
  exact ⟨rfl, rfl⟩

/-- What has not been checked is checked before anything else is taken. -/
theorem settle_eq_ok {e : Draft} (settled : d.settle = .ok e) :
    d.isAwaiting = false ∧ e.operand = d.operand? ∧ e.pending = none := by
  unfold settle at settled
  dsimp only at settled
  split at settled
  case h_1 none =>
    cases settled
    exact ⟨isAwaiting_of_pending none, (operand?_of_pending none).symm, none⟩
  case h_2 => contradiction
  case h_3 path managers =>
    obtain ⟨operand, pending⟩ := setManagers_eq_ok settled
    exact ⟨by simp [isAwaiting, managers], by simp [operand?, managers, operand], pending⟩
  case h_4 path operand =>
    split_ifs at settled
    cases settled
    exact ⟨by simp [isAwaiting, operand], by simp [operand?, operand], rfl⟩

private theorem takesOption_settle_bind {f : Draft → Except Halt Draft}
    (taken : ∀ e g : Draft, e.pending = none → f e = .ok g →
      g.operand? = e.operand ∧ g.isAwaiting = awaiting) :
    d.TakesOption awaiting (d.settle.bind f) := by
  intro g same
  obtain ⟨e, settled, same⟩ := Except.bind_eq_ok.mp same
  obtain ⟨notAwaiting, operand, checked⟩ := settle_eq_ok settled
  obtain ⟨kept, awaits⟩ := taken e g checked same
  exact ⟨notAwaiting, kept.trans operand, awaits⟩

variable (d)

private theorem takeManagers_takesOption (path : Option Text) :
    d.TakesOption path.isNone (d.takeManagers path) := by
  refine takesOption_settle_bind ?_
  intro e g checked taken
  cases path with
  | none =>
    cases taken
    exact ⟨rfl, rfl⟩
  | some path =>
    obtain ⟨operand, pending⟩ := setManagers_eq_ok taken
    have alsoChecked := pending.trans checked
    exact ⟨(operand?_of_pending alsoChecked).trans operand, isAwaiting_of_pending alsoChecked⟩

private theorem takeVerbose_takesOption : d.TakesOption false d.takeVerbose := by
  have asBind : d.takeVerbose = d.settle.bind fun e =>
      .ok { e with verbosity := min (e.verbosity + 1) Options.maxVerbosity } := by
    unfold takeVerbose
    cases d.settle <;> rfl
  rw [asBind]
  refine takesOption_settle_bind ?_
  intro e g checked taken
  cases taken
  exact ⟨operand?_of_pending checked, isAwaiting_of_pending checked⟩

private theorem takePretty_takesOption : d.TakesOption false d.takePretty := by
  refine takesOption_settle_bind ?_
  intro e g checked taken
  split_ifs at taken
  cases taken
  exact ⟨operand?_of_pending checked, isAwaiting_of_pending checked⟩

private theorem takeHalt_takesOption (h : Halt) : d.TakesOption awaiting (d.takeHalt h) :=
  takesOption_settle_bind fun _ _ _ taken => nomatch taken

/-- Of the options with names, the one for managers makes the next argument a value, unless its
value is attached. -/
theorem takeLong_takesOption (name : Text) (value : Option Text) :
    d.TakesOption (name = "managers".toList ∧ value = none) (d.takeLong name value) := by
  unfold takeLong
  dsimp only
  split_ifs with isManagers
  · have awaits : decide (name = "managers".toList ∧ value = none) = value.isNone := by
      cases value <;> simp [isManagers]
    rw [awaits]
    exact d.takeManagers_takesOption value
  all_goals rw [decide_eq_false fun both => isManagers both.1]
  · exact takesOption_error _
  · exact d.takePretty_takesOption
  · exact takesOption_error _
  · exact d.takeVerbose_takesOption
  · exact takesOption_error _
  · exact d.takeHalt_takesOption .help
  · exact takesOption_error _
  · exact d.takeHalt_takesOption .version
  · exact takesOption_error _

private theorem take_short {c : Char} (short : c ≠ '-') (rest : Text) :
    d.take ('-' :: c :: rest) = d.takeShort (c :: rest) := by
  unfold take
  split
  case h_1 same =>
    injection same with _ same
    injection same with same
    exact absurd same short
  case h_2 same =>
    injection same with _ same
    rw [same]
  case h_3 other => exact absurd rfl (other c rest)

theorem take_value {argument : Text} (value : ¬ isOption argument) :
    d.take argument = d.takeValue argument := by
  rw [isOption_iff] at value
  unfold take
  split
  · exact absurd ⟨_, _, rfl⟩ value
  · exact absurd ⟨_, _, rfl⟩ value
  · rfl

/-- Among letters, that for managers takes what follows it as its value, or the next argument if
nothing does. -/
theorem takeShort_takesOption (letters : Text) (some : letters = [] → d.isAwaiting = false) :
    d.TakesOption (letters.dropWhile (· = 'v') = ['m']) (d.takeShort letters) := by
  induction letters generalizing d with
  | nil =>
    intro e same
    cases same
    exact ⟨some rfl, rfl, some rfl⟩
  | cons c rest ih =>
    unfold takeShort
    by_cases isManagers : c = 'm'
    · subst isManagers
      rw [if_pos rfl]
      have awaits : decide (('m' :: rest).dropWhile (· = 'v') = ['m']) =
          (if rest = [] then none else Option.some ((Text.after? ['='] rest).getD rest)).isNone := by
        by_cases isEmpty : rest = [] <;> simp [isEmpty]
      rw [awaits]
      exact d.takeManagers_takesOption _
    rw [if_neg isManagers]
    by_cases isVerbose : c = 'v'
    · subst isVerbose
      rw [if_pos rfl]
      have verbose := d.takeVerbose_takesOption.bind fun e after => ih e fun _ => after
      rw [show ('v' :: rest).dropWhile (· = 'v') = rest.dropWhile (· = 'v') from rfl]
      revert verbose
      cases d.takeVerbose <;> exact id
    rw [if_neg isVerbose]
    split_ifs
    · exact d.takeHalt_takesOption .help
    · exact d.takeHalt_takesOption .version
    · exact takesOption_error _

/-- One argument before `--` that is an option. -/
theorem take_takesOption {argument : Text} (option : isOption argument) :
    d.TakesOption (takesNext argument) (d.take argument) := by
  obtain ⟨c, rest, rfl⟩ := isOption_iff.mp option
  by_cases isLong : c = '-'
  · subst isLong
    rw [take_long]
    rw [takesNext_long, ← decide_eq_decide.mpr (long_eq_iff (by decide) rest)]
    exact d.takeLong_takesOption _ _
  · rw [takesNext_short isLong, take_short d isLong]
    exact d.takeShort_takesOption (c :: rest) fun absent => nomatch absent

private theorem takeOperand_eq_ok {path : Text} {e : Draft} (taken : d.takeOperand path = .ok e) :
    d.isAwaiting = false ∧ d.operand? = none ∧ e.operand? = some path ∧ e.isAwaiting = false := by
  unfold takeOperand at taken
  split at taken
  case h_1 => contradiction
  case h_2 => contradiction
  case h_3 absent noOperand =>
    obtain ⟨f, settled, rfl⟩ := Except.map_eq_ok.mp taken
    obtain ⟨notAwaiting, -, -⟩ := settle_eq_ok settled
    refine ⟨notAwaiting, ?_, rfl, rfl⟩
    unfold operand?
    split
    case h_1 path pending => exact absurd pending (noOperand path)
    case h_2 => exact absent

/-- One argument before `--` that is no option. -/
theorem take_eq_ok {argument : Text} (value : ¬ isOption argument) {e : Draft}
    (taken : d.take argument = .ok e) :
    e.isAwaiting = false ∧
      e.operand?.toList = d.operand?.toList ++ if d.isAwaiting then [] else [argument] := by
  rw [take_value d value] at taken
  unfold takeValue at taken
  split at taken
  case h_1 awaiting =>
    cases taken
    have awaits : d.isAwaiting = true := decide_eq_true awaiting
    rw [awaits, if_pos rfl, List.append_nil]
    exact ⟨rfl, by simp [operand?, awaiting]⟩
  case h_2 =>
    obtain ⟨notAwaiting, absent, taken, after⟩ := d.takeOperand_eq_ok taken
    refine ⟨after, ?_⟩
    rw [taken, absent, notAwaiting]
    rfl

/-- What follows `--` are operands. -/
theorem takeAll_operands {arguments : List Text} {e : Draft}
    (taken : d.takeAll true arguments = .ok e) :
    e.operand.toList = d.operand?.toList ++ arguments := by
  induction arguments generalizing d with
  | nil =>
    obtain ⟨-, operand, -⟩ := settle_eq_ok taken
    rw [operand, List.append_nil]
  | cons argument arguments ih =>
    rw [takeAll_operand] at taken
    obtain ⟨f, first, rest⟩ := Except.bind_eq_ok.mp taken
    obtain ⟨-, absent, operand, -⟩ := d.takeOperand_eq_ok first
    rw [ih f rest, operand, absent]
    rfl

/-- The operand that has been read in the end is the only one among those read before and those that
were still to be read. -/
theorem takeAll_eq_ok {arguments : List Text} {e : Draft}
    (taken : d.takeAll false arguments = .ok e) :
    e.operand.toList = d.operand?.toList ++ operandsFrom d.isAwaiting arguments := by
  induction arguments generalizing d with
  | nil =>
    obtain ⟨-, operand, -⟩ := settle_eq_ok taken
    rw [operand, operandsFrom, List.append_nil]
  | cons argument arguments ih =>
    unfold operandsFrom
    by_cases ended : argument = optionsEnd
    · rw [if_pos ended]
      rw [ended, takeAll_end] at taken
      exact d.takeAll_operands taken
    rw [if_neg ended]
    rw [takeAll_cons d ended] at taken
    obtain ⟨f, first, rest⟩ := Except.bind_eq_ok.mp taken
    rw [ih f rest]
    by_cases option : isOption argument
    · obtain ⟨-, kept, awaits⟩ := d.take_takesOption option f first
      rw [if_pos option, kept, awaits]
    · obtain ⟨after, operands⟩ := d.take_eq_ok option first
      rw [if_neg option, operands, after]
      cases d.isAwaiting
      · exact List.append_assoc _ _ _
      · rw [if_pos rfl, if_pos rfl, List.append_nil]

end Draft

/-- An accepted command line has one operand at most, which is the input. -/
theorem read_operands {arguments : List Text} {o : Options} (accepts : read arguments = .ok o) :
    ∃ operand : Option Text, operands arguments = operand.toList ∧
      o.input = operand.getD Options.standardInput := by
  obtain ⟨e, taken, rfl⟩ := Except.map_eq_ok.mp accepts
  refine ⟨e.operand, ?_, rfl⟩
  rw [Draft.takeAll_eq_ok {} taken]
  rfl

end Chatdown.Arguments
