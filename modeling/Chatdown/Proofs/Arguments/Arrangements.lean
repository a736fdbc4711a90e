import Chatdown.Proofs.Arguments.Operands
import Mathlib.Algebra.GroupWithZero.Nat
import Mathlib.Data.List.Pairwise

/-! # Arguments in any order

A command line is made of parts: an operand, an option with its path, a flag. A part fills a place
that has to be free, whatever argument is still to be checked, and parts that fill different places
do not disturb each other. So the parts of a request may be arranged in any order, and the options
that are read are those that were asked for.
-/

namespace Chatdown.Arguments

/-- A path as it may stand among arguments: not empty, and not read as an option. -/
structure Path where
  text : Text
  ne_nil : text ≠ []
  notOption : isOption text = false
  deriving DecidableEq

theorem Path.ne_optionsEnd (path : Path) : path.text ≠ optionsEnd := by
  intro same
  have option := path.notOption
  rw [same] at option
  contradiction

/-- How the path of the list of managers is given: after the letter or the name of its option, or
attached to the name. -/
inductive ManagersForm where
  | letter
  | name
  | attached
  deriving DecidableEq

def ManagersForm.words (path : Text) : ManagersForm → List Text
  | letter => ["-m".toList, path]
  | name => ["--managers".toList, path]
  | attached => ["--managers=".toList ++ path]

/-- How more log output is asked for: by the name of its flag, or by its letter, which may be
repeated. -/
inductive VerboseForm where
  | name
  | letters (repeated : Nat)
  deriving DecidableEq

def VerboseForm.word : VerboseForm → Text
  | name => "--verbose".toList
  | letters repeated => '-' :: List.replicate (repeated + 1) 'v'

/-- How often a word asks for more log output. -/
def VerboseForm.count : VerboseForm → Nat
  | name => 1
  | letters repeated => repeated + 1

/-- Words of a command line that belong together. -/
inductive Part where
  | operand (path : Path)
  | managers (form : ManagersForm) (path : Path)
  | pretty
  | verbose (form : VerboseForm)
  deriving DecidableEq

namespace Part

def words : Part → List Text
  | operand path => [path.text]
  | managers form path => form.words path.text
  | pretty => [prettyFlag]
  | verbose form => [form.word]

/-- What a part adds to arguments that have been read and checked. -/
def addTo (d : Draft) : Part → Draft
  | operand path => { d with operand := some path.text }
  | managers _ path => { d with managers := some path.text }
  | pretty => { d with pretty := true }
  | verbose form => { d with verbosity := min (d.verbosity + form.count) Options.maxVerbosity }

/-- Tells that the place of a part has not been filled. -/
def HasPlace (d : Draft) : Part → Prop
  | operand _ => d.operand = none
  | managers .. => d.managers = none
  | pretty => d.pretty = false
  | verbose _ => True

/-- Tells that two parts do not need the same place. -/
def Apart : Part → Part → Prop
  | operand _, operand _ => False
  | managers .., managers .. => False
  | pretty, pretty => False
  | _, _ => True

theorem Apart.symm {p q : Part} (apart : p.Apart q) : q.Apart p := by
  cases p <;> cases q <;> exact apart

instance : Std.Symm Apart := ⟨fun _ _ => Apart.symm⟩

private theorem pending_addTo (part : Part) (d : Draft) : (part.addTo d).pending = d.pending := by
  cases part <;> rfl

/-- A part leaves the places of others as they are. -/
theorem Apart.hasPlace_addTo {p q : Part} (apart : p.Apart q) {d : Draft} (free : q.HasPlace d) :
    q.HasPlace (p.addTo d) := by
  cases p <;> cases q <;> first | exact free | exact apart.elim

/-- Parts that are apart may be added in either order. -/
theorem Apart.addTo_comm {p q : Part} (apart : p.Apart q) (d : Draft) :
    q.addTo (p.addTo d) = p.addTo (q.addTo d) := by
  cases p with
  | verbose form =>
    cases q with
    | verbose other =>
      -- Two counts have the same sum in either order, and are cut off at the same place.
      simp only [addTo, Draft.mk.injEq, true_and, and_true]
      omega
    | _ => rfl
  | _ => cases q <;> first | rfl | exact apart.elim

end Part

namespace Draft

/-- The path of the list of managers that has been read, be it checked or not. -/
def managers? (d : Draft) : Option Text :=
  match d.pending with
  | some (.managers path) => path
  | _ => d.managers

/-- The arguments that have been read, as they are once all of them are checked. -/
def settled (d : Draft) : Draft :=
  { d with operand := d.operand?, managers := d.managers?, pending := none }

/-- Tells that what has not been checked passes its check. -/
def Settles (d : Draft) : Prop := d.settle = .ok d.settled

variable {d : Draft}

private theorem settled_of_pending (checked : d.pending = none) : d.settled = d := by
  cases d
  cases checked
  rfl

private theorem settles_of_pending (checked : d.pending = none) : d.Settles := by
  rw [Settles, settled_of_pending checked, settle, checked]

private theorem settles_operand (d : Draft) (path : Path) :
    Settles { d with pending := some (.operand path.text) } := by
  rw [Settles, settle]
  exact if_neg path.ne_nil

private theorem setManagers_eq (path : Path) (free : d.managers = none) :
    d.setManagers path.text = .ok { d with managers := some path.text } := by
  rw [setManagers, free, if_neg (by simp), if_neg path.ne_nil]

private theorem settles_managers (path : Path) (free : d.managers = none) :
    Settles { d with pending := some (.managers (some path.text)) } := by
  rw [Settles, settle]
  exact setManagers_eq (d := { d with pending := none }) path free

/-- An operand waits for its check, whatever was waiting before. -/
theorem take_operand (settles : d.Settles) (path : Path) (free : d.operand? = none) :
    d.take path.text = .ok { d.settled with pending := some (.operand path.text) } := by
  obtain ⟨notAwaiting, -, -⟩ := settle_eq_ok settles
  rw [take_value d (by simp [path.notOption]), takeValue]
  split
  case h_1 awaiting => simp [isAwaiting, awaiting] at notAwaiting
  case h_2 =>
    unfold operand? at free
    split at free
    case h_1 => contradiction
    case h_2 other =>
      unfold takeOperand
      split
      case h_1 given =>
        rw [given] at free
        contradiction
      case h_2 given => exact absurd given (other _)
      case h_3 =>
        rw [settles]
        rfl

/-- A path that is attached to its option is checked at once. -/
theorem take_attached (settles : d.Settles) (path : Path) (free : d.managers? = none) :
    d.take ("--managers=".toList ++ path.text) =
      .ok ((Part.managers .attached path).addTo d.settled) := by
  change d.takeManagers (some path.text) = _
  rw [takeManagers, settles]
  exact setManagers_eq path free

private theorem takeManagers_awaiting (settles : d.Settles) :
    d.takeManagers none = .ok { d.settled with pending := some (.managers none) } := by
  rw [takeManagers, settles]
  rfl

/-- The path that an option waits for is taken as it is. -/
theorem take_awaited (d : Draft) (path : Path) :
    Draft.take { d with pending := some (.managers none) } path.text =
      .ok { d with pending := some (.managers (some path.text)) } := by
  rw [take_value _ (by simp [path.notOption]), takeValue]

private theorem take_prettyFlag (settles : d.Settles) (free : d.pretty = false) :
    d.take prettyFlag = .ok (Part.pretty.addTo d.settled) := by
  have unasked : d.settled.pretty = false := free
  change d.takePretty = _
  rw [takePretty, settles, Except.bind, unasked, if_neg Bool.false_ne_true]
  rfl

private theorem takeVerbose_eq (settles : d.Settles) :
    d.takeVerbose = .ok ((Part.verbose .name).addTo d.settled) := by
  rw [takeVerbose, settles]
  rfl

private theorem takeShort_verbose (settles : d.Settles) (rest : Text) :
    d.takeShort ('v' :: rest) = ((Part.verbose .name).addTo d.settled).takeShort rest := by
  rw [takeShort, if_neg (by decide), if_pos rfl, takeVerbose_eq settles]

/-- Each letter counts; what was waiting is checked at the first of them. -/
theorem takeShort_letters (settles : d.Settles) (repeated : Nat) :
    d.takeShort (List.replicate (repeated + 1) 'v') =
      .ok ((Part.verbose (.letters repeated)).addTo d.settled) := by
  induction repeated generalizing d with
  | zero => exact takeShort_verbose settles []
  | succ repeated ih =>
    rw [List.replicate_succ, takeShort_verbose settles, ih (settles_of_pending rfl),
      settled_of_pending rfl]
    simp only [Part.addTo, VerboseForm.count, Except.ok.injEq, mk.injEq, true_and, and_true]
    omega

private theorem takeAll_taken {argument : Text} (goesOn : argument ≠ optionsEnd) {e : Draft}
    (taken : d.take argument = .ok e) (arguments : List Text) :
    d.takeAll false (argument :: arguments) = e.takeAll false arguments := by
  rw [takeAll_cons d goesOn, taken]
  rfl

/-- A word that is a part by itself and is checked at once. -/
theorem takeAll_checked {word : Text} (goesOn : word ≠ optionsEnd) {part : Part}
    (taken : d.take word = .ok (part.addTo d.settled)) (rest : List Text) :
    ∃ e : Draft, d.takeAll false (word :: rest) = e.takeAll false rest ∧ e.Settles ∧
      e.settled = part.addTo d.settled := by
  have checked : (part.addTo d.settled).pending = none := part.pending_addTo d.settled
  exact ⟨part.addTo d.settled, takeAll_taken goesOn taken rest, settles_of_pending checked,
    settled_of_pending checked⟩

/-- An option with the path after it. -/
theorem takeAll_awaited (settles : d.Settles) {word : Text} (goesOn : word ≠ optionsEnd)
    (option : d.take word = d.takeManagers none) (path : Path) (free : d.managers? = none)
    (rest : List Text) :
    ∃ e : Draft, d.takeAll false (word :: path.text :: rest) = e.takeAll false rest ∧ e.Settles ∧
      e.settled = { d.settled with managers := some path.text } := by
  have awaits := option.trans (takeManagers_awaiting settles)
  refine ⟨{ d.settled with pending := some (.managers (some path.text)) }, ?_,
    settles_managers path free, rfl⟩
  rw [takeAll_taken goesOn awaits, takeAll_taken path.ne_optionsEnd (take_awaited d.settled path)]

/-- The words of a part are taken if there is a place for it. -/
theorem takeAll_part (settles : d.Settles) {part : Part} (free : part.HasPlace d.settled)
    (rest : List Text) :
    ∃ e : Draft, d.takeAll false (part.words ++ rest) = e.takeAll false rest ∧ e.Settles ∧
      e.settled = part.addTo d.settled := by
  cases part with
  | operand path =>
    refine ⟨{ d.settled with pending := some (.operand path.text) }, ?_,
      settles_operand d.settled path, rfl⟩
    exact takeAll_taken path.ne_optionsEnd (take_operand settles path free) rest
  | managers form path =>
    cases form with
    | letter => exact takeAll_awaited settles (by decide) rfl path free rest
    | name => exact takeAll_awaited settles (by decide) rfl path free rest
    | attached =>
      refine takeAll_checked ?_ (take_attached settles path free) rest
      rintro ⟨⟩
  | pretty => exact takeAll_checked (by decide) (take_prettyFlag settles free) rest
  | verbose form =>
    cases form with
    | name =>
      have taken : d.take "--verbose".toList = _ := takeVerbose_eq settles
      exact takeAll_checked (by decide) taken rest
    | letters repeated =>
      have taken : d.take ('-' :: List.replicate (repeated + 1) 'v') = _ :=
        takeShort_letters settles repeated
      refine takeAll_checked ?_ taken rest
      rintro ⟨⟩

/-- Parts for different places are taken one after another. -/
theorem takeAll_parts {parts : List Part} (settles : d.Settles) (apart : parts.Pairwise Part.Apart)
    (free : ∀ part ∈ parts, part.HasPlace d.settled) :
    d.takeAll false (parts.flatMap Part.words) = .ok (parts.foldl Part.addTo d.settled) := by
  induction parts generalizing d with
  | nil => exact settles
  | cons part parts ih =>
    obtain ⟨others, apart⟩ := List.pairwise_cons.mp apart
    obtain ⟨e, taken, alsoSettles, settled⟩ :=
      takeAll_part settles (free part (List.mem_cons_self ..)) (parts.flatMap Part.words)
    have stillFree : ∀ other ∈ parts, other.HasPlace e.settled := by
      intro other member
      rw [settled]
      exact (others other member).hasPlace_addTo (free other (List.mem_cons_of_mem part member))
    rw [List.flatMap_cons, taken, ih alsoSettles apart stillFree, settled, List.foldl_cons]

end Draft

/-- What a command line may ask for: an operand, a list of managers, pretty output, and more log
output any number of times. -/
structure Request where
  operand : Option Path
  managers : Option (ManagersForm × Path)
  pretty : Bool
  verbose : List VerboseForm

namespace Request

def parts (request : Request) : List Part :=
  request.operand.toList.map .operand ++
    (request.managers.toList.map fun (form, path) => .managers form path) ++
    (if request.pretty then [.pretty] else []) ++ request.verbose.map .verbose

def options (request : Request) : Options where
  input := (request.operand.map Path.text).getD Options.standardInput
  managers := request.managers.map fun (_, path) => path.text
  pretty := request.pretty
  verbosity := min (request.verbose.map VerboseForm.count).sum Options.maxVerbosity

private theorem parts_apart (request : Request) : request.parts.Pairwise Part.Apart := by
  have flags : (request.verbose.map Part.verbose).Pairwise Part.Apart := by
    rw [List.pairwise_map]
    exact List.pairwise_of_forall fun _ _ => trivial
  obtain ⟨operand, managers, pretty, verbose⟩ := request
  cases operand <;> cases managers <;> cases pretty <;> simp [parts, Part.Apart, flags]

private theorem foldl_verbose (forms : List VerboseForm) {d : Draft}
    (within : d.verbosity ≤ Options.maxVerbosity) :
    (forms.map Part.verbose).foldl Part.addTo d =
      { d with
        verbosity :=
          min (d.verbosity + (forms.map VerboseForm.count).sum) Options.maxVerbosity } := by
  induction forms generalizing d with
  | nil => simp [Nat.min_eq_left within]
  | cons form forms ih =>
    rw [List.map_cons, List.foldl_cons, ih (Nat.min_le_right _ _)]
    simp only [Part.addTo, List.map_cons, List.sum_cons, Draft.mk.injEq, true_and, and_true]
    omega

private theorem options_foldl (request : Request) :
    (request.parts.foldl Part.addTo {}).options = request.options := by
  obtain ⟨operand, managers, pretty, verbose⟩ := request
  rw [parts, List.foldl_append]
  cases operand <;> cases managers <;> cases pretty <;>
    simp [foldl_verbose, Part.addTo, Draft.options, options]

end Request

/-- However the parts of a request are arranged, the command line is accepted, and its options are
those that are asked for. -/
theorem read_arranged (request : Request) {arrangement : List Part}
    (arranged : arrangement.Perm request.parts) :
    read (arrangement.flatMap Part.words) = .ok request.options := by
  have apart : arrangement.Pairwise Part.Apart :=
    request.parts_apart.perm arranged.symm Part.Apart.symm
  have free : ∀ part ∈ arrangement, part.HasPlace (Draft.settled {}) := by
    rintro (path | ⟨form, path⟩ | _ | form) _ <;> trivial
  have taken := Draft.takeAll_parts (Draft.settles_of_pending rfl) apart free
  have sameDraft : arrangement.foldl Part.addTo {} = request.parts.foldl Part.addTo {} := by
    refine arranged.foldl_eq' ?_ ({} : Draft)
    intro p first q second d
    by_cases same : p = q
    · rw [same]
    · exact (apart.forall first second same).addTo_comm d
  rw [read, taken, Except.map, ← request.options_foldl, ← sameDraft]
  rfl

/-- The count of flags ends at 255, a hyphen may be the operand, and a path may begin with `=`. -/
theorem read_arranged_saturated :
    let request : Request :=
      ⟨some ⟨['-'], by decide, by decide⟩, some (.attached, ⟨"=a".toList, by decide, by decide⟩),
        true, [.letters 199, .name, .letters 99]⟩
    let arrangement : List Part :=
      [.verbose (.letters 99), .managers .attached ⟨"=a".toList, by decide, by decide⟩,
        .verbose .name, .operand ⟨['-'], by decide, by decide⟩, .pretty, .verbose (.letters 199)]
    arrangement.Perm request.parts ∧
      read (arrangement.flatMap Part.words) = .ok ⟨['-'], some "=a".toList, true, 255⟩ := by
  intro request arrangement
  have arranged : arrangement.Perm request.parts := by decide
  exact ⟨arranged, read_arranged request arranged⟩

end Chatdown.Arguments
