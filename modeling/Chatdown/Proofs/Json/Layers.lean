import Chatdown.Proofs.Json.Nesting
import Chatdown.Proofs.Results

/-! # Layers of trees

Each container of a value that is read is a container of the tree that it is read from. A tree could
hide some in what it keeps as a scalar, but the tokens of a text have no such scalars, and reading
them one by one puts trees together that have none either: `isLayered_ofText`. The depth of a reader
therefore bounds the nesting of what it reads.
-/

namespace Chatdown

namespace Json

/-- A result that is no container. -/
def IsFlat {ε : Type} : Except ε Json → Prop
  | .ok v => v.nesting = 0
  | .error _ => True

namespace NumberScan

private theorem nesting_ofInteger (negative : Bool) (n : Nat) :
    (ofInteger negative n).nesting = 0 := by
  rw [ofInteger]
  split
  · rfl
  · split <;> rfl

private theorem isFlat_ofDecimal (size : Nat) (negative : Bool) (significand : Nat)
    (exponent : Int) :
    IsFlat (ofDecimal size negative significand exponent) := by
  rw [ofDecimal]
  split
  · rfl
  · trivial

private theorem isFlat_ofParts (size : Nat) (negative : Bool) (whole fraction : Text)
    (exponent : Option (Bool × Text)) : IsFlat (ofParts size negative whole fraction exponent) := by
  simp only [ofParts]
  split
  · split
    · exact nesting_ofInteger negative _
    · exact isFlat_ofDecimal ..
  · split
    · exact isFlat_ofDecimal ..
    · split
      · trivial
      · rfl

/-- A scan in which a number, if there is one, is no container. -/
def IsFlat : NumberScan → Prop
  | malformed _ => True
  | complete _ value => Json.IsFlat value

private theorem isFlat_readExponent (size : Nat) (negative : Bool) (whole fraction t : Text) :
    (readExponent size negative whole fraction t).IsFlat := by
  cases t with
  | nil => exact isFlat_ofParts ..
  | cons c t =>
    simp only [readExponent]
    split
    · split
      · trivial
      · exact isFlat_ofParts ..
    · exact isFlat_ofParts ..

private theorem isFlat_read (t : Text) : (read t).IsFlat := by
  unfold read
  extract_lets negative sign rest digits size
  split
  · trivial
  · split
    · trivial
    · split
      · extract_lets fraction
        split
        · trivial
        · exact isFlat_readExponent ..
      · exact isFlat_readExponent ..

end NumberScan

def TokenKind.IsFlat : TokenKind → Prop
  | .scalar value => Json.IsFlat value
  | _ => True

namespace Token

private theorem isFlat_readWord (word : Text) {value : Json} (flat : value.nesting = 0)
    (place : Place)
    (t : Text) : (readWord word value place t).1.IsFlat := by
  simp only [readWord]
  split
  · exact flat
  · trivial

private theorem isFlat_readNumber (place : Place) (t : Text) : (readNumber place t).1.IsFlat := by
  have flat := NumberScan.isFlat_read t
  rw [readNumber]
  split
  · rename_i scanned
    rwa [scanned] at flat
  · trivial
  · trivial

private theorem isFlat_readString (place : Place) (t : Text) : (readString place t).1.IsFlat := by
  simp only [readString]
  split <;> trivial

private theorem isFlat_ite {p : Prop} [Decidable p] {first second : TokenKind × Nat × Place}
    (flat : first.1.IsFlat) (otherwise : second.1.IsFlat) :
    (if p then first else second).1.IsFlat := by
  split
  · exact flat
  · exact otherwise

private theorem isFlat_readKind (place : Place) (c : Char) (t : Text) :
    (readKind place c t).1.IsFlat := by
  unfold readKind
  extract_lets ofSize
  -- Brackets, commas and colons hold nothing.
  iterate 6 refine isFlat_ite trivial ?_
  apply isFlat_ite (isFlat_readString place t)
  apply isFlat_ite (isFlat_readWord "null".toList rfl place (c :: t))
  apply isFlat_ite (isFlat_readWord "true".toList rfl place (c :: t))
  apply isFlat_ite (isFlat_readWord "false".toList rfl place (c :: t))
  exact isFlat_ite (isFlat_readNumber place (c :: t)) trivial

/-- No token of a text holds a container. -/
theorem isFlat_of_mem_scanFrom {place : Place} {skip : Nat} {t : Text} :
    ∀ token ∈ scanFrom place skip t, token.kind.IsFlat := by
  induction t generalizing place skip with
  | nil =>
    intro token member
    rw [scanFrom, List.mem_singleton] at member
    subst member
    trivial
  | cons c t ih =>
    cases skip with
    | succ skip => exact ih
    | zero =>
      rw [scanFrom]
      split
      · exact ih
      · intro token member
        rcases List.mem_cons.mp member with same | later
        · subst same
          exact isFlat_readKind place c t
        · exact ih token later

end Token

mutual

/-- A tree that has all containers of its value as containers. -/
def Tree.IsLayered : Tree → Prop
  | .scalar value _ => IsFlat value
  | .array _ _ elements _ => AreLayered elements
  | .object _ _ members _ => HaveLayers members
  | .fault _ => True

def AreLayered : List Element → Prop
  | [] => True
  | .mk tree _ :: elements => tree.IsLayered ∧ AreLayered elements

def HaveLayers : List Member → Prop
  | [] => True
  | .mk _ _ tree :: members => tree.IsLayered ∧ HaveLayers members

end

private theorem areLayered_append {elements others : List Element} :
    AreLayered (elements ++ others) ↔ AreLayered elements ∧ AreLayered others := by
  induction elements with
  | nil => simp only [List.nil_append, AreLayered, true_and]
  | cons element elements ih =>
    obtain ⟨tree, closing⟩ := element
    simp only [List.cons_append, AreLayered, ih, and_assoc]

private theorem areLayered_reverse {elements : List Element} (layered : AreLayered elements) :
    AreLayered elements.reverse := by
  induction elements with
  | nil => trivial
  | cons element elements ih =>
    obtain ⟨tree, closing⟩ := element
    rw [List.reverse_cons, areLayered_append]
    exact ⟨ih layered.2, layered.1, trivial⟩

private theorem haveLayers_append {members others : List Member} :
    HaveLayers (members ++ others) ↔ HaveLayers members ∧ HaveLayers others := by
  induction members with
  | nil => simp only [List.nil_append, HaveLayers, true_and]
  | cons member members ih =>
    obtain ⟨key, afterKey, tree⟩ := member
    simp only [List.cons_append, HaveLayers, ih, and_assoc]

private theorem haveLayers_reverse {members : List Member} (layered : HaveLayers members) :
    HaveLayers members.reverse := by
  induction members with
  | nil => trivial
  | cons member members ih =>
    obtain ⟨key, afterKey, tree⟩ := member
    rw [List.reverse_cons, haveLayers_append]
    exact ⟨ih layered.2, layered.1, trivial⟩

namespace Frame

/-- A container of which the part that has been read is layered. -/
def IsLayered : Frame → Prop
  | array _ _ elements => AreLayered elements
  | object _ _ members => HaveLayers members
  | member _ _ members _ _ => HaveLayers members

private theorem isLayered_add {frame : Frame} (layered : frame.IsLayered) {tree : Tree}
    (inside : tree.IsLayered) (rest : List Token) : (frame.add tree rest).IsLayered := by
  cases frame with
  | array start peeked elements => exact ⟨inside, layered⟩
  | object start peeked members => exact layered
  | member start peeked members key afterKey => exact ⟨inside, layered⟩

private theorem isLayered_close {frame : Frame} (layered : frame.IsLayered)
    (ending : Except Fault Place) : (frame.close ending).IsLayered := by
  cases frame with
  | array start peeked elements => exact areLayered_reverse layered
  | object start peeked members => exact haveLayers_reverse layered
  | member start peeked members key afterKey => exact haveLayers_reverse layered

end Frame

namespace Tree

private theorem isLayered_breakOff (f : Fault) {tree : Tree} (layered : tree.IsLayered)
    {frames : List Frame} (around : ∀ frame ∈ frames, frame.IsLayered) :
    (breakOff f tree frames).IsLayered := by
  induction frames generalizing tree with
  | nil => exact layered
  | cons frame frames ih =>
    rw [List.forall_mem_cons] at around
    exact ih (Frame.isLayered_close (Frame.isLayered_add around.1 layered []) (.error f)) around.2

private theorem isLayered_fault (f : Fault) : (fault f).IsLayered := trivial

private theorem isLayered_stop (f : Fault) (expected : Expected) {frames : List Frame}
    (around : ∀ frame ∈ frames, frame.IsLayered) : (stop f expected frames).IsLayered := by
  unfold stop
  split
  · exact isLayered_breakOff f (isLayered_fault f) around
  · exact isLayered_breakOff f (isLayered_fault f) around
  · exact isLayered_breakOff f (isLayered_fault f) around
  · trivial
  · rw [List.forall_mem_cons] at around
    exact isLayered_breakOff f (Frame.isLayered_close around.1 (.error f)) around.2

namespace State

/-- A state in which all that has been read is layered. -/
def IsLayered : State → Prop
  | reading _ frames => ∀ frame ∈ frames, frame.IsLayered
  | done tree => tree.IsLayered

variable {expected : Expected} {frames : List Frame} {token : Token} {rest : List Token}
  {next : State}

private theorem isLayered_afterValue {tree : Tree} (layered : tree.IsLayered)
    (around : ∀ frame ∈ frames, frame.IsLayered) (rest : List Token) :
    (afterValue tree frames rest).IsLayered := by
  cases frames with
  | nil => exact layered
  | cons frame frames =>
    rw [List.forall_mem_cons] at around
    exact List.forall_mem_cons.mpr ⟨Frame.isLayered_add around.1 layered rest, around.2⟩

private theorem isLayered_of_afterKey? {key : Except Error Text}
    (around : ∀ frame ∈ frames, frame.IsLayered) (read : afterKey? key frames rest = some next) :
    next.IsLayered := by
  unfold afterKey? at read
  split at read
  · cases read
    rw [List.forall_mem_cons] at around
    exact List.forall_mem_cons.mpr around
  · cases read

/-- The innermost container ends. -/
theorem isLayered_of_closed {frame : Frame} (around : ∀ other ∈ frame :: frames, other.IsLayered)
    (ending : Except Fault Place)
    (closed : some (afterValue (frame.close ending) frames rest) = some next) :
    next.IsLayered := by
  cases closed
  rw [List.forall_mem_cons] at around
  exact isLayered_afterValue (Frame.isLayered_close around.1 ending) around.2 rest

private theorem isLayered_of_step? (around : ∀ frame ∈ frames, frame.IsLayered)
    (flat : token.kind.IsFlat) (stepped : step? expected frames token rest = some next) :
    next.IsLayered := by
  cases kind : token.kind with
  | openArray =>
    simp only [step?, kind, Option.ite_none_right_eq_some] at stepped
    obtain ⟨-, ⟨⟩⟩ := stepped
    exact List.forall_mem_cons.mpr ⟨trivial, around⟩
  | openObject =>
    simp only [step?, kind, Option.ite_none_right_eq_some] at stepped
    obtain ⟨-, ⟨⟩⟩ := stepped
    exact List.forall_mem_cons.mpr ⟨trivial, around⟩
  | closeArray =>
    simp only [step?, kind] at stepped
    split at stepped
    · exact isLayered_of_closed around _ stepped
    · exact isLayered_of_closed around _ stepped
    · cases stepped
  | closeObject =>
    simp only [step?, kind] at stepped
    split at stepped
    · exact isLayered_of_closed around _ stepped
    · exact isLayered_of_closed around _ stepped
    · cases stepped
  | comma =>
    simp only [step?, kind] at stepped
    split at stepped
    · cases stepped
      exact around
    · cases stepped
      exact around
    · cases stepped
  | colon =>
    simp only [step?, kind, Option.ite_none_right_eq_some] at stepped
    obtain ⟨-, ⟨⟩⟩ := stepped
    exact around
  | string text =>
    simp only [step?, kind] at stepped
    split at stepped
    · exact isLayered_of_afterKey? around stepped
    · rw [Option.ite_none_right_eq_some] at stepped
      obtain ⟨-, ⟨⟩⟩ := stepped
      refine isLayered_afterValue ?_ around rest
      cases text with
      | ok text => rfl
      | error e => trivial
  | scalar value =>
    rw [kind] at flat
    simp only [step?, kind, Option.ite_none_right_eq_some] at stepped
    obtain ⟨-, ⟨⟩⟩ := stepped
    have layered : (Tree.scalar value token.stop).IsLayered := flat
    exact isLayered_afterValue layered around rest
  | brokenString f =>
    simp only [step?, kind] at stepped
    split at stepped
    · cases stepped
      exact isLayered_stop f expected around
    · rw [Option.ite_none_right_eq_some] at stepped
      obtain ⟨-, ⟨⟩⟩ := stepped
      exact isLayered_breakOff f (isLayered_fault f) around
  | brokenScalar f =>
    simp only [step?, kind, Option.ite_none_right_eq_some] at stepped
    obtain ⟨-, ⟨⟩⟩ := stepped
    exact isLayered_breakOff f (isLayered_fault f) around
  | stray => simp only [step?, kind, reduceCtorEq] at stepped
  | finish => simp only [step?, kind, reduceCtorEq] at stepped

/-- A token that holds no container keeps what has been read layered. -/
theorem isLayered_step (around : ∀ frame ∈ frames, frame.IsLayered) (flat : token.kind.IsFlat) :
    (step expected frames token rest).IsLayered := by
  unfold step
  split
  · rename_i stepped
    exact isLayered_of_step? around flat stepped
  · exact isLayered_stop _ expected around

/-- And so do all tokens together. -/
theorem isLayered_run {tokens : List Token} (flat : ∀ token ∈ tokens, token.kind.IsFlat)
    {state : State} (layered : state.IsLayered) : (run state tokens).1.IsLayered := by
  induction tokens generalizing state with
  | nil =>
    cases state with
    | done tree => exact layered
    | reading expected frames => exact isLayered_stop _ expected layered
  | cons token tokens ih =>
    cases state with
    | done tree => exact layered
    | reading expected frames =>
      rw [List.forall_mem_cons] at flat
      exact ih flat.2 (isLayered_step layered flat.1)

end State

private theorem isLayered_ofText (t : Text) : (ofText t).1.IsLayered := by
  refine State.isLayered_run Token.isFlat_of_mem_scanFrom ?_
  exact List.forall_mem_nil _

/-- An array is read if the depth is enough for it and its elements are read. -/
theorem exists_of_value_array {start peeked : Place} {elements : List Element}
    {ending : Except Fault Place} {depth : Nat} {v : Json}
    (read : (array start peeked elements ending).value depth = .ok v) :
    ∃ inner vs, depth = inner + 1 ∧ elementValues inner elements = .ok vs ∧ v = .array vs := by
  cases depth with
  | zero => cases read
  | succ depth =>
    cases kept : elementValues depth elements with
    | error e => simp only [value, kept, reduceCtorEq] at read
    | ok vs =>
      cases ending with
      | error f => simp only [value, kept, reduceCtorEq] at read
      | ok stop =>
        simp only [value, kept, Except.ok.injEq] at read
        exact ⟨depth, vs, rfl, kept, read.symm⟩

private theorem exists_of_value_object {start peeked : Place} {members : List Member}
    {ending : Except Fault Place} {depth : Nat} {v : Json}
    (read : (object start peeked members ending).value depth = .ok v) :
    ∃ inner ms, depth = inner + 1 ∧ memberValues inner members = .ok ms ∧ v = .object ms := by
  cases depth with
  | zero => cases read
  | succ depth =>
    cases kept : memberValues depth members with
    | error e => simp only [value, kept, reduceCtorEq] at read
    | ok ms =>
      cases ending with
      | error f => simp only [value, kept, reduceCtorEq] at read
      | ok stop =>
        simp only [value, kept, Except.ok.injEq] at read
        exact ⟨depth, ms, rfl, kept, read.symm⟩

mutual

/-- What a reader keeps is nested at most as deep as it reads. -/
theorem nesting_le_of_value : ∀ (tree : Tree), tree.IsLayered → ∀ {depth : Nat} {v : Json},
    tree.value depth = .ok v → v.nesting ≤ depth
  | .scalar value _, layered, depth, v, read => by
    rw [Tree.value] at read
    subst read
    exact layered ▸ Nat.zero_le depth
  | .fault _, _, _, _, read => by
    cases read
  | .array _ _ elements _, layered, _, _, read => by
    obtain ⟨inner, vs, rfl, kept, rfl⟩ := exists_of_value_array read
    exact Nat.succ_le_succ (nestings_le_of_elementValues elements layered kept)
  | .object _ _ members _, layered, _, _, read => by
    obtain ⟨inner, ms, rfl, kept, rfl⟩ := exists_of_value_object read
    exact Nat.succ_le_succ (memberNestings_le_of_memberValues members layered kept)

theorem nestings_le_of_elementValues : ∀ (elements : List Element), AreLayered elements →
    ∀ {depth : Nat} {vs : List Json}, elementValues depth elements = .ok vs →
      nestings vs ≤ depth
  | [], _, depth, _, read => by
    cases read
    exact Nat.zero_le depth
  | .mk tree _ :: elements, layered, depth, vs, read => by
    simp only [elementValues] at read
    split at read
    · cases read
    · rename_i v kept
      obtain ⟨others, keptOthers, rfl⟩ := Except.map_eq_ok.mp read
      exact Nat.max_le.mpr ⟨nesting_le_of_value tree layered.1 kept,
        nestings_le_of_elementValues elements layered.2 keptOthers⟩

private theorem memberNestings_le_of_memberValues : ∀ (members : List Member), HaveLayers members →
    ∀ {depth : Nat} {ms : List (Text × Json)}, memberValues depth members = .ok ms →
      memberNestings ms ≤ depth
  | [], _, depth, _, read => by
    cases read
    exact Nat.zero_le depth
  | .mk (.error _) _ _ :: _, _, _, _, read => by
    cases read
  | .mk (.ok key) _ tree :: members, layered, depth, ms, read => by
    simp only [memberValues] at read
    split at read
    · cases read
    · rename_i v kept
      obtain ⟨others, keptOthers, rfl⟩ := Except.map_eq_ok.mp read
      exact Nat.max_le.mpr ⟨nesting_le_of_value tree layered.1 kept,
        memberNestings_le_of_memberValues members layered.2 keptOthers⟩

end

end Tree

/-- What a text is decoded to comes from a tree without containers among its scalars. -/
theorem exists_isLayered_of_decode {α : Type} {decoder : Tree → Except Error α} {t : Text} {a : α}
    (decoded : decode decoder t = .ok a) : ∃ tree : Tree, tree.IsLayered ∧ decoder tree = .ok a := by
  refine ⟨(Tree.ofText t).1, Tree.isLayered_ofText t, ?_⟩
  simp only [decode] at decoded
  split at decoded
  · cases decoded
  · cases decoded
  · rename_i read _
    rwa [read]

end Json

end Chatdown
