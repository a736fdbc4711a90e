import Chatdown.Message.Decoding
import Chatdown.Proofs.Json.Members
import Chatdown.Proofs.Results

/-! # The members of a block

A block that is an object is made of its kind and of the values that the members of this kind have.
Both readers of blocks, the one that reads a text and the one that reads what has been kept, make it
in the same way: `toOption_ofTree` and `toOption_ofJson` differ in how a kind may be given and in
nothing else.
-/

namespace Chatdown.MessageBlock

open Json (Tree Element Member Error valuesOf readInto readOne nesting nestings memberNestings)

/-- The block of a kind that members make, where a draft holds what has been read before them. -/
def made (k : Kind) (d : Draft) (ms : List (Text × Json)) : Option MessageBlock :=
  let value := readInto (fun v => (textOf v).toOption) d.value (valuesOf "value".toList ms)
  match k with
  | .text => value.bind fun value => value.map text
  | .code =>
    let language := readInto (fun v => (optionalTextOf v).toOption) d.language
      (valuesOf "language".toList ms)
    language.bind fun language => value.bind fun value => value.map (code (language.getD none))
  | .bullets =>
    let blocks := readInto (fun v => (listOfJson v).toOption) d.blocks
      (valuesOf "blocks".toList ms)
    blocks.bind fun blocks => blocks.map bullets

private theorem made_nil (k : Kind) (d : Draft) : made k d [] = (d.finish k).toOption := by
  cases k with
  | text => cases value : d.value <;> simp [made, Draft.finish, value, Except.toOption]
  | code => cases value : d.value <;> simp [made, Draft.finish, value, Except.toOption]
  | bullets => cases blocks : d.blocks <;> simp [made, Draft.finish, blocks, Except.toOption]

/-- The keys of the members that blocks have besides their kind. -/
def memberKeys : List Text := ["language".toList, "value".toList, "blocks".toList]

/-- Only the values of the known keys matter. -/
theorem made_congr {ms others : List (Text × Json)}
    (same : ∀ key ∈ memberKeys, (valuesOf key ms).Perm (valuesOf key others)) (k : Kind)
    (d : Draft) : made k d ms = made k d others := by
  simp only [memberKeys, List.forall_mem_cons] at same
  obtain ⟨language, value, blocks, -⟩ := same
  cases k with
  | text => simp only [made, Json.readInto_perm _ value]
  | code => simp only [made, Json.readInto_perm _ language, Json.readInto_perm _ value]
  | bullets => simp only [made, Json.readInto_perm _ blocks]

/-- Reads a member into a draft, if the kind has it. -/
def Draft.take (k : Kind) (d : Draft) (key : Text) (v : Json) : Except Json.DataFault Draft :=
  match k with
  | .text => if key = "value".toList then d.setValue v else .ok d
  | .code =>
    if key = "language".toList then d.setLanguage v
    else if key = "value".toList then d.setValue v
    else .ok d
  | .bullets =>
    if key = "blocks".toList then
      match d.blocks with
      | some _ => .error (.duplicateField "blocks".toList)
      | none => (listOfJson v).map fun blocks => { d with blocks := some blocks }
    else .ok d

private theorem ofMembers_cons (k : Kind) (d : Draft) (key : Text) (v : Json)
    (ms : List (Text × Json)) :
    ofMembers k d ((key, v) :: ms) = (d.take k key v).bind fun next => ofMembers k next ms := by
  cases k
  all_goals
    rw [ofMembers]
    split
    · rename_i refused
      exact (congrArg (Except.bind · fun next => ofMembers _ next ms) refused).symm
    · rename_i taken
      exact (congrArg (Except.bind · fun next => ofMembers _ next ms) taken).symm

/-- A member goes to the place of its key before the members behind it do. -/
theorem made_cons (k : Kind) (d : Draft) (key : Text) (v : Json) (ms : List (Text × Json)) :
    made k d ((key, v) :: ms) = (d.take k key v).toOption.bind fun next => made k next ms := by
  cases k with
  | text =>
    by_cases isValue : key = "value".toList
    · simp only [made, Draft.take, Draft.setValue, Json.readInto_members, if_pos isValue]
      cases d.value with
      | some value => rfl
      | none => cases textOf v <;> rfl
    · simp only [made, Draft.take, Json.readInto_members, if_neg isValue]
      rfl
  | code =>
    by_cases isLanguage : key = "language".toList
    · have notValue : key ≠ "value".toList := by rw [isLanguage]; decide
      simp only [made, Draft.take, Draft.setLanguage, Json.readInto_members, if_pos isLanguage,
        if_neg notValue]
      cases d.language with
      | some language => rfl
      | none => cases optionalTextOf v <;> rfl
    · by_cases isValue : key = "value".toList
      · simp only [made, Draft.take, Draft.setValue, Json.readInto_members, if_neg isLanguage,
          if_pos isValue]
        cases d.value with
        | some value => exact Option.bind_fun_none _
        | none =>
          cases textOf v with
          | error f => exact Option.bind_fun_none _
          | ok value => rfl
      · simp only [made, Draft.take, Json.readInto_members, if_neg isLanguage, if_neg isValue]
        rfl
  | bullets =>
    by_cases isBlocks : key = "blocks".toList
    · simp only [made, Draft.take, Json.readInto_members, if_pos isBlocks]
      cases d.blocks with
      | some blocks => rfl
      | none => cases listOfJson v <;> rfl
    · simp only [made, Draft.take, Json.readInto_members, if_neg isBlocks]
      rfl

/-- The members of a block that has been kept make the block, in whatever order they stand. -/
theorem toOption_ofMembers (k : Kind) (d : Draft) (ms : List (Text × Json)) :
    (ofMembers k d ms).toOption = made k d ms := by
  induction ms generalizing d with
  | nil => rw [ofMembers, made_nil]
  | cons m ms ih =>
    obtain ⟨key, v⟩ := m
    rw [ofMembers_cons, made_cons]
    cases d.take k key v with
    | error f => rfl
    | ok next => exact ih next

/-! ## Kinds -/

def Kind.named? : Json → Option Kind
  | .string name => (ofName name).toOption
  | _ => none

/-- The kind that a value gives that has been kept: a name or a number. -/
def Kind.kept? (v : Json) : Option Kind := (Kind.ofJson v).toOption

/-- Reading a kind from a tree with places. -/
theorem Kind.toOption_ofTree {tree : Tree} {v : Json} (located : tree.Locates v) :
    (Kind.ofTree tree).toOption = Kind.named? v := by
  cases v with
  | string name =>
    obtain ⟨stop, rfl⟩ := located
    rw [Kind.ofTree, Kind.named?]
    cases ofName name <;> rfl
  | array vs =>
    obtain ⟨_, _, _, _, rfl, _⟩ := located
    rfl
  | object ms =>
    obtain ⟨_, _, _, _, rfl, _⟩ := located
    rfl
  | _ =>
    obtain ⟨_, rfl⟩ := located
    rfl

private theorem toOption_kindAmong (found : Option Kind) (ms : List (Text × Json)) :
    (kindAmong found ms).toOption =
      (readInto Kind.kept? found (valuesOf "type".toList ms)).bind id := by
  induction ms generalizing found with
  | nil => cases found <;> rfl
  | cons m ms ih =>
    obtain ⟨key, v⟩ := m
    by_cases isKind : key = "type".toList
    · simp only [kindAmong, Json.readInto_members, if_pos isKind]
      cases found with
      | some k => rfl
      | none =>
        simp only [Kind.kept?]
        cases Kind.ofJson v with
        | error f => rfl
        | ok k => exact ih (some k)
    · simp only [kindAmong, Json.readInto_members, if_neg isKind]
      exact ih found

/-- The members of a tree are taken apart into the kind and the other members. -/
theorem toOption_splitMembers {depth : Nat} (found : Option Kind) {members : List Member}
    {ms : List (Text × Json)} (located : Tree.MembersLocate members ms)
    (enough : memberNestings ms ≤ depth) :
    (splitMembers depth found members).toOption =
      (readInto Kind.named? found (valuesOf "type".toList ms)).map fun k =>
        (k, ms.filter (·.1 ≠ "type".toList)) := by
  induction ms generalizing found members with
  | nil =>
    obtain rfl := located
    rfl
  | cons m ms ih =>
    obtain ⟨key, v⟩ := m
    obtain ⟨afterKey, tree, others, rfl, locatedTree, located⟩ := located
    obtain ⟨shallow, enough⟩ := Nat.max_le.mp enough
    by_cases isKind : key = "type".toList
    · simp only [splitMembers, Json.readInto_members, if_pos isKind]
      rw [List.filter_cons_of_neg (by simpa using isKind)]
      cases found with
      | some k => rfl
      | none =>
        rw [← Kind.toOption_ofTree locatedTree]
        cases Kind.ofTree tree with
        | error e => rfl
        | ok k => exact ih (some k) located enough
    · have kept := (Tree.value_within v depth tree locatedTree).eq_ok shallow
      simp only [splitMembers, Json.readInto_members, if_neg isKind, kept]
      rw [List.filter_cons_of_pos (by simpa using isKind)]
      rw [Except.toOption_map, ih found located enough, Option.map_map]
      rfl

/-! ## Blocks -/

/-- The block that a value makes, where kinds are read in a given way. -/
def readBy (kind? : Json → Option Kind) : Json → Option MessageBlock
  | .object ms =>
    (readOne kind? (valuesOf "type".toList ms)).bind fun k => made k {} ms
  | .array (v :: vs) => (kind? v).bind fun k => (ofElements k vs).toOption
  | _ => none

/-- Of an object, only the values of the known keys matter. -/
theorem readBy_object_congr (kind? : Json → Option Kind) {ms others : List (Text × Json)}
    (same : ∀ key ∈ "type".toList :: memberKeys, (valuesOf key ms).Perm (valuesOf key others)) :
    readBy kind? (.object ms) = readBy kind? (.object others) := by
  rw [List.forall_mem_cons] at same
  simp only [readBy, Json.readOne_perm kind? same.1, made_congr same.2]

theorem toOption_ofJson (v : Json) : (ofJson v).toOption = readBy Kind.kept? v := by
  cases v with
  | object ms =>
    rw [ofJson, readBy, ← Json.readInto_none_bind_id, ← toOption_kindAmong]
    cases kindAmong none ms with
    | error f => rfl
    | ok k => exact toOption_ofMembers k {} ms
  | array vs =>
    cases vs with
    | nil => rfl
    | cons v vs =>
      rw [ofJson, readBy, Kind.kept?]
      cases Kind.ofJson v <;> rfl
  | _ => rfl

/-- A kind is no member of a block. -/
theorem made_filter (k : Kind) (d : Draft) (ms : List (Text × Json)) :
    made k d (ms.filter (·.1 ≠ "type".toList)) = made k d ms := by
  refine made_congr ?_ k d
  intro key known
  have other : "type".toList ≠ key := by
    rintro rfl
    exact absurd known (by decide)
  rw [Json.valuesOf_filter other]

private theorem toOption_ofTree {depth : Nat} {tree : Tree} {v : Json} (located : tree.Locates v)
    (enough : v.nesting ≤ depth) : (ofTree depth tree).toOption = readBy Kind.named? v := by
  cases v with
  | object ms =>
    obtain ⟨start, peeked, members, stop, rfl, located⟩ := located
    cases depth with
    | zero => exact absurd enough (Nat.not_succ_le_zero _)
    | succ depth =>
      have split := toOption_splitMembers none located (Nat.le_of_succ_le_succ enough)
      have whole : (ofTree (depth + 1) (.object start peeked members (.ok stop))).toOption =
          (splitMembers depth none members).toOption.bind fun pair =>
            pair.1.bind fun k => (ofMembers k {} pair.2).toOption := by
        cases kept : splitMembers depth none members with
        | error e =>
          simp only [ofTree, kept]
          rfl
        | ok pair =>
          obtain ⟨found, others⟩ := pair
          cases found with
          | none =>
            simp only [ofTree, kept]
            rfl
          | some k =>
            simp only [ofTree, kept]
            exact Except.toOption_mapError _ _
      rw [whole, split, readBy, ← Json.readInto_none_bind_id]
      simp only [Option.bind_map, Option.bind_assoc, toOption_ofMembers, made_filter,
        Function.comp_def, id]
  | array vs =>
    obtain ⟨_, peeked, elements, stop, rfl, located⟩ := located
    cases depth with
    | zero => exact absurd enough (Nat.not_succ_le_zero _)
    | succ depth =>
      cases vs with
      | nil =>
        obtain rfl := located
        rfl
      | cons v vs =>
        obtain ⟨tree, closing, others, rfl, locatedKind, located⟩ := located
        have shallow := (Nat.max_le.mp (Nat.le_of_succ_le_succ enough)).2
        have kept := (Tree.elementValues_within vs depth others located).eq_ok shallow
        rw [readBy, ← Kind.toOption_ofTree locatedKind, ofTree]
        cases Kind.ofTree tree with
        | error e => rfl
        | ok k =>
          simp only [kept]
          exact Except.toOption_mapError _ _
  | _ =>
    obtain ⟨_, rfl⟩ := located
    rfl

/-- The same for a text in which a value is written. -/
theorem toOption_ofJsonText {v : Json} (exact : v.IsExact) (shallow : v.nesting ≤ Json.depthLimit)
    {t : Text} (written : t ∈ v.writtenForms) :
    (ofJsonText t).toOption = readBy Kind.named? v := by
  obtain ⟨tree, located, decoded⟩ := Json.decode_writtenForms exact written
  rw [ofJsonText, decoded]
  exact toOption_ofTree located shallow

theorem ofJson_eq_ok {v : Json} {b : MessageBlock} :
    ofJson v = .ok b ↔ readBy Kind.kept? v = some b := by
  rw [← toOption_ofJson, Except.toOption_eq_some]

theorem ofJsonText_eq_ok {v : Json} (exact : v.IsExact) (shallow : v.nesting ≤ Json.depthLimit)
    {t : Text} (written : t ∈ v.writtenForms) {b : MessageBlock} :
    ofJsonText t = .ok b ↔ readBy Kind.named? v = some b := by
  rw [← toOption_ofJsonText exact shallow written, Except.toOption_eq_some]

end Chatdown.MessageBlock
