import Chatdown.Proofs.Json.Layers
import Chatdown.Proofs.Message.RoundTrip

/-! # The depth of decoded messages

The form of a block that is read, be it an object or an array, is at least as deep as the object
that is written for the block, and so is the form in which its members are kept. A reader that is
deep enough for a message is therefore deep enough for the same message as it is written.
-/

namespace Chatdown

open Json (Tree Element Member Error AreLayered HaveLayers nesting nestings memberNestings)

namespace MessageBlock

/-! ## Blocks that have been kept -/

namespace Draft

private theorem blocks_of_setLanguage {d next : Draft} {v : Json}
    (set : d.setLanguage v = .ok next) :
    next.blocks = d.blocks := by
  unfold setLanguage at set
  split at set
  · cases set
  · obtain ⟨language, -, rfl⟩ := Except.map_eq_ok.mp set
    rfl

private theorem blocks_of_setValue {d next : Draft} {v : Json} (set : d.setValue v = .ok next) :
    next.blocks = d.blocks := by
  unfold setValue at set
  split at set
  · cases set
  · obtain ⟨value, -, rfl⟩ := Except.map_eq_ok.mp set
    rfl

/-- The blocks that have been read are less deep than `n`. -/
def IsWithin (n : Nat) (d : Draft) : Prop := ∀ bs, d.blocks = some bs → nestings (toJsons bs) < n

private theorem isWithin_empty (n : Nat) : IsWithin n {} := fun _ same => nomatch same

private theorem nesting_le_of_finish {d : Draft} {n : Nat} (within : d.IsWithin n) {k : Kind}
    {b : MessageBlock} (finished : d.finish k = .ok b) : b.toJson.nesting ≤ n + 1 := by
  cases k with
  | text =>
    simp only [finish] at finished
    split at finished
    · cases finished
      rw [nesting_text]
      omega
    · cases finished
  | code =>
    simp only [finish] at finished
    split at finished
    · cases finished
      rw [nesting_code]
      omega
    · cases finished
  | bullets =>
    simp only [finish] at finished
    split at finished
    · rename_i bs read
      cases finished
      have inside := within bs read
      rw [nesting_bullets]
      omega
    · cases finished

end Draft

/-- A member that is read leaves the blocks of a draft as they are, or its value gives them. -/
theorem exists_of_ofMembers_cons {k : Kind} {d : Draft} {key : Text} {v : Json}
    {ms : List (Text × Json)} {b : MessageBlock} (read : ofMembers k d ((key, v) :: ms) = .ok b) :
    ∃ next : Draft, ofMembers k next ms = .ok b ∧
      (next.blocks = d.blocks ∨ ∃ bs, listOfJson v = .ok bs ∧ next.blocks = some bs) := by
  simp only [ofMembers] at read
  split at read
  · cases read
  · rename_i next step
    refine ⟨next, read, ?_⟩
    cases k with
    | text =>
      simp only at step
      split at step
      · exact .inl (Draft.blocks_of_setValue step)
      · cases step
        exact .inl rfl
    | code =>
      simp only at step
      split at step
      · exact .inl (Draft.blocks_of_setLanguage step)
      · split at step
        · exact .inl (Draft.blocks_of_setValue step)
        · cases step
          exact .inl rfl
    | bullets =>
      simp only at step
      split at step
      · split at step
        · cases step
        · obtain ⟨bs, listed, rfl⟩ := Except.map_eq_ok.mp step
          exact .inr ⟨bs, listed, rfl⟩
      · cases step
        exact .inl rfl

private theorem eq_of_atMost {k : Kind} {count : Nat} {more : List Json} {b other : MessageBlock}
    (counted : atMost k count more b = .ok other) : other = b := by
  unfold atMost at counted
  split at counted
  · cases counted
    rfl
  · cases counted

mutual

/-- A block is not deeper than what has been kept of it. -/
theorem nesting_le_of_ofJson : ∀ (v : Json) {b : MessageBlock}, ofJson v = .ok b →
    b.toJson.nesting ≤ v.nesting
  | .object ms, b, read => by
    simp only [ofJson] at read
    split at read
    · cases read
    · exact nesting_le_of_ofMembers ms (Draft.isWithin_empty _) (Nat.le_refl _) read
  | .array [], _, read => by
    cases read
  | .array (v :: vs), b, read => by
    simp only [ofJson] at read
    split at read
    · cases read
    · have inside := nesting_le_of_ofElements vs read
      simp only [nesting, nestings]
      omega
  | .null, _, read => by cases read
  | .bool _, _, read => by cases read
  | .integer _, _, read => by cases read
  | .float _ _, _, read => by cases read
  | .string _, _, read => by cases read

private theorem nesting_le_of_ofMembers : ∀ (ms : List (Text × Json)) {k : Kind} {d : Draft}
    {b : MessageBlock} {n : Nat}, d.IsWithin n → memberNestings ms ≤ n →
      ofMembers k d ms = .ok b → b.toJson.nesting ≤ n + 1
  | [], _, _, _, _, within, _, read => by
    rw [ofMembers] at read
    exact Draft.nesting_le_of_finish within read
  | (_, v) :: ms, _, d, _, n, within, bounded, read => by
    obtain ⟨next, read, same | ⟨bs, listed, same⟩⟩ := exists_of_ofMembers_cons read
    · have kept : next.IsWithin n := by
        intro bs found
        exact within bs (same ▸ found)
      exact nesting_le_of_ofMembers ms kept (Nat.max_le.mp bounded).2 read
    · have inside := nestings_lt_of_listOfJson v listed
      have kept : next.IsWithin n := by
        intro others found
        obtain rfl : bs = others := Option.some.inj (same.symm.trans found)
        exact Nat.lt_of_lt_of_le inside (Nat.max_le.mp bounded).1
      exact nesting_le_of_ofMembers ms kept (Nat.max_le.mp bounded).2 read

private theorem nesting_le_of_ofElements : ∀ (vs : List Json) {k : Kind} {b : MessageBlock},
    ofElements k vs = .ok b → b.toJson.nesting ≤ nestings vs + 1
  | [], k, _, read => by
    cases k <;> cases read
  | v :: vs, .text, _, read => by
    simp only [ofElements] at read
    obtain ⟨value, -, counted⟩ := Except.bind_eq_ok.mp read
    obtain rfl := eq_of_atMost counted
    rw [nesting_text]
    omega
  | v :: vs, .bullets, _, read => by
    simp only [ofElements] at read
    obtain ⟨bs, listed, counted⟩ := Except.bind_eq_ok.mp read
    obtain rfl := eq_of_atMost counted
    have inside := nestings_lt_of_listOfJson v listed
    rw [nesting_bullets, nestings]
    omega
  | [v], .code, _, read => by
    simp only [ofElements] at read
    obtain ⟨language, -, missing⟩ := Except.bind_eq_ok.mp read
    cases missing
  | v :: w :: vs, .code, _, read => by
    simp only [ofElements] at read
    obtain ⟨language, -, read⟩ := Except.bind_eq_ok.mp read
    obtain ⟨value, -, counted⟩ := Except.bind_eq_ok.mp read
    obtain rfl := eq_of_atMost counted
    rw [nesting_code]
    omega

private theorem nestings_lt_of_listOfJson : ∀ (v : Json) {bs : List MessageBlock},
    listOfJson v = .ok bs → nestings (toJsons bs) < v.nesting
  | .array vs, _, read => by
    rw [listOfJson] at read
    exact Nat.lt_succ_of_le (nestings_le_of_ofJsons vs read)
  | .object _, _, read => by cases read
  | .null, _, read => by cases read
  | .bool _, _, read => by cases read
  | .integer _, _, read => by cases read
  | .float _ _, _, read => by cases read
  | .string _, _, read => by cases read

private theorem nestings_le_of_ofJsons : ∀ (vs : List Json) {bs : List MessageBlock},
    ofJsons vs = .ok bs → nestings (toJsons bs) ≤ nestings vs
  | [], _, read => by
    cases read
    exact Nat.le_refl 0
  | v :: vs, _, read => by
    simp only [ofJsons] at read
    split at read
    · cases read
    · rename_i b first
      obtain ⟨others, rest, rfl⟩ := Except.map_eq_ok.mp read
      have head := nesting_le_of_ofJson v first
      have tail := nestings_le_of_ofJsons vs rest
      simp only [toJsons, nestings]
      omega

end

/-! ## Blocks in trees -/

/-- The members that are kept until the kind is known are less deep than the reader. -/
theorem memberNestings_le_of_splitMembers {depth : Nat} {members : List Member}
    (layered : HaveLayers members) {found : Option Kind} {kept : Option Kind × List (Text × Json)}
    (split : splitMembers depth found members = .ok kept) : memberNestings kept.2 ≤ depth := by
  induction members generalizing found kept with
  | nil =>
    cases split
    exact Nat.zero_le depth
  | cons member members ih =>
    obtain ⟨key, afterKey, tree⟩ := member
    cases key with
    | error e => cases split
    | ok key =>
      simp only [splitMembers] at split
      split at split
      · split at split
        · cases split
        · split at split
          · cases split
          · exact ih layered.2 split
      · split at split
        · cases split
        · rename_i v first
          obtain ⟨others, rest, rfl⟩ := Except.map_eq_ok.mp split
          have head := Tree.nesting_le_of_value tree layered.1 first
          exact Nat.max_le.mpr ⟨head, ih layered.2 rest⟩

/-- A block is not deeper than its reader. -/
theorem nesting_le_of_ofTree {depth : Nat} {tree : Tree} (layered : tree.IsLayered)
    {b : MessageBlock} (read : ofTree depth tree = .ok b) : b.toJson.nesting ≤ depth := by
  cases tree with
  | scalar value stop => cases read
  | fault f => cases read
  | object start peeked members ending =>
    cases depth with
    | zero => cases read
    | succ depth =>
      simp only [ofTree] at read
      split at read
      · cases read
      · cases read
      · cases read
      · rename_i k ms _ kept
        have bounded := memberNestings_le_of_splitMembers layered kept
        rw [Except.mapError_eq_ok] at read
        exact nesting_le_of_ofMembers ms (Draft.isWithin_empty depth) bounded read
  | array start peeked elements ending =>
    cases depth with
    | zero => cases read
    | succ depth =>
      simp only [ofTree] at read
      split at read
      · cases read
      · cases read
      · split at read
        · cases read
        · split at read
          · cases read
          · cases read
          · rename_i vs _ kept
            have bounded := Tree.nestings_le_of_elementValues _ layered.2 kept
            rw [Except.mapError_eq_ok] at read
            exact Nat.le_trans (nesting_le_of_ofElements vs read) (Nat.succ_le_succ bounded)

private theorem nestings_le_of_ofTreeElements {depth : Nat} {elements : List Element}
    (layered : AreLayered elements) {bs : List MessageBlock}
    (read : ofTreeElements depth elements = .ok bs) : nestings (toJsons bs) ≤ depth := by
  induction elements generalizing bs with
  | nil =>
    cases read
    exact Nat.zero_le depth
  | cons element elements ih =>
    obtain ⟨tree, closing⟩ := element
    simp only [ofTreeElements] at read
    split at read
    · cases read
    · rename_i b first
      obtain ⟨others, rest, rfl⟩ := Except.map_eq_ok.mp read
      have head := nesting_le_of_ofTree layered.1 first
      exact Nat.max_le.mpr ⟨head, ih layered.2 rest⟩

private theorem nestings_lt_of_listOfTree {depth : Nat} {tree : Tree} (layered : tree.IsLayered)
    {bs : List MessageBlock} (read : listOfTree depth tree = .ok bs) :
    nestings (toJsons bs) < depth := by
  cases tree with
  | scalar value stop => cases read
  | fault f => cases read
  | object start peeked members ending => cases read
  | array start peeked elements ending =>
    cases depth with
    | zero => cases read
    | succ depth =>
      cases inside : ofTreeElements depth elements with
      | error e => simp only [listOfTree, inside, reduceCtorEq] at read
      | ok others =>
        cases ending with
        | error f => simp only [listOfTree, inside, reduceCtorEq] at read
        | ok stop =>
          simp only [listOfTree, inside, Except.ok.injEq] at read
          subst read
          exact Nat.lt_succ_of_le (nestings_le_of_ofTreeElements layered inside)

/-- A block that is decoded from a text is shallow enough to be read back. -/
theorem nesting_le_of_ofJsonText {t : Text} {b : MessageBlock} (read : ofJsonText t = .ok b) :
    b.toJson.nesting ≤ Json.depthLimit := by
  obtain ⟨tree, layered, read⟩ := Json.exists_isLayered_of_decode read
  exact nesting_le_of_ofTree layered read

end MessageBlock

namespace Message

/-- The blocks of a message that is an object come from the one member that has them. -/
theorem nestings_lt_of_readMembers {members : List Member} (layered : HaveLayers members)
    {found result : Option (List MessageBlock)}
    (within : ∀ bs ∈ found, nestings (MessageBlock.toJsons bs) < depth)
    (read : readMembers found members = .ok result) :
    ∀ bs ∈ result, nestings (MessageBlock.toJsons bs) < depth := by
  induction members generalizing found with
  | nil =>
    cases read
    exact within
  | cons member members ih =>
    obtain ⟨key, afterKey, tree⟩ := member
    cases key with
    | error e => cases read
    | ok key =>
      simp only [readMembers] at read
      split at read
      · split at read
        · cases read
        · split at read
          · cases read
          · rename_i bs listed
            have inside := MessageBlock.nestings_lt_of_listOfTree layered.1 listed
            refine ih layered.2 ?_ read
            rintro _ ⟨⟩
            exact inside
      · split at read
        · cases read
        · exact ih layered.2 within read

private theorem nestings_lt_of_ofTree {tree : Tree} (layered : tree.IsLayered) {m : Message}
    (read : ofTree tree = .ok m) : nestings (MessageBlock.toJsons m.blocks) < depth := by
  cases tree with
  | scalar value stop => cases read
  | fault f => cases read
  | object start peeked members ending =>
    simp only [ofTree] at read
    split at read
    · cases read
    · cases read
    · cases read
    · rename_i bs _ found
      cases read
      exact nestings_lt_of_readMembers layered (by rintro _ ⟨⟩) found bs rfl
  | array start peeked elements ending =>
    simp only [ofTree] at read
    split at read
    · cases read
    · cases read
    · split at read
      · cases read
      · cases read
      · rename_i listed _
        cases read
        exact MessageBlock.nestings_lt_of_listOfTree layered.1 listed

/-- A message that is decoded from a text is shallow enough to be read back. -/
theorem nesting_le_of_ofJsonText {t : Text} {m : Message} (read : ofJsonText t = .ok m) :
    m.toJson.nesting ≤ Json.depthLimit := by
  obtain ⟨tree, layered, read⟩ := Json.exists_isLayered_of_decode read
  have inside : nestings (MessageBlock.toJsons m.blocks) < Json.depthLimit - 1 :=
    nestings_lt_of_ofTree layered read
  rw [nesting_toJson]
  omega

end Message

end Chatdown
