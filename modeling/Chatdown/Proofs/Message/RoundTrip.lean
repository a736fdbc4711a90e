import Chatdown.Message.Decoding
import Chatdown.Message.Encoding
import Chatdown.Proofs.Json.Nesting

/-! # Reading back messages

A block is written as an object in which its kind comes first and its other members follow. The
reader keeps those until the kind is known, and decodes what it has kept: `ofJson_toJson` is the
round trip of kept values, and `ofTree_within` that of the whole reader, whose depth is the only
thing that may be missing.
-/

namespace Chatdown

open Json (Tree Element Member Error IsExact AreExact ReadsWithin nesting nestings memberNestings)

namespace MessageBlock

def kind : MessageBlock → Kind
  | .text _ => .text
  | .code _ _ => .code
  | .bullets _ => .bullets

def members : MessageBlock → List (Text × Json)
  | .text value => [("value".toList, .string value)]
  | .code none value => [("value".toList, .string value)]
  | .code (some language) value =>
    [("language".toList, .string language), ("value".toList, .string value)]
  | .bullets blocks => [("blocks".toList, .array (toJsons blocks))]

theorem toJson_eq (b : MessageBlock) :
    b.toJson = .object (("type".toList, .string b.kind.name) :: b.members) := by
  cases b with
  | text value => rfl
  | bullets blocks => rfl
  | code language value => cases language <;> rfl

private theorem key_ne_type (b : MessageBlock) : ∀ m ∈ b.members, m.1 ≠ "type".toList := by
  cases b with
  | text value => simp only [members, List.forall_mem_singleton]; decide
  | bullets blocks => simp only [members, List.forall_mem_singleton]; decide
  | code language value =>
    cases language with
    | none => simp only [members, List.forall_mem_singleton]; decide
    | some language =>
      simp only [members, List.forall_mem_cons]
      exact ⟨by decide, by decide, List.forall_mem_nil _⟩

@[simp] theorem nesting_text (value : Text) : (text value).toJson.nesting = 1 := rfl

@[simp] theorem nesting_code (language : Option Text) (value : Text) :
    (code language value).toJson.nesting = 1 := by
  cases language <;> rfl

/-- Bullets are an array in an object. -/
@[simp] theorem nesting_bullets (bs : List MessageBlock) :
    (bullets bs).toJson.nesting = nestings (toJsons bs) + 2 := by
  simp [toJson, nesting, memberNestings]

mutual

theorem isExact_toJson : ∀ b : MessageBlock, b.toJson.IsExact
  | .text _ => ⟨trivial, trivial, trivial⟩
  | .code none _ => ⟨trivial, trivial, trivial⟩
  | .code (some _) _ => ⟨trivial, trivial, trivial, trivial⟩
  | .bullets blocks => ⟨trivial, areExact_toJsons blocks, trivial⟩

private theorem areExact_toJsons : ∀ bs : List MessageBlock, AreExact (toJsons bs)
  | [] => trivial
  | b :: bs => ⟨isExact_toJson b, areExact_toJsons bs⟩

end

theorem Kind.ofName_name (k : Kind) : Kind.ofName k.name = .ok k := by
  cases k <;> rfl

theorem Kind.ofTree_name (k : Kind) (stop : Json.Place) :
    Kind.ofTree (.scalar (.ok (.string k.name)) stop) = .ok k := by
  cases k <;> rfl

/-- No second kind is found among members with other keys. -/
theorem kindAmong_some (k : Kind) {ms : List (Text × Json)}
    (others : ∀ m ∈ ms, m.1 ≠ "type".toList) : kindAmong (some k) ms = .ok k := by
  induction ms with
  | nil => rfl
  | cons m ms ih =>
    obtain ⟨key, v⟩ := m
    simp only [List.forall_mem_cons] at others
    rw [kindAmong, if_neg others.1, ih others.2]

/-- The kind does not matter to the members that are read once it is known. -/
theorem ofMembers_type (k : Kind) (d : Draft) (v : Json) (ms : List (Text × Json)) :
    ofMembers k d (("type".toList, v) :: ms) = ofMembers k d ms := by
  have notValue : "type".toList ≠ "value".toList := by decide
  have notLanguage : "type".toList ≠ "language".toList := by decide
  have notBlocks : "type".toList ≠ "blocks".toList := by decide
  cases k <;> simp only [ofMembers, if_neg notValue, if_neg notLanguage, if_neg notBlocks]

/-- A kept block is made of its kind, which is found first, and its other members. -/
theorem ofJson_toJson_of_members {b : MessageBlock}
    (made : ofMembers b.kind {} b.members = .ok b) : ofJson b.toJson = .ok b := by
  have found : kindAmong none (("type".toList, .string b.kind.name) :: b.members) =
      .ok b.kind := by
    simp only [kindAmong, Kind.ofJson, Kind.ofName_name]
    exact kindAmong_some b.kind b.key_ne_type
  rw [toJson_eq, ofJson, found]
  exact (ofMembers_type ..).trans made

mutual

/-- The kept members of a block make the block. -/
theorem ofMembers_members : ∀ b : MessageBlock, ofMembers b.kind {} b.members = .ok b
  | .text _ => rfl
  | .code none _ => rfl
  | .code (some _) _ => rfl
  | .bullets blocks => by
    have inside := ofJsons_toJsons blocks
    simp only [kind, members, ofMembers, listOfJson, inside]
    rfl

private theorem ofJsons_toJsons : ∀ bs : List MessageBlock, ofJsons (toJsons bs) = .ok bs
  | [] => rfl
  | b :: bs => by
    have head := ofJson_toJson_of_members (ofMembers_members b)
    rw [toJsons, ofJsons, head, ofJsons_toJsons bs]
    rfl

end

/-- A block that is written and kept is the block again, at any depth. -/
theorem ofJson_toJson (b : MessageBlock) : ofJson b.toJson = .ok b :=
  ofJson_toJson_of_members b.ofMembers_members

/-- Reading members that come after the kind keeps them all. -/
theorem splitMembers_within (k : Kind) (depth : Nat) (ms : List (Text × Json)) :
    ∀ members : List Member, Tree.MembersLocate members ms →
      (∀ m ∈ ms, m.1 ≠ "type".toList) →
        ReadsWithin depth (memberNestings ms) (some k, ms)
          (splitMembers depth (some k) members) := by
  induction ms with
  | nil =>
    rintro _ rfl _
    exact .inl ⟨Nat.zero_le depth, rfl⟩
  | cons m ms ih =>
    obtain ⟨key, v⟩ := m
    rintro _ ⟨_, tree, members, rfl, located, locateOthers⟩ others
    simp only [List.forall_mem_cons] at others
    have head := Tree.value_within v depth tree located
    have tail := ih members locateOthers others.2
    refine head.both tail (g := id) (fun _ => rfl)
      (fun v kept => (kept.1, (key, v) :: kept.2)) ?_ ?_
    · intro e same
      simp only [splitMembers, if_neg others.1, same, id]
    · intro v same
      simp only [splitMembers, if_neg others.1, same]

/-- A tree of a written block gives the block if the depth is enough. -/
theorem ofTree_within (b : MessageBlock) (depth : Nat) (tree : Tree)
    (located : tree.Locates b.toJson) :
    ReadsWithin depth b.toJson.nesting b (ofTree depth tree) := by
  rw [toJson_eq] at located ⊢
  obtain ⟨_, peeked, _, _, rfl, _, _, members, rfl, ⟨_, rfl⟩, locateOthers⟩ := located
  have nested : nesting (.object (("type".toList, .string b.kind.name) :: b.members)) =
      memberNestings b.members + 1 :=
    congrArg (· + 1) (Nat.zero_max (memberNestings b.members))
  rw [nested]
  cases depth with
  | zero => exact .zero peeked
  | succ depth =>
    -- The kind comes first, and the other members are kept as they have been written.
    have inner := splitMembers_within b.kind depth b.members members locateOthers b.key_ne_type
    refine inner.inside ?_ ?_
    · intro e same
      simp only [ofTree, splitMembers, if_true, Kind.ofTree_name, same]
    · intro same
      simp only [ofTree, splitMembers, if_true, Kind.ofTree_name, same, ofMembers_members]
      rfl

private theorem ofTreeElements_within (depth : Nat) (bs : List MessageBlock) :
    ∀ elements : List Element, Tree.ElementsLocate elements (toJsons bs) →
      ReadsWithin depth (nestings (toJsons bs)) bs (ofTreeElements depth elements) := by
  induction bs with
  | nil =>
    rintro _ rfl
    exact .inl ⟨Nat.zero_le depth, rfl⟩
  | cons b bs ih =>
    rintro _ ⟨tree, closing, others, rfl, located, locateOthers⟩
    have head := ofTree_within b depth tree located
    have tail := ih others locateOthers
    refine head.both tail (g := (·.orAt closing.place)) (fun _ => rfl) List.cons ?_ ?_
    · intro e same
      simp only [ofTreeElements, same]
    · intro b same
      simp only [ofTreeElements, same]

private theorem listOfTree_within (depth : Nat) (bs : List MessageBlock) (tree : Tree)
    (located : tree.Locates (.array (toJsons bs))) :
    ReadsWithin depth (nestings (toJsons bs) + 1) bs (listOfTree depth tree) := by
  obtain ⟨_, peeked, elements, _, rfl, located⟩ := located
  cases depth with
  | zero => exact .zero peeked
  | succ depth =>
    have inner := ofTreeElements_within depth bs elements located
    refine inner.inside ?_ ?_
    · intro e same
      simp only [listOfTree, same]
    · intro same
      simp only [listOfTree, same]

/-- A block is read back from both of its written forms, unless its nesting is too deep. -/
theorem ofJsonText_within (b : MessageBlock) {t : Text} (written : t ∈ b.toJson.writtenForms) :
    ReadsWithin Json.depthLimit b.toJson.nesting b (ofJsonText t) := by
  obtain ⟨tree, located, decoded⟩ := Json.decode_writtenForms b.isExact_toJson written
  rw [ofJsonText, decoded]
  exact ofTree_within b Json.depthLimit tree located

end MessageBlock

namespace Message

theorem isExact_toJson (m : Message) : m.toJson.IsExact :=
  ⟨MessageBlock.areExact_toJsons m.blocks, trivial⟩

/-- Blocks are in the array of an object. -/
@[simp] theorem nesting_toJson (m : Message) :
    m.toJson.nesting = nestings (MessageBlock.toJsons m.blocks) + 2 := by
  simp [toJson, nesting, memberNestings]

/-- A message is read back from both of its written forms, also with white space behind them, unless
its nesting is too deep. -/
theorem ofJsonText_append_within (m : Message) {t : Text} (written : t ∈ m.toJson.writtenForms)
    {blanks : Text} (blank : ∀ c ∈ blanks, Json.Token.isBlank c = true) :
    ReadsWithin Json.depthLimit m.toJson.nesting m (ofJsonText (t ++ blanks)) := by
  obtain ⟨tree, located, decoded⟩ :=
    Json.decode_writtenForms_append m.isExact_toJson written blank
  obtain ⟨_, _, _, _, rfl, _, blocks, _, rfl, located, rfl⟩ := located
  have inner := MessageBlock.listOfTree_within depth m.blocks blocks located
  rw [ofJsonText, decoded, nesting_toJson]
  refine inner.inside ?_ ?_
  · intro e same
    simp only [ofTree, readMembers, if_true, same]
  · intro same
    simp only [ofTree, readMembers, if_true, same]

theorem ofJsonText_within (m : Message) {t : Text} (written : t ∈ m.toJson.writtenForms) :
    ReadsWithin Json.depthLimit m.toJson.nesting m (ofJsonText t) := by
  have read := m.ofJsonText_append_within written (List.forall_mem_nil _)
  rwa [List.append_nil] at read

end Message

end Chatdown
