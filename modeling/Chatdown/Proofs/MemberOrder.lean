import Chatdown.Proofs.Manager.Members
import Chatdown.Proofs.Message.Members

/-! # The order of members

Objects that differ in the order of their members, or in members that are not known, are read alike:
as the same block or record, or not at all. This holds for what stands in a text and for what has
been kept of a block inside bullets.
-/

namespace Chatdown

open Json (valuesOf nesting memberNestings IsExact HaveExactValues)

namespace Json

theorem haveExactValues_iff {ms : List (Text × Json)} :
    HaveExactValues ms ↔ ∀ m ∈ ms, m.2.IsExact := by
  induction ms with
  | nil => simp [HaveExactValues]
  | cons m ms ih =>
    obtain ⟨key, v⟩ := m
    rw [HaveExactValues, ih, List.forall_mem_cons]

theorem memberNestings_le_iff {ms : List (Text × Json)} {n : Nat} :
    memberNestings ms ≤ n ↔ ∀ m ∈ ms, m.2.nesting ≤ n := by
  induction ms with
  | nil => simp [memberNestings]
  | cons m ms ih =>
    obtain ⟨key, v⟩ := m
    rw [memberNestings, Nat.max_le, ih, List.forall_mem_cons]

/-- A value that may be a member of what is written and read: its integers are those of 64 bits, and
it is not nested too deep. -/
def IsReadable (v : Json) : Prop := v.IsExact ∧ v.nesting < 100

private theorem isExact_object {ms : List (Text × Json)} (readable : ∀ m ∈ ms, IsReadable m.2) :
    (object ms).IsExact :=
  haveExactValues_iff.mpr fun m member => (readable m member).1

/-- An object of such members is shallow enough for a reader. -/
theorem nesting_object_le {ms : List (Text × Json)} (readable : ∀ m ∈ ms, IsReadable m.2) :
    (object ms).nesting ≤ depthLimit := by
  have inside : memberNestings ms ≤ 99 :=
    memberNestings_le_iff.mpr fun m member => Nat.le_of_lt_succ (readable m member).2
  rw [nesting, depthLimit]
  omega

end Json

open Json (IsReadable)

namespace MessageBlock

/-- Objects that are read as the same block or not at all, in every written form or when they have
been kept. -/
structure ReadAlike (ms others : List (Text × Json)) : Prop where
  texts : ∀ t ∈ (Json.object ms).writtenForms, ∀ u ∈ (Json.object others).writtenForms,
    ∀ b, ofJsonText t = .ok b ↔ ofJsonText u = .ok b
  kept : ∀ b, ofJson (.object ms) = .ok b ↔ ofJson (.object others) = .ok b

private theorem readAlike_of_valuesOf {ms others : List (Text × Json)}
    (readable : ∀ m ∈ ms, IsReadable m.2) (alsoReadable : ∀ m ∈ others, IsReadable m.2)
    (same : ∀ key ∈ "type".toList :: memberKeys, (valuesOf key ms).Perm (valuesOf key others)) :
    ReadAlike ms others := by
  constructor
  · intro t written u alsoWritten b
    rw [ofJsonText_eq_ok (Json.isExact_object readable) (Json.nesting_object_le readable) written,
      ofJsonText_eq_ok (Json.isExact_object alsoReadable) (Json.nesting_object_le alsoReadable)
        alsoWritten,
      readBy_object_congr Kind.named? same]
  · intro b
    rw [ofJson_eq_ok, ofJson_eq_ok, readBy_object_congr Kind.kept? same]

end MessageBlock

namespace Manager

/-- Objects that are read as the same record or not at all, in every written form. -/
def ReadAlike (ms others : List (Text × Json)) : Prop :=
  ∀ t ∈ (Json.object ms).writtenForms, ∀ u ∈ (Json.object others).writtenForms,
    ∀ m, ofJsonText t = .ok m ↔ ofJsonText u = .ok m

private theorem readAlike_of_valuesOf {ms others : List (Text × Json)}
    (readable : ∀ m ∈ ms, IsReadable m.2) (alsoReadable : ∀ m ∈ others, IsReadable m.2)
    (same : ∀ f : Field, (valuesOf f.key ms).Perm (valuesOf f.key others)) :
    ReadAlike ms others := by
  intro t written u alsoWritten m
  rw [ofJsonText_object_eq_ok (Json.isExact_object readable) written,
    ofJsonText_object_eq_ok (Json.isExact_object alsoReadable) alsoWritten, ofMembers?_congr same]

end Manager

/-- Objects are read alike in whatever order their members stand, and with a member of a key that is
not known between them or without it. -/
theorem readAlike_members {ms : List (Text × Json)} (readable : ∀ m ∈ ms, IsReadable m.2) :
    (∀ others, ms.Perm others →
      MessageBlock.ReadAlike ms others ∧ Manager.ReadAlike ms others) ∧
    ∀ before key v after, ms = before ++ (key, v) :: after →
      (key ∉ "type".toList :: MessageBlock.memberKeys →
        MessageBlock.ReadAlike (before ++ after) ms) ∧
      (key ∉ Manager.Field.all.map Manager.Field.key → Manager.ReadAlike (before ++ after) ms) := by
  constructor
  · intro others perm
    have alsoReadable : ∀ m ∈ others, IsReadable m.2 :=
      fun m member => readable m (perm.mem_iff.mpr member)
    constructor
    · exact MessageBlock.readAlike_of_valuesOf readable alsoReadable
        fun key _ => Json.valuesOf_perm perm key
    · exact Manager.readAlike_of_valuesOf readable alsoReadable
        fun f => Json.valuesOf_perm perm f.key
  · rintro before key v after rfl
    have others : ∀ m ∈ before ++ after, IsReadable m.2 := by
      intro m member
      refine readable m ?_
      rw [List.mem_append] at member ⊢
      exact member.imp_right (List.mem_cons_of_mem _)
    constructor
    · intro unknown
      refine MessageBlock.readAlike_of_valuesOf others readable ?_
      intro name known
      have other : key ≠ name := by
        rintro rfl
        exact unknown known
      rw [Json.valuesOf_insert other]
    · intro unknown
      refine Manager.readAlike_of_valuesOf others readable ?_
      intro f
      have other : key ≠ f.key := by
        rintro rfl
        exact unknown (List.mem_map_of_mem (by cases f <;> decide))
      rw [Json.valuesOf_insert other]

/-- Bullets with their kind last and a member that is not known between, and inside them a block with
its kind last. -/
theorem readAlike_members_kindLast :
    let b : MessageBlock := .bullets [.text "a".toList]
    let inside : Json := .object [("value".toList, .string "a".toList),
      ("type".toList, .string "text".toList)]
    let ms := [("type".toList, Json.string "bullets".toList), ("x".toList, .array [.integer (-1)]),
      ("blocks".toList, .array [inside])]
    MessageBlock.ofJsonText (Json.object ms).compact = .ok b ∧
      MessageBlock.ofJsonText (Json.object ms.reverse).compact = .ok b ∧
      MessageBlock.ofJsonText ((Json.object [ms[0], ms[2]]).pretty 0) = .ok b := by
  intro b inside ms
  have readable : ∀ m ∈ ms, IsReadable m.2 := by
    simp only [ms, List.forall_mem_cons]
    refine ⟨⟨trivial, by decide⟩, ⟨⟨⟨by decide, by decide⟩, trivial⟩, by decide⟩, ?_,
      List.forall_mem_nil _⟩
    exact ⟨⟨⟨trivial, trivial, trivial⟩, trivial⟩, by decide⟩
  obtain ⟨orders, insertions⟩ := readAlike_members readable
  have read : MessageBlock.ofJsonText (Json.object ms).compact = .ok b :=
    (MessageBlock.ofJsonText_eq_ok (Json.isExact_object readable) (by decide) (.head _)).mpr rfl
  have reversed := (orders ms.reverse ms.reverse_perm.symm).1
  have shorter := (insertions [ms[0]] _ _ [ms[2]] rfl).1 (by decide)
  exact ⟨read, (reversed.texts _ (.head _) _ (.head _) b).mp read,
    (shorter.texts _ (.tail _ (.head _)) _ (.head _) b).mpr read⟩

end Chatdown
