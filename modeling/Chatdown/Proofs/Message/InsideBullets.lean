import Chatdown.Proofs.Message.Members

/-! # Blocks inside bullets

A block that stands alone is read from its text, and one inside bullets from what has been kept of
it. Both readers take the same for a block, at any depth, but for one thing: of what has been kept,
a kind may also be given by its number. So a value is a block inside bullets exactly if it is one
alone once the name of its kind stands for the number.
-/

namespace Chatdown.MessageBlock

open Json (valuesOf readOne nesting nestings memberNestings IsExact)

/-- The value that gives the kind of a block: that of the first member `type`, or the first element
of an array. -/
def kindValue? : Json → Option Json
  | .object ms => (valuesOf "type".toList ms).head?
  | .array vs => vs.head?
  | _ => none

/-- The name of a kind in place of its number. -/
def spelled : Json → Json
  | .integer n =>
    match Kind.kept? (.integer n) with
    | some k => .string k.name
    | none => .integer n
  | v => v

/-- A block of which the kind is given by name. -/
def withKindSpelled : Json → Json
  | .object ms =>
    .object (ms.map fun (key, v) => (key, if key = "type".toList then spelled v else v))
  | .array (v :: vs) => .array (spelled v :: vs)
  | v => v

def inBullets (v : Json) : Json :=
  .object [("type".toList, .string "bullets".toList), ("blocks".toList, .array [v])]

theorem named?_eq_some_iff {v : Json} {k : Kind} :
    Kind.named? v = some k ↔ (∀ n, v ≠ .integer n) ∧ Kind.kept? v = some k := by
  cases v <;> simp [Kind.named?, Kind.kept?, Kind.ofJson, Except.toOption]

private theorem named?_spelled (v : Json) : Kind.named? (spelled v) = Kind.kept? v := by
  cases v with
  | integer n =>
    simp only [spelled]
    cases kept : Kind.kept? (.integer n) with
    | none => rfl
    | some k => cases k <;> rfl
  | _ => rfl

/-- The reader of texts takes what the other one does, unless a kind is given by number. -/
theorem readBy_named_iff {v : Json} {b : MessageBlock} :
    readBy Kind.named? v = some b ↔
      (∀ n, kindValue? v ≠ some (.integer n)) ∧ readBy Kind.kept? v = some b := by
  cases v with
  | object ms =>
    simp only [readBy, kindValue?]
    rcases valuesOf "type".toList ms with _ | ⟨v, _ | ⟨w, vs⟩⟩
    · simp [readOne]
    · simp [readOne, Option.bind_eq_some_iff, named?_eq_some_iff, and_assoc]
    · simp [readOne]
  | array vs =>
    cases vs with
    | nil => simp [readBy]
    | cons v vs => simp [readBy, Option.bind_eq_some_iff, kindValue?, named?_eq_some_iff, and_assoc]
  | _ => simp [readBy]

private theorem readBy_withKindSpelled (v : Json) :
    readBy Kind.named? (withKindSpelled v) = readBy Kind.kept? v := by
  cases v with
  | object ms =>
    have others (k : Kind) : made k {} (ms.map fun (key, v) =>
        (key, if key = "type".toList then spelled v else v)) = made k {} ms := by
      refine made_congr ?_ k {}
      intro key known
      have other : key ≠ "type".toList := by
        rintro rfl
        exact absurd known (by decide)
      rw [Json.valuesOf_map]
      simp only [if_neg other, List.map_id', List.Perm.refl]
    simp only [withKindSpelled, readBy, others, Json.valuesOf_map, if_true, Json.readOne_map,
      named?_spelled]
  | array vs =>
    cases vs with
    | nil => rfl
    | cons v vs => rw [withKindSpelled, readBy, readBy, named?_spelled]
  | _ => rfl

private theorem readBy_inBullets (v : Json) :
    readBy Kind.named? (inBullets v) = (readBy Kind.kept? v).map fun b => bullets [b] := by
  have parts : readBy Kind.named? (inBullets v) =
      (((ofJsons [v]).toOption).bind fun bs => some (some bs)).bind
        fun blocks => blocks.map bullets := rfl
  rw [← toOption_ofJson, parts, ofJsons]
  cases ofJson v <;> rfl

/-! ## Written values -/

private theorem nesting_spelled (v : Json) : (spelled v).nesting = v.nesting := by
  cases v with
  | integer n =>
    simp only [spelled]
    cases Kind.kept? (.integer n) <;> rfl
  | _ => rfl

private theorem isExact_spelled {v : Json} (exact : v.IsExact) : (spelled v).IsExact := by
  cases v with
  | integer n =>
    simp only [spelled]
    cases Kind.kept? (.integer n) with
    | none => exact exact
    | some k => trivial
  | _ => exact exact

private theorem nesting_withKindSpelled (v : Json) : (withKindSpelled v).nesting = v.nesting := by
  cases v with
  | object ms =>
    simp only [withKindSpelled, nesting]
    induction ms with
    | nil => rfl
    | cons m ms ih =>
      obtain ⟨key, v⟩ := m
      have head : (if key = "type".toList then spelled v else v).nesting = v.nesting := by
        split
        · exact nesting_spelled v
        · rfl
      simp only [List.map_cons, memberNestings, head]
      omega
  | array vs =>
    cases vs with
    | nil => rfl
    | cons v vs => simp only [withKindSpelled, nesting, nestings, nesting_spelled]
  | _ => rfl

private theorem isExact_withKindSpelled {v : Json} (exact : v.IsExact) :
    (withKindSpelled v).IsExact := by
  cases v with
  | object ms =>
    simp only [withKindSpelled, IsExact] at exact ⊢
    induction ms with
    | nil => trivial
    | cons m ms ih =>
      obtain ⟨key, v⟩ := m
      refine ⟨?_, ih exact.2⟩
      split
      · exact isExact_spelled exact.1
      · exact exact.1
  | array vs =>
    cases vs with
    | nil => trivial
    | cons v vs => exact ⟨isExact_spelled exact.1, exact.2⟩
  | _ => exact exact

private theorem nesting_inBullets (v : Json) : (inBullets v).nesting = v.nesting + 2 := by
  simp [inBullets, nesting, memberNestings, nestings]

private theorem isExact_inBullets {v : Json} (exact : v.IsExact) : (inBullets v).IsExact :=
  ⟨trivial, ⟨exact, trivial⟩, trivial⟩

/-- A value that is written alone is read as a block exactly if it is read as that block inside
bullets and its kind is not given by a number; and what is read inside bullets is what is read of
the value alone once the kind is given by its name. -/
theorem ofJsonText_inBullets {v : Json} (exact : v.IsExact) (shallow : v.nesting < 100) :
    (∀ b, ofJsonText v.compact = .ok b ↔
      (∀ n, kindValue? v ≠ some (.integer n)) ∧
        ofJsonText (inBullets v).compact = .ok (.bullets [b])) ∧
    ∀ whole, ofJsonText (inBullets v).compact = .ok whole ↔
      ∃ b, whole = .bullets [b] ∧ ofJsonText (withKindSpelled v).compact = .ok b := by
  have enough : v.nesting ≤ Json.depthLimit := by
    simp only [Json.depthLimit]
    omega
  have enoughInside : (inBullets v).nesting ≤ Json.depthLimit := by
    rw [nesting_inBullets, Json.depthLimit]
    omega
  have enoughSpelled : (withKindSpelled v).nesting ≤ Json.depthLimit := by
    rwa [nesting_withKindSpelled]
  have alone b := ofJsonText_eq_ok exact enough (.head _) (b := b)
  have inside b := ofJsonText_eq_ok (isExact_inBullets exact) enoughInside (.head _) (b := b)
  have named b := ofJsonText_eq_ok (isExact_withKindSpelled exact) enoughSpelled (.head _) (b := b)
  constructor
  · intro b
    rw [alone, inside, readBy_inBullets, readBy_named_iff]
    simp
  · intro whole
    rw [inside, readBy_inBullets, Option.map_eq_some_iff]
    simp only [named, readBy_withKindSpelled, and_comm, eq_comm]

/-- Code of which the kind is given by its number, after the value: it is code inside bullets only.
-/
theorem ofJsonText_inBullets_number :
    let v : Json := .object [("value".toList, .string "x".toList), ("type".toList, .integer 1)]
    v.IsExact ∧ v.nesting < 100 ∧ ofJsonText v.compact ≠ .ok (.code none "x".toList) ∧
      ofJsonText (inBullets v).compact = .ok (.bullets [.code none "x".toList]) := by
  intro v
  have exact : v.IsExact := ⟨trivial, ⟨by decide, by decide⟩, trivial⟩
  have shallow : v.nesting < 100 := by decide
  obtain ⟨alone, inside⟩ := ofJsonText_inBullets exact shallow
  refine ⟨exact, shallow, fun read => ((alone _).mp read).1 1 rfl, (inside _).mpr ⟨_, rfl, ?_⟩⟩
  have exactSpelled : (withKindSpelled v).IsExact := isExact_withKindSpelled exact
  exact (ofJsonText_eq_ok exactSpelled (by decide) (.head _)).mpr rfl

/-- A value that is no block alone and one inside bullets. -/
theorem ofJsonText_inBullets_differs :
    let v : Json := .object [("type".toList, .integer 0), ("value".toList, .string "x".toList)]
    v.compact = "\x7b\"type\":0,\"value\":\"x\"\x7d".toList ∧
      ¬ ∀ b, ofJsonText v.compact = .ok b ↔ ofJsonText (inBullets v).compact = .ok (.bullets [b]) := by
  intro v
  refine ⟨by decide, ?_⟩
  intro same
  have exact : v.IsExact := ⟨⟨by decide, by decide⟩, trivial, trivial⟩
  have inside : ofJsonText (inBullets v).compact = .ok (.bullets [.text "x".toList]) :=
    (ofJsonText_eq_ok (isExact_inBullets exact) (by decide) (.head _)).mpr rfl
  have alone := (same _).mpr inside
  rw [ofJsonText_eq_ok exact (by decide) (.head _)] at alone
  cases alone

end Chatdown.MessageBlock
