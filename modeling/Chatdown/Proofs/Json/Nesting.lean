import Chatdown.Proofs.Json.Reading

/-! # Nesting

How many containers of a value are open inside each other decides whether a reader with limited
depth reads it: if they are too many it notices that, and nothing else is wrong with what has been
written. `ReadsWithin` says so of one reading, and is closed under reading one part after another.
-/

namespace Chatdown.Json

mutual

/-- The number of containers of a value that are open inside each other. -/
def nesting : Json → Nat
  | .array vs => nestings vs + 1
  | .object ms => memberNestings ms + 1
  | _ => 0

def nestings : List Json → Nat
  | [] => 0
  | v :: vs => max (nesting v) (nestings vs)

def memberNestings : List (Text × Json) → Nat
  | [] => 0
  | (_, v) :: ms => max (nesting v) (memberNestings ms)

end

/-- A reading gives what is expected if the depth is enough for the nesting, and is refused for
the depth if not. -/
def ReadsWithin {α : Type} (depth nesting : Nat) (expected : α) (result : Except Error α) : Prop :=
  nesting ≤ depth ∧ result = .ok expected ∨
    depth < nesting ∧ ∃ place, result = .error (.malformed .depth place)

namespace ReadsWithin

variable {α β γ : Type} {depth n : Nat} {a : α} {result : Except Error α}

/-- The two outcomes as one equation. -/
theorem exists_eq_ite (reads : ReadsWithin depth n a result) :
    ∃ place, result = if n < depth + 1 then .ok a else .error (.malformed .depth place) := by
  rcases reads with ⟨enough, read⟩ | ⟨deep, place, refused⟩
  · exact ⟨.start, by rw [if_pos (Nat.lt_succ_of_le enough), read]⟩
  · exact ⟨place, by rw [if_neg (by omega), refused]⟩

theorem eq_ok (reads : ReadsWithin depth n a result) (enough : n ≤ depth) : result = .ok a := by
  rcases reads with ⟨_, read⟩ | ⟨deep, _⟩
  · exact read
  · omega

/-- Two parts that are read one after the other are as deep as the deeper one. -/
theorem both {m : Nat} {b : β} {other : Except Error β} (first : ReadsWithin depth n a result)
    (second : ReadsWithin depth m b other) {g : Error → Error}
    (kept : ∀ place, g (.malformed .depth place) = .malformed .depth place) (f : α → β → γ)
    {whole : Except Error γ} (refused : ∀ e, result = .error e → whole = .error (g e))
    (read : ∀ a, result = .ok a → whole = other.map (f a)) :
    ReadsWithin depth (max n m) (f a b) whole := by
  rcases first with ⟨enough, same⟩ | ⟨deep, place, same⟩
  · rw [read a same]
    rcases second with ⟨alsoEnough, same⟩ | ⟨deep, place, same⟩
    · exact .inl ⟨Nat.max_le.mpr ⟨enough, alsoEnough⟩, by rw [same]; rfl⟩
    · exact .inr ⟨by omega, place, by rw [same]; rfl⟩
  · exact .inr ⟨by omega, place, by rw [refused _ same, kept]⟩

/-- A container is one deeper than what is inside. -/
theorem inside {b : β} {whole : Except Error β} (inner : ReadsWithin depth n a result)
    (refused : ∀ e, result = .error e → whole = .error e)
    (read : result = .ok a → whole = .ok b) : ReadsWithin (depth + 1) (n + 1) b whole := by
  rcases inner with ⟨enough, same⟩ | ⟨deep, place, same⟩
  · exact .inl ⟨Nat.succ_le_succ enough, read same⟩
  · exact .inr ⟨Nat.succ_lt_succ deep, place, refused _ same⟩

theorem zero (place : Place) : ReadsWithin 0 (n + 1) a (.error (.malformed .depth place)) :=
  .inr ⟨Nat.succ_pos n, place, rfl⟩

end ReadsWithin

namespace Tree

mutual

/-- A tree of a value gives that value if the depth is enough. -/
theorem value_within : ∀ (v : Json) (depth : Nat) (tree : Tree), tree.Locates v →
    ReadsWithin depth v.nesting v (tree.value depth)
  | .null, depth, _, ⟨_, rfl⟩ => .inl ⟨Nat.zero_le depth, rfl⟩
  | .bool _, depth, _, ⟨_, rfl⟩ => .inl ⟨Nat.zero_le depth, rfl⟩
  | .integer _, depth, _, ⟨_, rfl⟩ => .inl ⟨Nat.zero_le depth, rfl⟩
  | .float _ _, depth, _, ⟨_, rfl⟩ => .inl ⟨Nat.zero_le depth, rfl⟩
  | .string _, depth, _, ⟨_, rfl⟩ => .inl ⟨Nat.zero_le depth, rfl⟩
  | .array vs, 0, _, ⟨_, peeked, _, _, rfl, _⟩ => .zero peeked
  | .array vs, depth + 1, _, ⟨_, _, elements, _, rfl, located⟩ => by
    have inner := elementValues_within vs depth elements located
    refine inner.inside ?_ ?_
    · intro e same
      simp only [value, same]
    · intro same
      simp only [value, same]
  | .object ms, 0, _, ⟨_, peeked, _, _, rfl, _⟩ => .zero peeked
  | .object ms, depth + 1, _, ⟨_, _, members, _, rfl, located⟩ => by
    have inner := memberValues_within ms depth members located
    refine inner.inside ?_ ?_
    · intro e same
      simp only [value, same]
    · intro same
      simp only [value, same]

theorem elementValues_within : ∀ (vs : List Json) (depth : Nat) (elements : List Element),
    ElementsLocate elements vs →
      ReadsWithin depth (nestings vs) vs (elementValues depth elements)
  | [], depth, _, rfl => .inl ⟨Nat.zero_le depth, rfl⟩
  | v :: vs, depth, _, ⟨tree, _, others, rfl, located, locateOthers⟩ => by
    have head := value_within v depth tree located
    have tail := elementValues_within vs depth others locateOthers
    refine head.both tail (g := id) (fun _ => rfl) List.cons ?_ ?_
    · intro e same
      simp only [elementValues, same, id]
    · intro v same
      simp only [elementValues, same]

private theorem memberValues_within :
    ∀ (ms : List (Text × Json)) (depth : Nat) (members : List Member),
    MembersLocate members ms →
      ReadsWithin depth (memberNestings ms) ms (memberValues depth members)
  | [], depth, _, rfl => .inl ⟨Nat.zero_le depth, rfl⟩
  | (key, v) :: ms, depth, _, ⟨_, tree, others, rfl, located, locateOthers⟩ => by
    have head := value_within v depth tree located
    have tail := memberValues_within ms depth others locateOthers
    refine head.both tail (g := id) (fun _ => rfl) (fun v ms => (key, v) :: ms) ?_ ?_
    · intro e same
      simp only [memberValues, same, id]
    · intro v same
      simp only [memberValues, same]

end

end Tree

end Chatdown.Json
