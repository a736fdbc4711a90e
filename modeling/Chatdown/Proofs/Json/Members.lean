import Chatdown.Proofs.Json.Nesting

/-! # Members by their keys

A reader of objects has a place for each key that it knows, and refuses a second value for a place.
What it makes of an object is therefore a matter of the values that each known key has: they may
stand in any order, with any other members between them.
-/

namespace Chatdown.Json

/-- The values of the members with a key, in their order. -/
def valuesOf (key : Text) (ms : List (Text × Json)) : List Json :=
  ms.filterMap fun (name, v) => if name = key then some v else none

section

variable {key name : Text} {v : Json} {ms others : List (Text × Json)}

@[simp] theorem valuesOf_nil (key : Text) : valuesOf key [] = [] := rfl

@[simp] theorem valuesOf_cons_self (key : Text) (v : Json) (ms : List (Text × Json)) :
    valuesOf key ((key, v) :: ms) = v :: valuesOf key ms := by
  simp [valuesOf]

theorem valuesOf_cons_of_ne (other : name ≠ key) (v : Json) (ms : List (Text × Json)) :
    valuesOf key ((name, v) :: ms) = valuesOf key ms := by
  simp [valuesOf, other]

private theorem valuesOf_append (key : Text) (ms others : List (Text × Json)) :
    valuesOf key (ms ++ others) = valuesOf key ms ++ valuesOf key others :=
  List.filterMap_append

theorem valuesOf_perm (perm : ms.Perm others) (key : Text) :
    (valuesOf key ms).Perm (valuesOf key others) :=
  perm.filterMap _

/-- A member with another key makes no difference. -/
theorem valuesOf_insert (other : name ≠ key) (before after : List (Text × Json)) (v : Json) :
    valuesOf key (before ++ (name, v) :: after) = valuesOf key (before ++ after) := by
  rw [valuesOf_append, valuesOf_append, valuesOf_cons_of_ne other]

/-- The values of one key may be changed with the members in their places. -/
theorem valuesOf_map (key name : Text) (f : Json → Json) (ms : List (Text × Json)) :
    valuesOf key (ms.map fun (first, v) => (first, if first = name then f v else v)) =
      (valuesOf key ms).map fun v => if key = name then f v else v := by
  induction ms with
  | nil => rfl
  | cons m ms ih =>
    obtain ⟨first, v⟩ := m
    rw [List.map_cons]
    by_cases found : first = key
    · subst found
      rw [valuesOf_cons_self, valuesOf_cons_self, ih, List.map_cons]
    · rw [valuesOf_cons_of_ne found, valuesOf_cons_of_ne found, ih]

/-- Members without a key have all values of the other keys. -/
theorem valuesOf_filter (other : name ≠ key) (ms : List (Text × Json)) :
    valuesOf key (ms.filter (·.1 ≠ name)) = valuesOf key ms := by
  induction ms with
  | nil => rfl
  | cons m ms ih =>
    obtain ⟨first, v⟩ := m
    by_cases same : first = name
    · subst same
      rw [List.filter_cons_of_neg (by simp), ih, valuesOf_cons_of_ne other]
    · rw [List.filter_cons_of_pos (by simpa using same)]
      by_cases found : first = key
      · subst found
        rw [valuesOf_cons_self, valuesOf_cons_self, ih]
      · rw [valuesOf_cons_of_ne found, valuesOf_cons_of_ne found, ih]

end

section

variable {α : Type} (read : Json → Option α)

/-- What a place holds when values have been read into it. There is room for one, and none of them
may be unreadable. -/
def readInto (place : Option α) : List Json → Option (Option α)
  | [] => some place
  | v :: vs =>
    match place with
    | some _ => none
    | none => (read v).bind fun a => readInto (some a) vs

@[simp] theorem readInto_nil (place : Option α) : readInto read place [] = some place := rfl

@[simp] theorem readInto_some_cons (a : α) (v : Json) (vs : List Json) :
    readInto read (some a) (v :: vs) = none := rfl

@[simp] theorem readInto_none_cons (v : Json) (vs : List Json) :
    readInto read none (v :: vs) = (read v).bind fun a => readInto read (some a) vs := rfl

/-- There is no room for two values. -/
theorem readInto_two (place : Option α) (v w : Json) (vs : List Json) :
    readInto read place (v :: w :: vs) = none := by
  cases place with
  | some a => rfl
  | none => cases same : read v <;> simp [same]

/-- The order of values does not matter, since no two of them are read. -/
theorem readInto_perm {vs ws : List Json} (perm : vs.Perm ws) (place : Option α) :
    readInto read place vs = readInto read place ws := by
  induction perm generalizing place with
  | nil => rfl
  | cons v _ ih =>
    cases place with
    | some a => rfl
    | none => simp only [readInto_none_cons, ih]
  | swap v w vs => rw [readInto_two, readInto_two]
  | trans _ _ first second => rw [first, second]

/-- What the value gives if there is just one. -/
def readOne : List Json → Option α
  | [v] => read v
  | _ => none

/-- What a place that was empty holds is what the one value gives. -/
theorem readInto_none_bind_id (vs : List Json) :
    (readInto read none vs).bind id = readOne read vs := by
  match vs with
  | [] => rfl
  | [v] => cases same : read v <;> simp [readOne, same]
  | v :: w :: vs =>
    rw [readInto_two]
    rfl

theorem readOne_perm {vs ws : List Json} (perm : vs.Perm ws) :
    readOne read vs = readOne read ws := by
  rw [← readInto_none_bind_id, ← readInto_none_bind_id, readInto_perm read perm]

/-- The value may be changed before it is read. -/
theorem readOne_map (f : Json → Json) (vs : List Json) :
    readOne read (vs.map f) = readOne (fun v => read (f v)) vs := by
  match vs with
  | [] => rfl
  | [_] => rfl
  | _ :: _ :: _ => rfl

/-- A member is read into the place of its key, before the members behind it. -/
theorem readInto_members {key name : Text} (place : Option α) (v : Json)
    (ms : List (Text × Json)) :
    readInto read place (valuesOf key ((name, v) :: ms)) =
      if name = key then
        match place with
        | some _ => none
        | none => (read v).bind fun a => readInto read (some a) (valuesOf key ms)
      else readInto read place (valuesOf key ms) := by
  by_cases same : name = key
  · subst same
    rw [if_pos rfl, valuesOf_cons_self]
    cases place <;> rfl
  · rw [if_neg same, valuesOf_cons_of_ne same]

end

end Chatdown.Json
