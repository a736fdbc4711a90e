import Chatdown.Text

/-! # Classes of characters and runs of them

A scanner takes the longest run of some class of characters from the start of a text. Here is what
such a run and the rest after it are in a text that is put together from parts, and how texts of one
class keep apart from characters of another.
-/

namespace Chatdown.Text

variable {p : Char → Bool} {t : Text}

theorem not_mem_of_class (inside : ∀ c ∈ t, p c = true) {c : Char} (outside : p c = false) :
    c ∉ t := fun member => by
  rw [inside c member] at outside
  cases outside

theorem not_mem_of_outside (outside : t.all (!p ·) = true) {c : Char} (inside : p c = true) :
    c ∉ t := fun member => by
  have other := List.all_eq_true.mp outside c member
  rw [inside] at other
  cases other

/-- A text of characters of one class, with at least one of them. -/
def IsRun (p : Char → Bool) (t : Text) : Prop := t ≠ [] ∧ ∀ c ∈ t, p c = true

instance (p : Char → Bool) (t : Text) : Decidable (IsRun p t) :=
  @instDecidableAnd _ _ _ (List.decidableBAll _ t)

theorem drop_length_takeWhile (p : Char → Bool) (t : Text) :
    t.drop (t.takeWhile p).length = t.dropWhile p := by
  calc
    t.drop (t.takeWhile p).length
        = (t.takeWhile p ++ t.dropWhile p).drop (t.takeWhile p).length := by
          rw [List.takeWhile_append_dropWhile]
    _ = t.dropWhile p := List.drop_left

/-- A run of a character is that character repeated. -/
theorem takeWhile_eq_replicate (c : Char) (t : Text) :
    t.takeWhile (· = c) = List.replicate (t.takeWhile (· = c)).length c := by
  apply List.eq_replicate_of_mem
  intro d member
  simpa using List.all_eq_true.mp List.all_takeWhile d member

/-- A run ends where a character of another class follows. -/
theorem takeWhile_append_of_head (s : Text) (outside : ∀ c ∈ t.head?, p c = false) :
    (s ++ t).takeWhile p = s.takeWhile p := by
  induction s with
  | nil =>
    cases t with
    | nil => rfl
    | cons c t => exact List.takeWhile_cons_of_neg (by simp [outside c rfl])
  | cons d s ih =>
    cases inside : p d with
    | true => rw [List.cons_append, List.takeWhile_cons_of_pos inside,
        List.takeWhile_cons_of_pos inside, ih]
    | false => rw [List.cons_append, List.takeWhile_cons_of_neg (by simp [inside]),
        List.takeWhile_cons_of_neg (by simp [inside])]

theorem dropWhile_append_of_head (s : Text) (outside : ∀ c ∈ t.head?, p c = false) :
    (s ++ t).dropWhile p = s.dropWhile p ++ t := by
  have whole : (s ++ t).takeWhile p ++ (s ++ t).dropWhile p =
      s.takeWhile p ++ (s.dropWhile p ++ t) := by
    rw [List.takeWhile_append_dropWhile, ← List.append_assoc, List.takeWhile_append_dropWhile]
  rw [takeWhile_append_of_head s outside] at whole
  exact List.append_cancel_left whole

/-- A text of characters of a class is the whole run if another character follows. -/
theorem takeWhile_run {s : Text} (inside : ∀ c ∈ s, p c = true)
    (outside : ∀ c ∈ t.head?, p c = false) : (s ++ t).takeWhile p = s := by
  have none := takeWhile_append_of_head [] outside
  rw [List.nil_append, List.takeWhile_nil] at none
  rw [List.takeWhile_append_of_pos inside, none, List.append_nil]

theorem dropWhile_run {s : Text} (inside : ∀ c ∈ s, p c = true)
    (outside : ∀ c ∈ t.head?, p c = false) : (s ++ t).dropWhile p = t := by
  have all := dropWhile_append_of_head [] outside
  rw [List.nil_append, List.dropWhile_nil, List.nil_append] at all
  rw [List.dropWhile_append_of_pos inside, all]

end Chatdown.Text
