import Chatdown.Text

/-! # Joined texts

Texts that are joined begin like the first of them. With one more separator they are the texts with
a separator after each, and without the first they are the others with a separator before each.
Texts that do not hold the separator can be told apart by what they make.
-/

namespace Chatdown.Text

variable {t : Text}

theorem intercalate_cons_eq_append_flatMap (separator t : Text) (ts : List Text) :
    separator.intercalate (t :: ts) = t ++ ts.flatMap (separator ++ ·) := by
  induction ts generalizing t with
  | nil => rw [List.intercalate_singleton, List.flatMap_nil, List.append_nil]
  | cons s ts ih =>
    rw [List.intercalate_cons_cons, ih, List.flatMap_cons, List.append_assoc, List.append_assoc]

theorem append_cons_intercalate (separator : Char) (s t : Text) (ts : List Text) :
    s ++ separator :: [separator].intercalate (t :: ts) =
      [separator].intercalate (s :: t :: ts) := by
  rw [List.intercalate_cons_cons, List.append_assoc, List.singleton_append]

theorem intercalate_append (separator s t : Text) (ss ts : List Text) :
    separator.intercalate (s :: ss ++ t :: ts) =
      separator.intercalate (s :: ss) ++ (separator ++ separator.intercalate (t :: ts)) := by
  rw [List.cons_append, intercalate_cons_eq_append_flatMap, intercalate_cons_eq_append_flatMap,
    intercalate_cons_eq_append_flatMap, List.flatMap_append, List.flatMap_cons]
  simp only [List.append_assoc]

theorem flatMap_append_eq_intercalate_append (separator t : Text) (ts : List Text) :
    (t :: ts).flatMap (· ++ separator) = separator.intercalate (t :: ts) ++ separator := by
  induction ts generalizing t with
  | nil => simp
  | cons s ts ih =>
    rw [List.flatMap_cons, ih, List.intercalate_cons_cons]
    simp only [List.append_assoc]

theorem mem_intercalate {separator : Text} {ts : List Text} {c : Char}
    (member : c ∈ separator.intercalate ts) : (∃ t ∈ ts, c ∈ t) ∨ c ∈ separator := by
  cases ts with
  | nil => cases member
  | cons t ts =>
    rw [intercalate_cons_eq_append_flatMap, List.mem_append, List.mem_flatMap] at member
    rcases member with first | ⟨s, inside, char⟩
    · exact .inl ⟨t, List.mem_cons_self .., first⟩
    · rcases List.mem_append.mp char with between | later
      · exact .inr between
      · exact .inl ⟨s, List.mem_cons_of_mem t inside, later⟩

theorem head?_intercalate (nonempty : t ≠ []) (separator : Text) (ts : List Text) :
    (separator.intercalate (t :: ts)).head? = t.head? := by
  obtain ⟨c, u, rfl⟩ := List.exists_cons_of_ne_nil nonempty
  rw [intercalate_cons_eq_append_flatMap]
  rfl

theorem intercalate_ne_nil (nonempty : t ≠ []) (separator : Text) (ts : List Text) :
    separator.intercalate (t :: ts) ≠ [] := by
  rw [intercalate_cons_eq_append_flatMap]
  exact List.append_ne_nil_of_left_ne_nil nonempty _

/-- What comes before joined texts belongs to the first of them. -/
theorem append_intercalate (s separator t : Text) (ts : List Text) :
    s ++ separator.intercalate (t :: ts) = separator.intercalate ((s ++ t) :: ts) := by
  rw [intercalate_cons_eq_append_flatMap, intercalate_cons_eq_append_flatMap, List.append_assoc]

/-- Joining may be done in groups, of which none is empty. -/
theorem intercalate_map_intercalate (separator : Text) {groups : List (List Text)}
    (nonempty : ∀ g ∈ groups, g ≠ []) :
    separator.intercalate (groups.map separator.intercalate) =
      separator.intercalate groups.flatten := by
  induction groups with
  | nil => rfl
  | cons g groups ih =>
    rw [List.forall_mem_cons] at nonempty
    cases groups with
    | nil => rw [List.map_singleton, List.flatten_singleton, List.intercalate_singleton]
    | cons h groups =>
      obtain ⟨s, ss, rfl⟩ := List.exists_cons_of_ne_nil nonempty.1
      obtain ⟨t, ts, rfl⟩ := List.exists_cons_of_ne_nil (nonempty.2 h (List.mem_cons_self ..))
      calc separator.intercalate (((s :: ss) :: (t :: ts) :: groups).map separator.intercalate)
          = separator.intercalate (s :: ss) ++ (separator ++
              separator.intercalate (((t :: ts) :: groups).map separator.intercalate)) := by
            rw [List.map_cons, List.map_cons, List.intercalate_cons_cons, List.append_assoc]
        _ = separator.intercalate (s :: ss) ++
              (separator ++ separator.intercalate (t :: (ts ++ groups.flatten))) := by
            rw [ih nonempty.2, List.flatten_cons, List.cons_append]
        _ = separator.intercalate (s :: ss ++ t :: (ts ++ groups.flatten)) :=
            (intercalate_append ..).symm

/-- Texts that end in something else than a separator, and are joined, do so as well. -/
theorem getLast?_intercalate_ne {separator : Char} {ts : List Text}
    (first : separator ∉ t) (later : ∀ s ∈ ts, separator ∉ s ∧ s ≠ []) :
    ([separator].intercalate (t :: ts)).getLast? ≠ some separator := by
  induction ts generalizing t with
  | nil =>
    rw [List.intercalate_singleton]
    intro last
    exact first (List.mem_of_getLast? last)
  | cons s ts ih =>
    rw [List.forall_mem_cons] at later
    have nonempty := intercalate_ne_nil later.1.2 [separator] ts
    rw [List.intercalate_cons_cons, List.getLast?_append,
      List.getLast?_eq_some_getLast nonempty, Option.some_or, ← List.getLast?_eq_some_getLast]
    exact ih later.1.1 later.2

/-- Texts without a separator are told apart by what they make. -/
theorem intercalate_inj {separator : Char} {t u : Text} {ts us : List Text}
    (left : ∀ s ∈ t :: ts, separator ∉ s) (right : ∀ s ∈ u :: us, separator ∉ s) :
    [separator].intercalate (t :: ts) = [separator].intercalate (u :: us) ↔ t :: ts = u :: us := by
  refine ⟨fun same => ?_, congrArg _⟩
  rw [← List.splitOn_intercalate separator left (List.cons_ne_nil t ts), same,
    List.splitOn_intercalate separator right (List.cons_ne_nil u us)]

end Chatdown.Text
