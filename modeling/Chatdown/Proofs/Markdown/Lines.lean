import Chatdown.Markdown.Line
import Chatdown.Proofs.Text.Join
import Chatdown.Proofs.Text.LineReaders

/-! # Sources written line by line

A text without line ends and without NUL is a line as it stands. A source that is written as such
lines, each with a line feed after it, is split into exactly these lines.
-/

namespace Chatdown.Markdown

/-- A text that can be a line of a source, and is read as it is written. -/
def IsLine (t : Text) : Prop := ∀ c ∈ t, c ≠ '\n' ∧ c ≠ '\r' ∧ c ≠ '\x00'

instance (t : Text) : Decidable (IsLine t) := List.decidableBAll _ t

theorem isLine_append {s t : Text} (first : IsLine s) (second : IsLine t) : IsLine (s ++ t) :=
  fun c member => (List.mem_append.mp member).elim (first c) (second c)

namespace Line

theorem isLineReader_splitFrom :
    Text.IsLineReader splitFrom fun c => if c = '\x00' then '\uFFFD' else c where
  ending _ := by rw [splitFrom]
  feed line t := by
    rw [splitFrom, if_pos (by decide)]
    rintro _ ⟨⟩
  returnFeed line t := by rw [splitFrom]
  char notFeed notReturn line t := by
    rw [splitFrom, if_neg (by simp [notFeed, notReturn])]
    rintro _ rfl
    exact absurd rfl notReturn

private theorem splitFrom_line {l : Text} (isLine : IsLine l) (start t : Text) :
    splitFrom start (l ++ t) = splitFrom (l.reverse ++ start) t := by
  have kept : l.map (fun c => if c = '\x00' then '\uFFFD' else c) = l := by
    refine (List.map_congr_left fun c member => ?_).trans (List.map_id l)
    exact if_neg (isLine c member).2.2
  have within : ∀ c ∈ l, c ≠ '\n' ∧ c ≠ '\r' := fun c member =>
    ⟨(isLine c member).1, (isLine c member).2.1⟩
  rw [isLineReader_splitFrom.append within, kept]

theorem split_line_append {l : Text} (isLine : IsLine l) (t : Text) :
    split (l ++ '\n' :: t) = l :: split t := by
  rw [split, splitFrom_line isLine, List.append_nil, isLineReader_splitFrom.feed,
    List.reverse_reverse, split]

theorem split_line {l : Text} (isLine : IsLine l) (nonempty : l ≠ []) : split l = [l] := by
  have whole := splitFrom_line isLine [] []
  rw [List.append_nil, List.append_nil, splitFrom, if_neg (by simpa using nonempty),
    List.reverse_reverse] at whole
  exact whole

theorem split_lines_append {ls : List Text} (each : ∀ l ∈ ls, IsLine l) (t : Text) :
    split (ls.flatMap (· ++ ['\n']) ++ t) = ls ++ split t := by
  induction ls with
  | nil => rfl
  | cons l ls ih =>
    have rest := ih fun other member => each other (List.mem_cons_of_mem l member)
    rw [List.flatMap_cons, List.append_assoc, List.append_assoc, List.singleton_append,
      split_line_append (each l (List.mem_cons_self ..)), rest, List.cons_append]

theorem split_join {ls : List Text} (each : ∀ l ∈ ls, IsLine l)
    (last : ∀ l ∈ ls.getLast?, l ≠ []) : split (['\n'].intercalate ls) = ls := by
  induction ls with
  | nil => rfl
  | cons l ls ih =>
    have first := each l (List.mem_cons_self ..)
    cases ls with
    | nil =>
      rw [List.intercalate_singleton]
      exact split_line first (last l rfl)
    | cons k ls =>
      rw [List.getLast?_cons_cons] at last
      rw [List.intercalate_cons_cons, List.append_assoc, List.singleton_append,
        split_line_append first, ih (fun other member => each other (List.mem_cons_of_mem l member)) last]

/-- A line end after the last line makes no difference. -/
theorem split_join_append {l : Text} {ls : List Text} (each : ∀ k ∈ l :: ls, IsLine k) :
    split (['\n'].intercalate (l :: ls) ++ ['\n']) = l :: ls := by
  have all := split_lines_append each []
  have none : split [] = [] := rfl
  rwa [List.append_nil, Text.flatMap_append_eq_intercalate_append, none, List.append_nil] at all

end Line

end Chatdown.Markdown
