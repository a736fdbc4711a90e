import Chatdown.Text

/-! # Readers of lines

A reader of lines keeps the line that it is in, backwards, and ends it at a line feed, with or
without a carriage return before it, and at the end of the text if the line has begun. Readers may
differ in what they keep of a character, but all of them see the same lines whether or not returns
stand before the feeds, and whether or not a feed ends the last line.
-/

namespace Chatdown.Text

/-- A text with a carriage return before each line feed. -/
def withReturns (t : Text) : Text :=
  t.flatMap fun c => if c = '\n' then ['\r', '\n'] else [c]

private theorem withReturns_feed (t : Text) :
    withReturns ('\n' :: t) = '\r' :: '\n' :: withReturns t := rfl

private theorem withReturns_char {c : Char} (notFeed : c ≠ '\n') (t : Text) :
    withReturns (c :: t) = c :: withReturns t := by
  rw [withReturns, List.flatMap_cons, if_neg notFeed, List.singleton_append, withReturns]

/-- A function that gives the lines of a text after the line that has begun, of which it keeps each
character as `keep` says. -/
structure IsLineReader (read : Text → Text → List Text) (keep : Char → Char) : Prop where
  ending (line : Text) : read line [] = if line = [] then [] else [line.reverse]
  feed (line t : Text) : read line ('\n' :: t) = line.reverse :: read [] t
  returnFeed (line t : Text) : read line ('\r' :: '\n' :: t) = line.reverse :: read [] t
  char {c : Char} (notFeed : c ≠ '\n') (notReturn : c ≠ '\r') (line t : Text) :
    read line (c :: t) = read (keep c :: line) t

namespace IsLineReader

variable {read : Text → Text → List Text} {keep : Char → Char} (reader : IsLineReader read keep)

include reader

/-- Characters that end no line are kept one by one. -/
theorem append {l : Text} (within : ∀ c ∈ l, c ≠ '\n' ∧ c ≠ '\r') (line t : Text) :
    read line (l ++ t) = read ((l.map keep).reverse ++ line) t := by
  induction l generalizing line with
  | nil => rfl
  | cons c l ih =>
    obtain ⟨notFeed, notReturn⟩ := within c (List.mem_cons_self ..)
    have rest := ih (fun d member => within d (List.mem_cons_of_mem c member)) (keep c :: line)
    rw [List.cons_append, reader.char notFeed notReturn, rest, List.map_cons, List.reverse_cons,
      List.append_assoc, List.singleton_append]

theorem withReturns {t : Text} (noReturn : '\r' ∉ t) (line : Text) :
    read line t.withReturns = read line t := by
  induction t generalizing line with
  | nil => rfl
  | cons c t ih =>
    simp only [List.mem_cons, not_or] at noReturn
    obtain ⟨notReturn, noReturn⟩ := noReturn
    by_cases feed : c = '\n'
    · subst feed
      rw [withReturns_feed, reader.returnFeed, reader.feed, ih noReturn]
    · rw [withReturns_char feed, reader.char feed (Ne.symm notReturn),
        reader.char feed (Ne.symm notReturn), ih noReturn]

/-- A line that has begun and goes to the end of the text may as well have a line feed there. -/
theorem append_feed {t : Text} (noReturn : '\r' ∉ t) (unended : t.getLast? ≠ some '\n')
    {line : Text} (begun : line ≠ [] ∨ t ≠ []) : read line (t ++ ['\n']) = read line t := by
  induction t generalizing line with
  | nil =>
    have begun : line ≠ [] := begun.resolve_right (absurd rfl)
    rw [List.nil_append, reader.feed, reader.ending, reader.ending, if_pos rfl, if_neg begun]
  | cons c t ih =>
    simp only [List.mem_cons, not_or] at noReturn
    obtain ⟨notReturn, noReturn⟩ := noReturn
    have later : t.getLast? ≠ some '\n' := by
      intro ended
      apply unended
      rw [List.getLast?_cons, ended]
      rfl
    by_cases feed : c = '\n'
    · subst feed
      have more : t ≠ [] := by
        rintro rfl
        exact unended rfl
      rw [List.cons_append, reader.feed, reader.feed, ih noReturn later (.inr more)]
    · rw [List.cons_append, reader.char feed (Ne.symm notReturn),
        reader.char feed (Ne.symm notReturn), ih noReturn later (.inl (List.cons_ne_nil _ _))]

end IsLineReader

end Chatdown.Text
