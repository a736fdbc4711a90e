import Chatdown.Directory
import Chatdown.Mention
import Chatdown.Proofs.Markup.Escape

/-! # Mention tokens and escaping

A text is cut into pieces from left to right, and what a token is depends only on the run of name
characters after an `@`. Entities begin with a character that no name has and hold no `@`, so that
escaping a text and cutting it commute: `pieces_escape`. Names that are looked up are nonempty and
lower case.
-/

namespace Chatdown.Mention

open Markup

/-- A name as tokens hold it: name characters, and at least one. -/
def IsName (name : Text) : Prop := name ≠ [] ∧ ∀ c ∈ name, isNameChar c = true

instance (name : Text) : Decidable (IsName name) :=
  @instDecidableAnd _ _ _ (List.decidableBAll _ name)

@[simp] theorem pieces_nil : pieces [] = [] := by
  rw [pieces]

theorem pieces_at {rest : Text} (named : rest.takeWhile isNameChar ≠ []) :
    pieces ('@' :: rest) =
      .token (rest.takeWhile isNameChar) :: pieces (rest.dropWhile isNameChar) := by
  rw [pieces, if_pos (by simp [named])]

theorem pieces_char {c : Char} {rest : Text}
    (bare : c = '@' → rest.takeWhile isNameChar = []) :
    pieces (c :: rest) = .char c :: pieces rest := by
  rw [pieces, if_neg]
  intro token
  simp only [Bool.and_eq_true, decide_eq_true_eq] at token
  exact token.2 (bare token.1)

/-- Texts are read as `pieces` reads them: token by token, and else character by character. -/
@[elab_as_elim]
theorem pieces_induction {motive : Text → Prop} (nil : motive [])
    (token : ∀ rest, rest.takeWhile isNameChar ≠ [] → motive (rest.dropWhile isNameChar) →
      motive ('@' :: rest))
    (char : ∀ c rest, (c = '@' → rest.takeWhile isNameChar = []) → motive rest →
      motive (c :: rest))
    (t : Text) : motive t := by
  induction t using pieces.induct with
  | case1 => exact nil
  | case2 c rest named ih =>
    simp only [Bool.and_eq_true, decide_eq_true_eq] at named
    obtain ⟨rfl, named⟩ := named
    exact token rest named ih
  | case3 c rest bare ih =>
    simp only [Bool.and_eq_true, decide_eq_true_eq, not_and, ne_eq, Decidable.not_not] at bare
    exact char c rest bare ih

/-- Text without an `@` is cut into single characters, whatever follows it. -/
theorem pieces_append_of_no_at {s : Text} (none : '@' ∉ s) (t : Text) :
    pieces (s ++ t) = s.map .char ++ pieces t := by
  induction s with
  | nil => rfl
  | cons c s ih =>
    simp only [List.mem_cons, not_or] at none
    rw [List.cons_append, pieces_char fun same => absurd same.symm none.1, ih none.2]
    rfl

/-- No token goes over a character that is neither an `@` nor part of a name. -/
theorem pieces_append_cons {c : Char} (notAt : c ≠ '@') (outside : isNameChar c = false)
    (s t : Text) : pieces (s ++ c :: t) = pieces s ++ .char c :: pieces t := by
  have head : ∀ d ∈ (c :: t).head?, isNameChar d = false := by simpa using outside
  induction s using pieces_induction with
  | nil => rw [List.nil_append, pieces_nil, List.nil_append,
      pieces_char fun same => absurd same notAt]
  | token rest named ih =>
    have run := Text.takeWhile_append_of_head rest head
    rw [List.cons_append, pieces_at (run.symm ▸ named), run,
      Text.dropWhile_append_of_head rest head, ih, pieces_at named]
    rfl
  | char d rest bare ih =>
    have run := Text.takeWhile_append_of_head rest head
    rw [List.cons_append, pieces_char fun same => run.trans (bare same), ih, pieces_char bare]
    rfl

/-- The tokens of a text hold names. -/
theorem isName_of_token_mem_pieces {t name : Text} (member : .token name ∈ pieces t) :
    IsName name := by
  induction t using pieces_induction with
  | nil => simp at member
  | token rest named ih =>
    rw [pieces_at named] at member
    rcases List.mem_cons.mp member with same | later
    · cases same
      exact ⟨named, List.all_eq_true.mp List.all_takeWhile⟩
    · exact ih later
  | char c rest bare ih =>
    rw [pieces_char bare] at member
    rcases List.mem_cons.mp member with same | later
    · cases same
    · exact ih later

theorem isSpecial_of_isNameChar {c : Char} (name : isNameChar c = true) :
    isSpecial c = false := by
  cases special : isSpecial c with
  | false => rfl
  | true =>
    rcases isSpecial_iff.mp special with rfl | rfl | rfl | rfl <;> exact absurd name (by decide)

/-- Entities begin with a character that no name has. -/
private theorem entity_head {e : Text} (known : e ∈ entities) :
    ∃ tail, e = '&' :: tail := by
  simp only [entities, List.mem_cons, List.not_mem_nil, or_false] at known
  rcases known with rfl | rfl | rfl | rfl <;> exact ⟨_, rfl⟩

private theorem at_not_mem_escapeChar {c : Char} (special : isSpecial c = true) :
    '@' ∉ escapeChar c := by
  rcases isSpecial_iff.mp special with rfl | rfl | rfl | rfl <;> decide

/-- Escaping leaves the run of name characters at the start of a text alone. -/
theorem takeWhile_isNameChar_escape (t : Text) :
    (escape t).takeWhile isNameChar = t.takeWhile isNameChar := by
  induction t with
  | nil => rfl
  | cons c t ih =>
    cases special : isSpecial c with
    | false => simp only [escape_cons, escapeChar_of_ordinary special, List.singleton_append,
        List.takeWhile_cons, ih]
    | true =>
      obtain ⟨tail, entity⟩ := entity_head (escapeChar_mem_entities special)
      have notName : isNameChar c = false := by
        cases name : isNameChar c with
        | false => rfl
        | true => simp [isSpecial_of_isNameChar name] at special
      rw [escape_cons, entity, List.cons_append, List.takeWhile_cons, List.takeWhile_cons, notName]
      rfl

private theorem dropWhile_isNameChar_escape (t : Text) :
    (escape t).dropWhile isNameChar = escape (t.dropWhile isNameChar) := by
  induction t with
  | nil => rfl
  | cons c t ih =>
    cases name : isNameChar c with
    | true =>
      rw [escape_cons, escapeChar_of_ordinary (isSpecial_of_isNameChar name),
        List.singleton_append, List.dropWhile_cons_of_pos name, List.dropWhile_cons_of_pos name, ih]
    | false =>
      rw [List.dropWhile_cons_of_neg (by simp [name]), escape_cons]
      cases special : isSpecial c with
      | false =>
        rw [escapeChar_of_ordinary special, List.singleton_append,
          List.dropWhile_cons_of_neg (by simp [name])]
      | true =>
        obtain ⟨tail, entity⟩ := entity_head (escapeChar_mem_entities special)
        rw [entity, List.cons_append, List.dropWhile_cons_of_neg (by decide)]

/-- The pieces of a piece's written form: characters are escaped, tokens are kept. -/
def Piece.escaped : Piece → List Piece
  | .char c => (escapeChar c).map .char
  | .token name => [.token name]

/-- Escaping first and cutting afterwards finds exactly the tokens of the text itself. -/
theorem pieces_escape (t : Text) : pieces (escape t) = (pieces t).flatMap Piece.escaped := by
  induction t using pieces_induction with
  | nil => simp
  | token rest named ih =>
    have same := takeWhile_isNameChar_escape rest
    rw [pieces_at named, escape_cons, escapeChar_of_ordinary (by decide), List.singleton_append,
      pieces_at (by rw [same]; exact named), same, dropWhile_isNameChar_escape, ih]
    rfl
  | char c rest bare ih =>
    rw [pieces_char bare, escape_cons, List.flatMap_cons, Piece.escaped]
    cases special : isSpecial c with
    | false =>
      rw [escapeChar_of_ordinary special, List.singleton_append,
        pieces_char fun same => by rw [takeWhile_isNameChar_escape, bare same], ih]
      rfl
    | true => rw [pieces_append_of_no_at (at_not_mem_escapeChar special), ih]

/-- No known manager has a name with a special character. -/
def NamesOrdinary (find? : Text → Option Manager) : Prop :=
  ∀ name m, find? name = some m → ∀ c ∈ m.name, isSpecial c = false

/-- It is enough to look at all entries of a directory. -/
theorem namesOrdinary_of_entries {d : Directory}
    (ordinary : (d.entries.all fun entry => entry.2.name.all (!isSpecial ·)) = true) :
    NamesOrdinary d.find? := by
  intro name m found c member
  obtain ⟨before, after, listed, _⟩ := List.lookup_eq_some_iff.mp found
  have entry : (name, m) ∈ d.entries :=
    listed ▸ List.mem_append_right before (List.mem_cons_self ..)
  have names := List.all_eq_true.mp (List.all_eq_true.mp ordinary _ entry) c member
  simpa using names

end Chatdown.Mention
