import Chatdown.Json.Token
import Chatdown.Proofs.Json.Strings

/-! # Inside and outside of strings

A reader of JSON text that knows no more than quotes and backslashes can tell what is in a string.
With it white space between strings can be taken away, and it can be said what a string literal is
made of. A written string is read as one literal: nothing in it is taken away, no control character
stands in it as it is, and every backslash begins an escape.
-/

namespace Chatdown.Json

/-- Where a character of JSON text stands. -/
inductive Quoting where
  | outside
  | inString
  | afterBackslash
  deriving DecidableEq

namespace Quoting

def next : Quoting → Char → Quoting
  | outside, c => if c = '"' then inString else outside
  | inString, c => if c = '"' then outside else if c = '\\' then afterBackslash else inString
  | afterBackslash, _ => inString

def after (q : Quoting) (t : Text) : Quoting := t.foldl next q

theorem after_append (q : Quoting) (s t : Text) : q.after (s ++ t) = (q.after s).after t :=
  List.foldl_append

/-- A text without the white space outside of strings. -/
def withoutBlanks (q : Quoting) : Text → Text
  | [] => []
  | c :: t =>
    if q = outside ∧ Token.isBlank c = true then withoutBlanks outside t
    else c :: withoutBlanks (q.next c) t

end Quoting

/-- Text after a backslash that goes on with the rest of an escape: one letter or symbol, or the
number of a control character in four hexadecimal digits. -/
def IsEscapeRest (t : Text) : Prop :=
  (∃ c ∈ "\"\\btnfr".toList, ∃ rest, t = c :: rest) ∨
    ∃ high ∈ "01".toList, ∃ low ∈ "0123456789abcdef".toList, ∃ rest,
      t = "u00".toList ++ high :: low :: rest

/-- Text in which control characters in strings are escaped and backslashes in strings begin
escapes. -/
def IsEscaped (q : Quoting) : Text → Prop
  | [] => True
  | c :: t => (q = .inString → ' ' ≤ c ∧ (c = '\\' → IsEscapeRest t)) ∧ IsEscaped (q.next c) t

theorem IsEscapeRest.append {s : Text} (escape : IsEscapeRest s) (t : Text) :
    IsEscapeRest (s ++ t) := by
  rcases escape with ⟨c, letter, rest, rfl⟩ | ⟨high, isHigh, low, isLow, rest, rfl⟩
  · exact .inl ⟨c, letter, rest ++ t, rfl⟩
  · exact .inr ⟨high, isHigh, low, isLow, rest ++ t, by
      simp only [List.append_assoc, List.cons_append]⟩

/-- What is escaped is so at each of its places. -/
theorem IsEscaped.at_place {q : Quoting} {before after : Text} {c : Char}
    (escaped : IsEscaped q (before ++ c :: after)) (inside : q.after before = .inString) :
    ' ' ≤ c ∧ (c = '\\' → IsEscapeRest after) := by
  induction before generalizing q with
  | nil => exact escaped.1 inside
  | cons d before ih => exact ih escaped.2 inside

theorem IsEscaped.append {q : Quoting} {s t : Text} (first : IsEscaped q s)
    (second : IsEscaped (q.after s) t) : IsEscaped q (s ++ t) := by
  induction s generalizing q with
  | nil => exact second
  | cons c s ih =>
    refine ⟨fun inside => ?_, ih first.2 second⟩
    exact (first.1 inside).imp_right fun escape backslash => (escape backslash).append t

namespace Quoting

theorem withoutBlanks_append (q : Quoting) (s t : Text) :
    q.withoutBlanks (s ++ t) = q.withoutBlanks s ++ (q.after s).withoutBlanks t := by
  induction s generalizing q with
  | nil => rfl
  | cons c s ih =>
    by_cases blank : q = outside ∧ Token.isBlank c = true
    · have stays : q.next c = outside := by
        obtain ⟨rfl, blank⟩ := blank
        have notQuote : c ≠ '"' := by
          rintro rfl
          exact absurd blank (by decide)
        rw [next, if_neg notQuote]
      rw [List.cons_append, withoutBlanks, if_pos blank, withoutBlanks, if_pos blank, ih, after,
        after, List.foldl_cons, stays]
    · rw [List.cons_append, withoutBlanks, if_neg blank, withoutBlanks, if_neg blank, ih]
      rfl

end Quoting

/-- A part of a string literal: nothing in it ends the string or is taken away, and it is
escaped. -/
structure IsLiteralPart (t : Text) : Prop where
  after : Quoting.inString.after t = .inString
  kept : Quoting.inString.withoutBlanks t = t
  escaped : IsEscaped .inString t

namespace IsLiteralPart

theorem nil : IsLiteralPart [] := ⟨rfl, rfl, trivial⟩

theorem append {s t : Text} (first : IsLiteralPart s) (second : IsLiteralPart t) :
    IsLiteralPart (s ++ t) where
  after := by rw [Quoting.after_append, first.after, second.after]
  kept := by rw [Quoting.withoutBlanks_append, first.after, first.kept, second.kept]
  escaped := first.escaped.append (first.after.symm ▸ second.escaped)

/-- Any other character than quotes, backslashes and control characters. -/
theorem char {c : Char} (notQuote : c ≠ '"') (notBackslash : c ≠ '\\') (notControl : ' ' ≤ c) :
    IsLiteralPart [c] where
  after := by simp [Quoting.after, Quoting.next, notQuote, notBackslash]
  kept := by simp [Quoting.withoutBlanks]
  escaped := ⟨fun _ => ⟨notControl, fun same => absurd same notBackslash⟩, trivial⟩

/-- A backslash and the rest of an escape. -/
theorem escape {c : Char} {t : Text} (rest : IsEscapeRest (c :: t)) (others : IsLiteralPart t) :
    IsLiteralPart ('\\' :: c :: t) where
  after := others.after
  kept := by
    have kept := others.kept
    simp only [Quoting.withoutBlanks, Quoting.next] at kept ⊢
    simp [kept]
  escaped := by
    have backslash : Quoting.inString.next '\\' = .afterBackslash := rfl
    refine ⟨fun _ => ⟨by decide, fun _ => rest⟩, ?_⟩
    rw [backslash]
    exact ⟨(fun inside => nomatch inside), others.escaped⟩

end IsLiteralPart

private theorem isEscapeRest_short {c d : Char} (short : (c, d) ∈ shortEscapes) :
    IsEscapeRest [d] := by
  refine .inl ⟨d, ?_, [], rfl⟩
  simp only [shortEscapes, List.mem_cons, Prod.mk.injEq, List.not_mem_nil, or_false] at short
  rcases short with ⟨_, rfl⟩ | ⟨_, rfl⟩ | ⟨_, rfl⟩ | ⟨_, rfl⟩ | ⟨_, rfl⟩ | ⟨_, rfl⟩ | ⟨_, rfl⟩
  all_goals decide

private theorem hexDigits_of_control {n : Nat} (small : n < 32) :
    hexDigit (n / 16) ∈ "01".toList ∧ hexDigit (n % 16) ∈ "0123456789abcdef".toList := by
  have each : ∀ n, n < 32 → hexDigit (n / 16) ∈ "01".toList ∧
      hexDigit (n % 16) ∈ "0123456789abcdef".toList := by decide
  exact each n small

private theorem isLiteralPart_hexDigit {c : Char} (digit : c ∈ "0123456789abcdef".toList) :
    IsLiteralPart [c] := by
  have each : ∀ c ∈ "0123456789abcdef".toList, c ≠ '"' ∧ c ≠ '\\' ∧ ' ' ≤ c := by simp
  obtain ⟨notQuote, notBackslash, notControl⟩ := each c digit
  exact .char notQuote notBackslash notControl

/-- Each written character is a part of a literal. -/
theorem isLiteralPart_escapeChar (c : Char) : IsLiteralPart (escapeChar c) := by
  rcases escapeChar_cases c with ⟨d, short, written⟩ | ⟨control, written⟩ |
    ⟨notQuote, notBackslash, notControl, written⟩
  · rw [written]
    exact .escape (isEscapeRest_short short) .nil
  · obtain ⟨high, low⟩ := hexDigits_of_control (toNat_of_control control)
    have zero : IsLiteralPart ['0'] := isLiteralPart_hexDigit (by decide)
    have highDigit : IsLiteralPart [hexDigit (c.toNat / 16)] :=
      isLiteralPart_hexDigit (List.mem_of_mem_take (i := 2) high)
    have digits := zero.append (zero.append (highDigit.append (isLiteralPart_hexDigit low)))
    rw [written]
    exact .escape (.inr ⟨_, high, _, low, [], rfl⟩) digits
  · rw [written]
    exact .char notQuote notBackslash (Char.not_lt.mp notControl)

private theorem isLiteralPart_flatMap (t : Text) : IsLiteralPart (t.flatMap escapeChar) := by
  induction t with
  | nil => exact .nil
  | cons c t ih => exact (isLiteralPart_escapeChar c).append ih

/-- After a string in quotes the text goes on outside of strings. -/
theorem after_quote (t : Text) : Quoting.outside.after (quote t) = .outside := by
  have part := (isLiteralPart_flatMap t).after
  rw [quote, List.cons_append]
  change Quoting.inString.after (t.flatMap escapeChar ++ ['"']) = .outside
  rw [Quoting.after_append, part]
  rfl

/-- Nothing is taken away from a string in quotes. -/
theorem withoutBlanks_quote (t : Text) : Quoting.outside.withoutBlanks (quote t) = quote t := by
  have part := isLiteralPart_flatMap t
  have body : Quoting.inString.withoutBlanks (t.flatMap escapeChar ++ ['"']) =
      t.flatMap escapeChar ++ ['"'] := by
    rw [Quoting.withoutBlanks_append, part.kept, part.after]
    rfl
  have opened : Quoting.outside.withoutBlanks (quote t) =
      '"' :: Quoting.inString.withoutBlanks (t.flatMap escapeChar ++ ['"']) := by
    rw [quote, List.cons_append, Quoting.withoutBlanks, if_neg (by decide)]
    rfl
  rw [opened, body, quote, List.cons_append]

/-- A string in quotes is escaped. -/
theorem isEscaped_quote (t : Text) : IsEscaped .outside (quote t) := by
  have part := isLiteralPart_flatMap t
  have closing : IsEscaped (Quoting.inString.after (t.flatMap escapeChar)) ['"'] := by
    rw [part.after]
    exact ⟨fun _ => ⟨by decide, fun same => absurd same (by decide)⟩, trivial⟩
  have opening : Quoting.outside.next '"' = .inString := rfl
  rw [quote, List.cons_append, IsEscaped, opening]
  exact ⟨fun same => absurd same (by decide), part.escaped.append closing⟩

end Chatdown.Json
