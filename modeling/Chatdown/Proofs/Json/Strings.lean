import Chatdown.Json.StringScan

/-! # Written strings

The reader of strings takes the written form of a character for that character, be it the character
itself, an escape of one character or a hexadecimal one. A string in quotes is therefore read as
its text, whatever follows the closing quote.
-/

namespace Chatdown.Json

/-- The characters that are written as a backslash and one character, with that character. -/
def shortEscapes : List (Char × Char) :=
  [('"', '"'), ('\\', '\\'), ('\x08', 'b'), ('\t', 't'), ('\n', 'n'), ('\x0c', 'f'), ('\r', 'r')]

/-- Each character is written in one of three ways. -/
theorem escapeChar_cases (c : Char) :
    (∃ d, (c, d) ∈ shortEscapes ∧ escapeChar c = ['\\', d]) ∨
    (c < ' ' ∧
      escapeChar c = ['\\', 'u', '0', '0', hexDigit (c.toNat / 16), hexDigit (c.toNat % 16)]) ∨
    (c ≠ '"' ∧ c ≠ '\\' ∧ ¬ c < ' ' ∧ escapeChar c = [c]) := by
  by_cases short : c ∈ shortEscapes.map Prod.fst
  · simp only [shortEscapes, List.map_cons, List.map_nil, List.mem_cons, List.not_mem_nil,
      or_false] at short
    refine .inl ?_
    rcases short with rfl | rfl | rfl | rfl | rfl | rfl | rfl
    all_goals exact ⟨_, by decide, rfl⟩
  · simp only [shortEscapes, List.map_cons, List.map_nil, List.mem_cons, List.not_mem_nil,
      or_false, not_or] at short
    obtain ⟨quote, backslash, backspace, tab, newline, formFeed, carriageReturn⟩ := short
    refine .inr ?_
    have same : escapeChar c = if c < ' ' then
        ['\\', 'u', '0', '0', hexDigit (c.toNat / 16), hexDigit (c.toNat % 16)] else [c] := by
      simp only [escapeChar, quote, backslash, backspace, tab, newline, formFeed, carriageReturn,
        if_false]
      rfl
    by_cases control : c < ' '
    · exact .inl ⟨control, by rw [same, if_pos control]⟩
    · exact .inr ⟨quote, backslash, control, by rw [same, if_neg control]⟩

theorem toNat_of_control {c : Char} (control : c < ' ') : c.toNat < 32 := control

namespace StringScan

private theorem simpleEscape?_of_mem {c d : Char} (short : (c, d) ∈ shortEscapes) :
    simpleEscape? d = some c ∧ d ≠ 'u' := by
  simp only [shortEscapes, List.mem_cons, Prod.mk.injEq, List.not_mem_nil, or_false] at short
  rcases short with ⟨rfl, rfl⟩ | ⟨rfl, rfl⟩ | ⟨rfl, rfl⟩ | ⟨rfl, rfl⟩ | ⟨rfl, rfl⟩ | ⟨rfl, rfl⟩ |
    ⟨rfl, rfl⟩
  all_goals decide

/-- The digits of a control character make its number. -/
theorem unit?_of_control {n : Nat} (small : n < 32) (rest : Text) :
    unit? ('0' :: '0' :: hexDigit (n / 16) :: hexDigit (n % 16) :: rest) = some n := by
  have each : ∀ n, n < 32 →
      unit? ['0', '0', hexDigit (n / 16), hexDigit (n % 16)] = some n := by decide
  exact each n small

/-- The characters in front of the rest have been read. -/
theorem readFrom_skip (text : StringText) (place : Place) (size : Nat) (read rest : Text) :
    readFrom text place size read.length (read ++ rest) = readFrom text place size 0 rest := by
  induction read with
  | nil => rfl
  | cons c read ih => exact ih

/-- A written character adds the character to what has been read. -/
theorem readFrom_escapeChar (read : Text) (place : Place) (size : Nat) (c : Char) (rest : Text) :
    ∃ after, readFrom (.reading read none) place size 0 (escapeChar c ++ rest) =
      readFrom (.reading (c :: read) none) after (size + (escapeChar c).length) 0 rest := by
  rcases escapeChar_cases c with ⟨d, short, written⟩ | ⟨control, written⟩ |
    ⟨notQuote, notBackslash, notControl, written⟩
  · obtain ⟨meaning, notUnit⟩ := simpleEscape?_of_mem short
    refine ⟨(place.next '\\').next d, ?_⟩
    rw [written, List.cons_append, List.singleton_append, readFrom]
    simp only [if_neg notUnit, meaning]
    exact readFrom_skip _ _ _ [d] rest
  · have small := toNat_of_control control
    refine ⟨⟨place.line, place.column + 6⟩, ?_⟩
    simp only [written, List.cons_append, List.nil_append]
    rw [readFrom]
    simp only [unit?_of_control small]
    -- Control characters are below the surrogates, which alone are not read by themselves.
    have plain : StringText.pushUnit c.toNat ⟨place.line, place.column + 6⟩ (.reading read none) =
        .reading (c :: read) none := by
      have notTrail : ¬ 0xDC00 ≤ c.toNat := by omega
      have notLead : ¬ 0xD800 ≤ c.toNat := by omega
      simp only [StringText.pushUnit, notTrail, notLead, decide_false, Bool.false_and,
        Bool.false_eq_true, if_false, Char.ofNat_toNat]
    rw [plain]
    exact readFrom_skip _ _ _
      ['u', '0', '0', hexDigit (c.toNat / 16), hexDigit (c.toNat % 16)] rest
  · refine ⟨place.next c, ?_⟩
    rw [written, List.singleton_append, readFrom.eq_def]
    simp only [if_neg notQuote, if_neg notControl, if_neg notBackslash]
    rfl

private theorem readFrom_escaped (read : Text) (place : Place) (size : Nat) (t rest : Text) :
    ∃ after, readFrom (.reading read none) place size 0 (t.flatMap escapeChar ++ '"' :: rest) =
      ⟨.ok (read.reverse ++ t), none, size + (t.flatMap escapeChar).length + 1, after⟩ := by
  induction t generalizing read place size with
  | nil =>
    refine ⟨place.next '"', ?_⟩
    rw [List.flatMap_nil, List.nil_append, readFrom.eq_def, List.append_nil]
    rfl
  | cons c t ih =>
    obtain ⟨place, head⟩ :=
      readFrom_escapeChar read place size c (t.flatMap escapeChar ++ '"' :: rest)
    obtain ⟨after, tail⟩ := ih (c :: read) place (size + (escapeChar c).length)
    refine ⟨after, ?_⟩
    rw [List.flatMap_cons, List.append_assoc, head, tail, List.length_append, List.reverse_cons,
      List.append_assoc, List.singleton_append, Nat.add_assoc size]

/-- A string in quotes is read as its text, up to the closing quote. -/
theorem read_quoted (place : Place) (t rest : Text) :
    ∃ after, read place (t.flatMap escapeChar ++ '"' :: rest) =
      ⟨.ok t, none, (quote t).length, after⟩ := by
  obtain ⟨after, same⟩ := readFrom_escaped [] place 1 t rest
  refine ⟨after, ?_⟩
  have length : 1 + (t.flatMap escapeChar).length + 1 = (quote t).length := by
    simp only [quote, List.length_append, List.length_cons, List.length_nil]
    omega
  rw [read, same, length]
  rfl

end StringScan

end Chatdown.Json
