import Chatdown.Json.Token
import Chatdown.Proofs.Json.Integers
import Chatdown.Proofs.Json.Strings

/-! # Tokens of written values

The compact form of a value and its pretty form have the same tokens, at other places. Both are
read token by token: `Scans` says which tokens lead from one text to another, and so readings of
parts are put together one after the other.
-/

namespace Chatdown.Json

open NumberScan

mutual

def tokenKinds : Json → List TokenKind
  | .string t => [.string (.ok t)]
  | .array vs => .openArray :: elementKinds vs ++ [.closeArray]
  | .object ms => .openObject :: memberKinds ms ++ [.closeObject]
  | v => [.scalar (.ok v)]

def elementKinds : List Json → List TokenKind
  | [] => []
  | v :: vs => tokenKinds v ++ laterElementKinds vs

def laterElementKinds : List Json → List TokenKind
  | [] => []
  | v :: vs => .comma :: tokenKinds v ++ laterElementKinds vs

def memberKinds : List (Text × Json) → List TokenKind
  | [] => []
  | (key, v) :: ms => .string (.ok key) :: .colon :: tokenKinds v ++ laterMemberKinds ms

def laterMemberKinds : List (Text × Json) → List TokenKind
  | [] => []
  | (key, v) :: ms =>
    .comma :: .string (.ok key) :: .colon :: tokenKinds v ++ laterMemberKinds ms

end

mutual

/-- Values whose numbers are integers that are read as such. -/
def IsExact : Json → Prop
  | .integer n => IsWide n
  | .float _ _ => False
  | .array vs => AreExact vs
  | .object ms => HaveExactValues ms
  | _ => True

def AreExact : List Json → Prop
  | [] => True
  | v :: vs => IsExact v ∧ AreExact vs

def HaveExactValues : List (Text × Json) → Prop
  | [] => True
  | (_, v) :: ms => IsExact v ∧ HaveExactValues ms

end

namespace Token

/-- Tokens of the given kinds lead from the start of a text to the rest of it, wherever the text
stands. -/
def Scans (t : Text) (kinds : List TokenKind) (rest : Text) : Prop :=
  ∀ place, ∃ tokens stop, tokens.map kind = kinds ∧
    scanFrom place 0 t = tokens ++ scanFrom stop 0 rest

theorem Scans.refl (t : Text) : Scans t [] t := fun place => ⟨[], place, rfl, rfl⟩

theorem Scans.trans {t u rest : Text} {first second : List TokenKind} (head : Scans t first u)
    (tail : Scans u second rest) : Scans t (first ++ second) rest := by
  intro place
  obtain ⟨tokens, middle, firstKinds, scanned⟩ := head place
  obtain ⟨others, stop, secondKinds, otherScanned⟩ := tail middle
  refine ⟨tokens ++ others, stop, ?_, ?_⟩
  · rw [List.map_append, firstKinds, secondKinds]
  · rw [scanned, otherScanned, List.append_assoc]

/-- A text that ends with tokens of the given kinds has these tokens and its end. -/
theorem Scans.scan_eq {t : Text} {kinds : List TokenKind} (scans : Scans t kinds []) :
    ∃ tokens last, tokens.map kind = kinds ∧ last.kind = .finish ∧ scan t = tokens ++ [last] := by
  obtain ⟨tokens, stop, same, scanned⟩ := scans .start
  exact ⟨tokens, ⟨.finish, stop, stop, stop⟩, same, rfl, by rw [scan, scanned, scanFrom]⟩

private theorem scanFrom_skip (place : Place) (read rest : Text) :
    scanFrom place read.length (read ++ rest) = scanFrom place 0 rest := by
  induction read with
  | nil => rfl
  | cons c read ih => exact ih

private theorem scans_blank {c : Char} (blank : isBlank c = true) (rest : Text) :
    Scans (c :: rest) [] rest := by
  intro place
  refine ⟨[], place.next c, rfl, ?_⟩
  rw [scanFrom, if_pos blank]
  rfl

theorem scans_blanks {blanks : Text} (blank : ∀ c ∈ blanks, isBlank c = true) (rest : Text) :
    Scans (blanks ++ rest) [] rest := by
  induction blanks with
  | nil => exact .refl rest
  | cons c blanks ih =>
    have tail := ih fun d member => blank d (List.mem_cons_of_mem c member)
    exact (scans_blank (blank c (List.mem_cons_self ..)) (blanks ++ rest)).trans tail

/-- White space goes on with no number. -/
theorem endsNumber_of_blank {blanks : Text} (blank : ∀ c ∈ blanks, isBlank c = true) :
    EndsNumber blanks := by
  intro c first
  have space := blank c (List.mem_of_mem_head? first)
  simp only [isBlank, Bool.or_eq_true, decide_eq_true_eq] at space
  rcases space with ((rfl | rfl) | rfl) | rfl <;> decide

private theorem scans_newLine (level : Nat) (rest : Text) :
    Scans (newLine level ++ rest) [] rest := by
  apply scans_blanks
  intro c member
  rcases List.mem_cons.mp member with rfl | space
  · decide
  · rw [List.eq_of_mem_replicate space]
    decide

/-- A token is read if what its first character begins is. -/
theorem scans_token {c : Char} {kind : TokenKind} (body rest : Text) (notBlank : isBlank c = false)
    (reads : ∀ place, ∃ stop, readKind place c (body ++ rest) = (kind, body.length + 1, stop)) :
    Scans (c :: body ++ rest) [kind] rest := by
  intro place
  obtain ⟨stop, read⟩ := reads place
  refine ⟨[⟨kind, place, place.skip 1 (c :: body ++ rest), stop⟩], stop, rfl, ?_⟩
  have same := scanFrom_skip stop body rest
  rw [List.cons_append, scanFrom, notBlank]
  simp only [Bool.false_eq_true, if_false, read, Nat.add_sub_cancel, same]
  rfl

section Marks

variable (rest : Text)

private theorem scans_openArray : Scans ('[' :: rest) [.openArray] rest :=
  scans_token [] rest (by decide) fun _ => ⟨_, rfl⟩

private theorem scans_closeArray : Scans (']' :: rest) [.closeArray] rest :=
  scans_token [] rest (by decide) fun _ => ⟨_, rfl⟩

private theorem scans_openObject : Scans ('\x7b' :: rest) [.openObject] rest :=
  scans_token [] rest (by decide) fun _ => ⟨_, rfl⟩

private theorem scans_closeObject : Scans ('\x7d' :: rest) [.closeObject] rest :=
  scans_token [] rest (by decide) fun _ => ⟨_, rfl⟩

private theorem scans_comma : Scans (',' :: rest) [.comma] rest :=
  scans_token [] rest (by decide) fun _ => ⟨_, rfl⟩

private theorem scans_colon : Scans (':' :: rest) [.colon] rest :=
  scans_token [] rest (by decide) fun _ => ⟨_, rfl⟩

end Marks

private theorem scans_quote (t rest : Text) : Scans (quote t ++ rest) [.string (.ok t)] rest := by
  refine scans_token (t.flatMap escapeChar ++ ['"']) rest (by decide) fun place => ?_
  obtain ⟨after, read⟩ := StringScan.read_quoted (place.next '"') t rest
  refine ⟨after, ?_⟩
  rw [List.append_assoc, List.singleton_append]
  change readString place (t.flatMap escapeChar ++ '"' :: rest) = _
  simp only [readString, read]
  rfl

private theorem scans_null (rest : Text) :
    Scans ("null".toList ++ rest) [.scalar (.ok .null)] rest :=
  scans_token "ull".toList rest (by decide) fun _ => ⟨_, rfl⟩

private theorem scans_bool (value : Bool) (rest : Text) :
    Scans (compact (.bool value) ++ rest) [.scalar (.ok (.bool value))] rest := by
  cases value with
  | true => exact scans_token "rue".toList rest (by decide) fun _ => ⟨_, rfl⟩
  | false => exact scans_token "alse".toList rest (by decide) fun _ => ⟨_, rfl⟩

/-- A minus sign or a digit begins a number and nothing else. -/
theorem readKind_number {c : Char} (start : c = '-' ∨ c.isDigit = true) (place : Place) (t : Text) :
    readKind place c t = ((readNumber place (c :: t)).1, (readNumber place (c :: t)).2,
      place.skip (readNumber place (c :: t)).2 (c :: t)) := by
  -- None of the characters that begin other tokens begins a number.
  have other : ∀ d : Char, d ≠ '-' → d.isDigit = false → c ≠ d := by
    rintro d notMinus notDigit rfl
    rcases start with minus | digit
    · exact notMinus minus
    · rw [notDigit] at digit
      cases digit
  have number : (c = '-' || c.isDigit) = true := by simpa using start
  simp only [readKind, number, if_true, if_neg (other '[' (by decide) (by decide)),
    if_neg (other ']' (by decide) (by decide)), if_neg (other '\x7b' (by decide) (by decide)),
    if_neg (other '\x7d' (by decide) (by decide)), if_neg (other ',' (by decide) (by decide)),
    if_neg (other ':' (by decide) (by decide)), if_neg (other '"' (by decide) (by decide)),
    if_neg (other 'n' (by decide) (by decide)), if_neg (other 't' (by decide) (by decide)),
    if_neg (other 'f' (by decide) (by decide))]

private theorem head_integerText (n : Int) :
    ∃ c body, integerText n = c :: body ∧ (c = '-' ∨ c.isDigit = true) := by
  cases n with
  | negSucc n => exact ⟨'-', natural (n + 1), rfl, .inl rfl⟩
  | ofNat n =>
    obtain ⟨c, body, same⟩ := List.exists_cons_of_ne_nil (natural_ne_nil n)
    have digit := isDigit_of_mem_natural (n := n) (same ▸ List.mem_cons_self ..)
    exact ⟨c, body, same, .inr digit⟩

private theorem scans_integer {n : Int} (wide : IsWide n) {rest : Text} (ends : EndsNumber rest) :
    Scans (integerText n ++ rest) [.scalar (.ok (.integer n))] rest := by
  obtain ⟨c, body, written, start⟩ := head_integerText n
  have notBlank : isBlank c = false := by
    simp only [isBlank, Bool.or_eq_false_iff, decide_eq_false_iff_not]
    rcases start with rfl | digit
    · decide
    · refine ⟨⟨⟨?_, ?_⟩, ?_⟩, ?_⟩ <;> rintro rfl <;> exact absurd digit (by decide)
  rw [written]
  refine scans_token body rest notBlank fun place => ?_
  have read := read_integerText wide ends
  rw [written, List.cons_append] at read
  refine ⟨place.skip (body.length + 1) (c :: (body ++ rest)), ?_⟩
  rw [readKind_number start]
  simp only [readNumber, read, List.length_cons]

end Token

open Token

mutual

/-- The compact form of a value has the tokens of the value. -/
theorem compact_scans : ∀ v : Json, v.IsExact → ∀ rest, EndsNumber rest →
    Scans (v.compact ++ rest) v.tokenKinds rest
  | .null, _, rest, _ => scans_null rest
  | .bool value, _, rest, _ => scans_bool value rest
  | .integer _, wide, _, ends => scans_integer wide ends
  | .float _ _, exact, _, _ => exact.elim
  | .string t, _, rest, _ => scans_quote t rest
  | .array vs, exact, rest, _ => by
    have inside := compactElements_scans vs exact (']' :: rest) (.cons (by decide) rest)
    have whole := (scans_openArray _).trans (inside.trans (scans_closeArray rest))
    simpa only [compact, tokenKinds, List.cons_append, List.append_assoc, List.nil_append]
      using whole
  | .object ms, exact, rest, _ => by
    have inside := compactMembers_scans ms exact ('\x7d' :: rest) (.cons (by decide) rest)
    have whole := (scans_openObject _).trans (inside.trans (scans_closeObject rest))
    simpa only [compact, tokenKinds, List.cons_append, List.append_assoc, List.nil_append]
      using whole

private theorem compactElements_scans : ∀ vs : List Json, AreExact vs → ∀ rest, EndsNumber rest →
    Scans (compactElements vs ++ rest) (elementKinds vs) rest
  | [], _, rest, _ => .refl rest
  | [v], exact, rest, ends => by
    simpa only [compactElements, elementKinds, laterElementKinds, List.append_nil]
      using compact_scans v exact.1 rest ends
  | v :: w :: ws, exact, rest, ends => by
    have tail := compactElements_scans (w :: ws) exact.2 rest ends
    have head := compact_scans v exact.1 (',' :: (compactElements (w :: ws) ++ rest))
      (.cons (by decide) _)
    have whole := head.trans ((scans_comma _).trans tail)
    simpa only [compactElements, elementKinds, laterElementKinds, List.cons_append,
      List.append_assoc, List.nil_append] using whole

private theorem compactMembers_scans : ∀ ms : List (Text × Json), HaveExactValues ms → ∀ rest,
    EndsNumber rest → Scans (compactMembers ms ++ rest) (memberKinds ms) rest
  | [], _, rest, _ => .refl rest
  | [(key, v)], exact, rest, ends => by
    have value := compact_scans v exact.1 rest ends
    have whole := (scans_quote key _).trans ((scans_colon _).trans value)
    simpa only [compactMembers, memberKinds, laterMemberKinds, List.cons_append,
      List.append_assoc, List.nil_append, List.append_nil] using whole
  | (key, v) :: (other, w) :: ms, exact, rest, ends => by
    have tail := compactMembers_scans ((other, w) :: ms) exact.2 rest ends
    have value := compact_scans v exact.1 (',' :: (compactMembers ((other, w) :: ms) ++ rest))
      (.cons (by decide) _)
    have whole := (scans_quote key _).trans ((scans_colon _).trans
      (value.trans ((scans_comma _).trans tail)))
    simpa only [compactMembers, memberKinds, laterMemberKinds, List.cons_append,
      List.append_assoc, List.nil_append] using whole

end

private theorem endsNumber_prettyElements (level : Nat) (vs : List Json) {rest : Text}
    (ends : EndsNumber rest) : EndsNumber (prettyElements level vs ++ rest) := by
  cases vs with
  | nil => exact ends
  | cons v vs => exact .cons (by decide) _

private theorem endsNumber_prettyMembers (level : Nat) (ms : List (Text × Json)) {rest : Text}
    (ends : EndsNumber rest) : EndsNumber (prettyMembers level ms ++ rest) := by
  cases ms with
  | nil => exact ends
  | cons m ms => exact .cons (by decide) _

private theorem endsNumber_newLine (level : Nat) (rest : Text) :
    EndsNumber (newLine level ++ rest) :=
  .cons (by decide) _

private theorem scans_colonSpace (rest : Text) : Scans (": ".toList ++ rest) [.colon] rest :=
  (scans_colon (' ' :: rest)).trans (scans_blank (by decide) rest)

mutual

/-- The pretty form of a value has the tokens of the value. -/
theorem pretty_scans : ∀ v : Json, v.IsExact → ∀ level rest, EndsNumber rest →
    Scans (v.pretty level ++ rest) v.tokenKinds rest
  | .null, _, _, rest, _ => scans_null rest
  | .bool true, _, _, rest, _ => scans_bool true rest
  | .bool false, _, _, rest, _ => scans_bool false rest
  | .integer _, wide, _, _, ends => scans_integer wide ends
  | .float _ _, exact, _, _, _ => exact.elim
  | .string t, _, _, rest, _ => scans_quote t rest
  | .array [], _, _, rest, _ => (scans_openArray _).trans (scans_closeArray rest)
  | .array (v :: vs), exact, level, rest, _ => by
    have ends := endsNumber_newLine level (']' :: rest)
    have closing := (scans_newLine level (']' :: rest)).trans (scans_closeArray rest)
    have others := prettyElements_scans vs exact.2 (level + 1) _ ends
    have first := pretty_scans v exact.1 (level + 1) _
      (endsNumber_prettyElements (level + 1) vs ends)
    have whole := (scans_openArray _).trans ((scans_newLine (level + 1) _).trans
      (first.trans (others.trans closing)))
    simpa only [pretty, tokenKinds, elementKinds, List.cons_append, List.append_assoc,
      List.nil_append] using whole
  | .object [], _, _, rest, _ => (scans_openObject _).trans (scans_closeObject rest)
  | .object ((key, v) :: ms), exact, level, rest, _ => by
    have ends := endsNumber_newLine level ('\x7d' :: rest)
    have closing := (scans_newLine level ('\x7d' :: rest)).trans (scans_closeObject rest)
    have others := prettyMembers_scans ms exact.2 (level + 1) _ ends
    have value := pretty_scans v exact.1 (level + 1) _
      (endsNumber_prettyMembers (level + 1) ms ends)
    have whole := (scans_openObject _).trans ((scans_newLine (level + 1) _).trans
      ((scans_quote key _).trans ((scans_colonSpace _).trans
        (value.trans (others.trans closing)))))
    simpa only [pretty, tokenKinds, memberKinds, List.cons_append, List.append_assoc,
      List.nil_append] using whole

private theorem prettyElements_scans :
    ∀ vs : List Json, AreExact vs → ∀ level rest, EndsNumber rest →
    Scans (prettyElements level vs ++ rest) (laterElementKinds vs) rest
  | [], _, _, rest, _ => .refl rest
  | v :: vs, exact, level, rest, ends => by
    have others := prettyElements_scans vs exact.2 level rest ends
    have value := pretty_scans v exact.1 level _ (endsNumber_prettyElements level vs ends)
    have whole := (scans_comma _).trans ((scans_newLine level _).trans (value.trans others))
    simpa only [prettyElements, laterElementKinds, List.cons_append, List.append_assoc,
      List.nil_append] using whole

private theorem prettyMembers_scans : ∀ ms : List (Text × Json), HaveExactValues ms → ∀ level rest,
    EndsNumber rest → Scans (prettyMembers level ms ++ rest) (laterMemberKinds ms) rest
  | [], _, _, rest, _ => .refl rest
  | (key, v) :: ms, exact, level, rest, ends => by
    have others := prettyMembers_scans ms exact.2 level rest ends
    have value := pretty_scans v exact.1 level _ (endsNumber_prettyMembers level ms ends)
    have whole := (scans_comma _).trans ((scans_newLine level _).trans
      ((scans_quote key _).trans ((scans_colonSpace _).trans (value.trans others))))
    simpa only [prettyMembers, laterMemberKinds, List.cons_append, List.append_assoc,
      List.nil_append] using whole

end

end Chatdown.Json
