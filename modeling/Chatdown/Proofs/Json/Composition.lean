import Chatdown.Proofs.Json.Integers
import Chatdown.Proofs.Json.Quoting
import Chatdown.Proofs.Text.Runs

/-! # What written JSON is made of

Both written forms of a value are made of the same strings in quotes and the same marks between
them, in the same order, and the pretty form has white space besides. So the compact form is what is
left of the pretty one when white space outside of strings is taken away, and what characters are in
either form can be read off the strings of the value.
-/

namespace Chatdown.Json

/-- Tests for a character that is written outside of strings: brackets, commas and colons, and the
characters of numbers and words. -/
def isMark (c : Char) : Bool :=
  c.isAlphanum || ['\x7b', '\x7d', '[', ']', ',', ':', '.', '-'].contains c

/-- Text that is put together from white space, marks and strings in quotes. Without the white space
it is `packed`. -/
inductive IsMadeOf : (strings : List Text) → (packed text : Text) → Prop where
  | nil : IsMadeOf [] [] []
  | blank {c : Char} {strings : List Text} {packed text : Text} (blank : Token.isBlank c = true)
      (rest : IsMadeOf strings packed text) : IsMadeOf strings packed (c :: text)
  | mark {c : Char} {strings : List Text} {packed text : Text} (mark : isMark c = true)
      (rest : IsMadeOf strings packed text) : IsMadeOf strings (c :: packed) (c :: text)
  | string (s : Text) {strings : List Text} {packed text : Text}
      (rest : IsMadeOf strings packed text) :
      IsMadeOf (s :: strings) (quote s ++ packed) (quote s ++ text)

namespace IsMadeOf

variable {strings others : List Text} {packed text more rest : Text}

theorem append (first : IsMadeOf strings packed text) (second : IsMadeOf others more rest) :
    IsMadeOf (strings ++ others) (packed ++ more) (text ++ rest) := by
  induction first with
  | nil => exact second
  | blank blank _ ih => exact .blank blank ih
  | mark mark _ ih => exact .mark mark ih
  | string s _ ih =>
    rw [List.cons_append, List.append_assoc, List.append_assoc]
    exact .string s ih

theorem blanks {t : Text} (blank : ∀ c ∈ t, Token.isBlank c = true) : IsMadeOf [] [] t := by
  induction t with
  | nil => exact .nil
  | cons c t ih =>
    rw [List.forall_mem_cons] at blank
    exact .blank blank.1 (ih blank.2)

theorem marks {t : Text} (mark : t.all isMark = true) : IsMadeOf [] t t := by
  induction t with
  | nil => exact .nil
  | cons c t ih =>
    rw [List.all_cons, Bool.and_eq_true] at mark
    exact .mark mark.1 (ih mark.2)

theorem quoted (s : Text) : IsMadeOf [s] (quote s) (quote s) := by
  have made := IsMadeOf.string s .nil
  rwa [List.append_nil] at made

/-- White space that has been taken away need not have been there. -/
theorem self (made : IsMadeOf strings packed text) : IsMadeOf strings packed packed := by
  induction made with
  | nil => exact .nil
  | blank _ _ ih => exact ih
  | mark mark _ ih => exact .mark mark ih
  | string s _ ih => exact .string s ih

end IsMadeOf

private theorem isBlank_of_isMark {c : Char} (mark : isMark c = true) :
    Token.isBlank c = false := by
  have other := Text.not_mem_of_outside (t := " \t\n\r".toList) (by decide) mark
  simp only [String.reduceToList, List.mem_cons, List.not_mem_nil, or_false, not_or] at other
  simp [Token.isBlank, other]

private theorem next_outside_of_isMark {c : Char} (mark : isMark c = true) :
    Quoting.outside.next c = .outside := by
  have notQuote : c ≠ '"' := by
    rintro rfl
    exact absurd mark (by decide)
  rw [Quoting.next, if_neg notQuote]

private theorem next_outside_of_isBlank {c : Char} (blank : Token.isBlank c = true) :
    Quoting.outside.next c = .outside := by
  have notQuote : c ≠ '"' := by
    rintro rfl
    exact absurd blank (by decide)
  rw [Quoting.next, if_neg notQuote]

namespace IsMadeOf

variable {strings : List Text} {packed text : Text}

/-- All strings are closed. -/
theorem after (made : IsMadeOf strings packed text) :
    Quoting.outside.after text = .outside := by
  induction made with
  | nil => rfl
  | blank blank _ ih => rwa [Quoting.after, List.foldl_cons, next_outside_of_isBlank blank]
  | mark mark _ ih => rwa [Quoting.after, List.foldl_cons, next_outside_of_isMark mark]
  | string s _ ih => rw [Quoting.after_append, after_quote, ih]

theorem withoutBlanks (made : IsMadeOf strings packed text) :
    Quoting.outside.withoutBlanks text = packed := by
  induction made with
  | nil => rfl
  | blank blank _ ih => rw [Quoting.withoutBlanks, if_pos ⟨rfl, blank⟩, ih]
  | mark mark _ ih =>
    rw [Quoting.withoutBlanks, if_neg (by simp [isBlank_of_isMark mark]),
      next_outside_of_isMark mark, ih]
  | string s _ ih => rw [Quoting.withoutBlanks_append, withoutBlanks_quote, after_quote, ih]

theorem isEscaped (made : IsMadeOf strings packed text) : IsEscaped .outside text := by
  induction made with
  | nil => trivial
  | blank blank _ ih =>
    refine ⟨fun outside => (nomatch outside), ?_⟩
    rwa [next_outside_of_isBlank blank]
  | mark mark _ ih =>
    refine ⟨fun outside => (nomatch outside), ?_⟩
    rwa [next_outside_of_isMark mark]
  | string s _ ih =>
    refine (isEscaped_quote s).append ?_
    rwa [after_quote]

/-- Characters of a class that takes no part in writing are those of the strings. -/
theorem filter {p : Char → Bool} (noMark : ∀ c, isMark c = true → p c = false)
    (noBlank : ∀ c, Token.isBlank c = true → p c = false)
    (kept : ∀ s, (quote s).filter p = s.filter p) (made : IsMadeOf strings packed text) :
    text.filter p = strings.flatten.filter p := by
  induction made with
  | nil => rfl
  | blank blank _ ih => rw [List.filter_cons_of_neg (by simp [noBlank _ blank]), ih]
  | mark mark _ ih => rw [List.filter_cons_of_neg (by simp [noMark _ mark]), ih]
  | string s _ ih => rw [List.filter_append, kept, List.flatten_cons, List.filter_append, ih]

end IsMadeOf

/-! ### The written forms of values -/

mutual

/-- The strings of a value, names of members included, in the order in which they are written. -/
def strings : Json → List Text
  | null => []
  | bool _ => []
  | integer _ => []
  | float _ _ => []
  | string t => [t]
  | array elements => elementStrings elements
  | object members => memberStrings members

def elementStrings : List Json → List Text
  | [] => []
  | v :: vs => strings v ++ elementStrings vs

def memberStrings : List (Text × Json) → List Text
  | [] => []
  | (key, v) :: ms => key :: (strings v ++ memberStrings ms)

end

private theorem compactElements_cons (v : Json) (vs : List Json) :
    compactElements (v :: vs) = compact v ++ vs.flatMap (',' :: compact ·) := by
  induction vs generalizing v with
  | nil => rw [compactElements, List.flatMap_nil, List.append_nil]
  | cons w ws ih =>
    rw [compactElements, ih, List.flatMap_cons, List.cons_append]
    exact List.cons_ne_nil w ws

private theorem compactMembers_cons (key : Text) (v : Json) (ms : List (Text × Json)) :
    compactMembers ((key, v) :: ms) = quote key ++ ':' :: compact v ++
      ms.flatMap fun m => ',' :: (quote m.1 ++ ':' :: compact m.2) := by
  induction ms generalizing key v with
  | nil => rw [compactMembers, List.flatMap_nil, List.append_nil]
  | cons m ms ih =>
    rw [compactMembers, ih, List.flatMap_cons]
    · simp only [List.append_assoc, List.cons_append]
    · exact List.cons_ne_nil m ms

private theorem all_isMark_natural (n : Nat) : (natural n).all isMark = true := by
  refine List.all_eq_true.mpr fun c member => ?_
  have digit := isDigit_of_mem_natural member
  simp [isMark, Char.isAlphanum, digit]

private theorem all_isMark_integerText (n : Int) : (integerText n).all isMark = true := by
  cases n with
  | ofNat n => exact all_isMark_natural n
  | negSucc n => exact all_isMark_natural (n + 1)

private theorem all_isMark_zeros (n : Nat) : (List.replicate n '0').all isMark = true := by
  refine List.all_eq_true.mpr fun c member => ?_
  rw [List.eq_of_mem_replicate member]
  decide

private theorem all_isMark_floatText (negative : Bool) (magnitude : Binary64) :
    (floatText negative magnitude).all isMark = true := by
  have sign : (if negative then ['-'] else []).all isMark = true := by
    cases negative <;> decide
  have words : "0.0".toList.all isMark = true ∧ ".0".toList.all isMark = true ∧
      "0.".toList.all isMark = true := by decide
  have signs : isMark '.' = true ∧ isMark 'e' = true := by decide
  rcases same : magnitude.shortest with ⟨significand, exponent⟩
  have digits := all_isMark_natural significand
  simp only [floatText, same]
  generalize natural significand = written at digits
  have part {t : Text} (within : t.Sublist written) : t.all isMark = true :=
    List.all_eq_true.mpr fun c member => List.all_eq_true.mp digits c (within.mem member)
  have first (n : Nat) := part (List.take_sublist n written)
  have later (n : Nat) := part (List.drop_sublist n written)
  have fraction : (if written.drop 1 = [] then [] else '.' :: written.drop 1).all isMark =
      true := by
    split
    · rfl
    · simp only [List.all_cons, signs, later, Bool.and_self]
  split
  · simp only [List.all_append, sign, words, Bool.and_self]
  rw [List.all_append, sign, Bool.true_and]
  split
  · simp only [List.all_append, digits, all_isMark_zeros, words, Bool.and_self]
  split
  · simp only [List.all_append, List.all_cons, first, later, signs, Bool.and_self]
  split
  · simp only [List.all_append, digits, all_isMark_zeros, words, Bool.and_self]
  · simp only [List.all_append, List.all_cons, first, fraction, signs, all_isMark_integerText,
      Bool.and_self]

private theorem isMadeOf_mark {c : Char} (mark : isMark c = true) :
    IsMadeOf [] [c] [c] := .mark mark .nil

private theorem isMadeOf_newLine (level : Nat) : IsMadeOf [] [] (newLine level) := by
  refine .blanks (List.forall_mem_cons.mpr ⟨by decide, fun c member => ?_⟩)
  rw [List.eq_of_mem_replicate member]
  decide

/-- The name of a member, a colon and the value, with a space between them. -/
theorem isMadeOf_member (key : Text) {v : List Text} {packed text : Text}
    (value : IsMadeOf v packed text) :
    IsMadeOf (key :: v) (quote key ++ ':' :: packed) (quote key ++ (": ".toList ++ text)) :=
  .string key (.mark (by decide) (.blank (by decide) value))

mutual

/-- The pretty form is made of the strings of the value, and without white space it is the compact
form. -/
theorem pretty_isMadeOf : ∀ (v : Json) (level : Nat),
    IsMadeOf v.strings v.compact (v.pretty level)
  | .null, _ => .marks (by decide)
  | .bool true, _ => .marks (by decide)
  | .bool false, _ => .marks (by decide)
  | .integer n, _ => .marks (all_isMark_integerText n)
  | .float negative magnitude, _ => .marks (all_isMark_floatText negative magnitude)
  | .string t, _ => .quoted t
  | .array [], _ => .marks (by decide)
  | .array (v :: vs), level => by
    have first := pretty_isMadeOf v (level + 1)
    have others := prettyElements_isMadeOf vs (level + 1)
    have closing := (isMadeOf_newLine level).append (isMadeOf_mark (c := ']') (by decide))
    have whole := (isMadeOf_mark (c := '[') (by decide)).append
      ((isMadeOf_newLine (level + 1)).append (first.append (others.append closing)))
    rw [compact, compactElements_cons, pretty, strings, elementStrings]
    simpa only [List.cons_append, List.append_assoc, List.nil_append, List.append_nil] using whole
  | .object [], _ => .marks (by decide)
  | .object ((key, v) :: ms), level => by
    have first := isMadeOf_member key (pretty_isMadeOf v (level + 1))
    have others := prettyMembers_isMadeOf ms (level + 1)
    have closing := (isMadeOf_newLine level).append (isMadeOf_mark (c := '\x7d') (by decide))
    have whole := (isMadeOf_mark (c := '\x7b') (by decide)).append
      ((isMadeOf_newLine (level + 1)).append (first.append (others.append closing)))
    rw [compact, compactMembers_cons, pretty, strings, memberStrings]
    simpa only [List.cons_append, List.append_assoc, List.nil_append, List.append_nil] using whole

private theorem prettyElements_isMadeOf : ∀ (vs : List Json) (level : Nat),
    IsMadeOf (elementStrings vs) (vs.flatMap (',' :: compact ·)) (prettyElements level vs)
  | [], _ => .nil
  | v :: vs, level => by
    have first := pretty_isMadeOf v level
    have others := prettyElements_isMadeOf vs level
    have whole := (isMadeOf_mark (c := ',') (by decide)).append
      ((isMadeOf_newLine level).append (first.append others))
    rw [elementStrings, List.flatMap_cons, prettyElements]
    simpa only [List.cons_append, List.append_assoc, List.nil_append] using whole

private theorem prettyMembers_isMadeOf : ∀ (ms : List (Text × Json)) (level : Nat),
    IsMadeOf (memberStrings ms) (ms.flatMap fun m => ',' :: (quote m.1 ++ ':' :: compact m.2))
      (prettyMembers level ms)
  | [], _ => .nil
  | (key, v) :: ms, level => by
    have first := isMadeOf_member key (pretty_isMadeOf v level)
    have others := prettyMembers_isMadeOf ms level
    have whole := (isMadeOf_mark (c := ',') (by decide)).append
      ((isMadeOf_newLine level).append (first.append others))
    rw [memberStrings, List.flatMap_cons, prettyMembers]
    simpa only [List.cons_append, List.append_assoc, List.nil_append] using whole

end

/-- The compact form is made of the same strings. -/
theorem compact_isMadeOf (v : Json) : IsMadeOf v.strings v.compact v.compact :=
  (pretty_isMadeOf v 0).self

end Chatdown.Json
