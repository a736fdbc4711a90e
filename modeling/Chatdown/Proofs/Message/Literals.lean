import Chatdown.Message.Encoding
import Chatdown.Proofs.Json.Composition

/-! # The strings of written messages

The two forms of a message differ in white space alone, and only outside of strings. Neither of them
escapes more than it has to: what is markup or not ASCII in the strings of a message stands in its
written forms as it is, and escapes are those of quotes, backslashes and control characters.
-/

namespace Chatdown

mutual

/-- The strings of a block in the order in which they are written. -/
def MessageBlock.strings : MessageBlock → List Text
  | .text value => [value]
  | .code none value => [value]
  | .code (some language) value => [language, value]
  | .bullets blocks => MessageBlock.stringsOf blocks

/-- The strings of blocks in the order in which they are written. -/
def MessageBlock.stringsOf : List MessageBlock → List Text
  | [] => []
  | b :: bs => b.strings ++ MessageBlock.stringsOf bs

end

/-- The strings of a message in the order in which they are written. -/
def Message.strings (m : Message) : List Text := MessageBlock.stringsOf m.blocks

namespace Json

/-- Tests for a character that other writers escape, for the sake of markup or of ASCII. -/
def isVerbatim (c : Char) : Bool := "<>&/".toList.contains c || 0x7F ≤ c.toNat

/-- JSON text that holds the given strings with nothing escaped that can stand as it is. -/
structure IsVerbatim (strings : List Text) (t : Text) : Prop where
  verbatim : t.filter isVerbatim = strings.flatten.filter isVerbatim
  noControl : ∀ before c after, t = before ++ c :: after →
    Quoting.outside.after before = .inString → ' ' ≤ c
  escapes : ∀ before after, t = before ++ '\\' :: after →
    Quoting.outside.after before = .inString → IsEscapeRest after
  closed : Quoting.outside.after t = .outside

private theorem isVerbatim_eq_false {c : Char} (other : c ∉ "<>&/".toList)
    (small : c.toNat < 0x7F) :
    isVerbatim c = false := by
  simp only [isVerbatim, Bool.or_eq_false_iff, decide_eq_false_iff_not]
  exact ⟨by simpa using other, Nat.not_le.mpr small⟩

private theorem isVerbatim_of_isMark {c : Char} (mark : isMark c = true) :
    isVerbatim c = false := by
  have other := Text.not_mem_of_outside (t := "<>&/".toList) (by decide) mark
  have below (d : Char) (small : d.toNat < 0x7F) (le : c.val ≤ d.val) : c.toNat < 0x7F :=
    Nat.lt_of_le_of_lt (UInt32.le_iff_toNat_le.mp le) small
  refine isVerbatim_eq_false other ?_
  rcases Bool.or_eq_true_iff.mp mark with letter | symbol
  · rcases Bool.or_eq_true_iff.mp letter with alpha | digit
    · rcases Bool.or_eq_true_iff.mp alpha with upper | lower
      · exact below 'Z' (by decide) (of_decide_eq_true upper).2
      · exact below 'z' (by decide) (of_decide_eq_true (Bool.and_eq_true_iff.mp lower).2)
    · exact below '9' (by decide) (of_decide_eq_true (Bool.and_eq_true_iff.mp digit).2)
  · have each : ∀ d ∈ ['\x7b', '\x7d', '[', ']', ',', ':', '.', '-'], d.toNat < 0x7F := by simp
    exact each c (List.contains_iff_mem.mp symbol)

private theorem isVerbatim_of_isBlank {c : Char} (blank : Token.isBlank c = true) :
    isVerbatim c = false := by
  simp only [Token.isBlank, Bool.or_eq_true, decide_eq_true_eq] at blank
  rcases blank with ((rfl | rfl) | rfl) | rfl <;> decide

/-- A written character has such a character in it only if it is one. -/
theorem filter_escapeChar (c : Char) :
    (escapeChar c).filter isVerbatim = [c].filter isVerbatim := by
  rcases escapeChar_cases c with ⟨d, short, written⟩ | ⟨control, written⟩ | ⟨_, _, _, written⟩
  · have each : ∀ pair ∈ shortEscapes,
        ['\\', pair.2].filter isVerbatim = [pair.1].filter isVerbatim := by decide
    rw [written]
    exact each (c, d) short
  · have each : ∀ n, n < 32 →
        ['\\', 'u', '0', '0', hexDigit (n / 16), hexDigit (n % 16)].filter isVerbatim = [] := by
      decide
    have small := toNat_of_control control
    have none : c ∉ "<>&/".toList := by
      have others : ∀ d ∈ "<>&/".toList, 32 ≤ d.toNat := by simp
      exact fun member => absurd (others c member) (Nat.not_le.mpr small)
    have escaped : isVerbatim c = false :=
      isVerbatim_eq_false none (Nat.lt_trans small (by decide))
    rw [written, each c.toNat small, List.filter_cons_of_neg (by simp [escaped]), List.filter_nil]
  · rw [written]

private theorem filter_quote (t : Text) : (quote t).filter isVerbatim = t.filter isVerbatim := by
  have body : (t.flatMap escapeChar).filter isVerbatim = t.filter isVerbatim := by
    induction t with
    | nil => rfl
    | cons c t ih =>
      rw [List.flatMap_cons, List.filter_append, filter_escapeChar, ih, ← List.filter_append,
        List.singleton_append]
  have mark : ['"'].filter isVerbatim = [] := by decide
  rw [quote, ← List.singleton_append, List.filter_append, List.filter_append, body, mark,
    List.nil_append, List.append_nil]

theorem IsMadeOf.isVerbatim {strings : List Text} {packed text : Text}
    (made : IsMadeOf strings packed text) : IsVerbatim strings text where
  verbatim := made.filter (fun _ => isVerbatim_of_isMark) (fun _ => isVerbatim_of_isBlank)
    filter_quote
  noControl := by
    rintro before c after rfl inside
    exact (made.isEscaped.at_place inside).1
  escapes := by
    rintro before after rfl inside
    exact (made.isEscaped.at_place inside).2 rfl
  closed := made.after

end Json

namespace MessageBlock

/-- The strings of a written block that are not its own: names of members and of kinds. -/
def writtenNames : List Text :=
  ["type".toList, "text".toList, "code".toList, "bullets".toList, "value".toList,
    "language".toList, "blocks".toList]

private theorem filter_writtenNames : ∀ t ∈ writtenNames, t.filter Json.isVerbatim = [] := by decide

mutual

/-- The names in a written block are ASCII without markup. -/
theorem filter_strings_toJson : ∀ b : MessageBlock,
    b.toJson.strings.flatten.filter Json.isVerbatim = b.strings.flatten.filter Json.isVerbatim
  | .text value => rfl
  | .code none value => rfl
  | .code (some language) value => by
    simp only [toJson, Json.strings, Json.memberStrings, strings, List.flatten_cons,
      List.filter_append, List.singleton_append, List.nil_append,
      filter_writtenNames "type".toList (by decide), filter_writtenNames "code".toList (by decide),
      filter_writtenNames "language".toList (by decide),
      filter_writtenNames "value".toList (by decide)]
  | .bullets blocks => by
    have inside := filter_elementStrings_toJsons blocks
    simp only [toJson, Json.strings, Json.memberStrings, strings, List.flatten_cons,
      List.filter_append, List.singleton_append, List.nil_append, List.append_nil, inside,
      filter_writtenNames "type".toList (by decide),
      filter_writtenNames "bullets".toList (by decide),
      filter_writtenNames "blocks".toList (by decide)]

private theorem filter_elementStrings_toJsons : ∀ bs : List MessageBlock,
    (Json.elementStrings (toJsons bs)).flatten.filter Json.isVerbatim =
      (stringsOf bs).flatten.filter Json.isVerbatim
  | [] => rfl
  | b :: bs => by
    rw [toJsons, Json.elementStrings, stringsOf, List.flatten_append, List.flatten_append,
      List.filter_append, List.filter_append, filter_strings_toJson b,
      filter_elementStrings_toJsons bs]

end

end MessageBlock

theorem Message.filter_strings_toJson (m : Message) :
    m.toJson.strings.flatten.filter Json.isVerbatim = m.strings.flatten.filter Json.isVerbatim := by
  have blocks := MessageBlock.filter_elementStrings_toJsons m.blocks
  have name := MessageBlock.filter_writtenNames "blocks".toList (by decide)
  simp only [toJson, Json.strings, Json.memberStrings, List.flatten_cons, List.filter_append,
    List.append_nil, name, List.nil_append, blocks, strings]

/-- The compact form of a message or a block is what is left of the pretty one without the white
space outside of strings. -/
theorem withoutBlanks_pretty :
    (∀ m : Message, Json.Quoting.outside.withoutBlanks (m.toJson.pretty 0) = m.toJson.compact) ∧
      ∀ b : MessageBlock,
        Json.Quoting.outside.withoutBlanks (b.toJson.pretty 0) = b.toJson.compact :=
  ⟨fun m => (m.toJson.pretty_isMadeOf 0).withoutBlanks,
    fun b => (b.toJson.pretty_isMadeOf 0).withoutBlanks⟩

/-- Both forms of a message hold its strings with nothing escaped but quotes, backslashes and
control characters. -/
theorem isVerbatim_written (m : Message) :
    Json.IsVerbatim m.strings m.toJson.compact ∧
      Json.IsVerbatim m.strings (m.toJson.pretty 0) := by
  have shown := m.filter_strings_toJson
  have compact := m.toJson.compact_isMadeOf.isVerbatim
  have pretty := (m.toJson.pretty_isMadeOf 0).isVerbatim
  exact ⟨{ compact with verbatim := compact.verbatim.trans shown },
    { pretty with verbatim := pretty.verbatim.trans shown }⟩

end Chatdown
