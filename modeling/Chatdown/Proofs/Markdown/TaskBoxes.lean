import Chatdown.Markdown
import Chatdown.Proofs.Markdown.LineStarts
import Chatdown.Proofs.Markdown.Lines
import Chatdown.Proofs.Markdown.OpenBlocks
import Chatdown.Proofs.Markdown.TextLines

/-! # Task boxes

Words may have a box before them, in brackets. With or without it they open no block and define no
link, and as long as there are no definitions the brackets make no link. So an item that begins with
them has the words as its content, and the box only decides whether it is a task.
-/

namespace Chatdown.Markdown

/-- Tests for a letter or a digit; all characters beyond ASCII count as letters. -/
def isLetter (c : Char) : Bool := c.isAlphanum || 0x80 ≤ c.toNat

def isPhraseChar (c : Char) : Bool := isLetter c || c == ' '

/-- Words on one line, with spaces only between them. -/
structure Phrase where
  text : Text
  chars : text.all isPhraseChar = true
  first : text.head?.any isLetter = true
  last : text.getLast?.any isLetter = true

inductive TaskBox where
  | unticked
  | ticked
  | tickedCapital
  deriving DecidableEq, Repr

/-- What stands between the brackets of a box. -/
def TaskBox.mark : TaskBox → Char
  | unticked => ' '
  | ticked => 'x'
  | tickedCapital => 'X'

/-- A phrase as the content of an item, after a box if there is one. -/
def Phrase.written (words : Phrase) : Option TaskBox → Text
  | none => words.text
  | some box => '[' :: box.mark :: ']' :: ' ' :: words.text

private theorem isGap_of_isLetter {c : Char} (letter : isLetter c = true) : isGap c = false := by
  have other : c ∉ " \t\n\x0c\r\x0b".toList := Text.not_mem_of_outside (by decide) letter
  simp only [String.reduceToList, List.mem_cons, List.not_mem_nil, or_false, not_or] at other
  simp [isGap, isSpacing, other]

namespace Phrase

variable (words : Phrase)

theorem exists_text_eq : ∃ c t, words.text = c :: t ∧ isLetter c = true := by
  have first := words.first
  cases same : words.text with
  | nil => simp [same] at first
  | cons c t =>
    rw [same] at first
    exact ⟨c, t, rfl, first⟩

theorem text_ne_nil : words.text ≠ [] := by
  obtain ⟨c, t, text, _⟩ := words.exists_text_eq
  rw [text]
  exact List.cons_ne_nil c t

private theorem isLetter_of_head? {c : Char} (head : c ∈ words.text.head?) : isLetter c = true := by
  obtain ⟨d, t, text, letter⟩ := words.exists_text_eq
  rw [text] at head
  cases head
  exact letter

theorem text_chars : ∀ c ∈ words.text, isPhraseChar c = true := List.all_eq_true.mp words.chars

theorem not_mem_text {c : Char} (other : isPhraseChar c = false) : c ∉ words.text :=
  Text.not_mem_of_class words.text_chars other

theorem isSolid_text : IsSolid words.text := fun c last => by
  have letter := words.last
  rw [last, Option.any_some] at letter
  exact isSpacing_of_isGap (isGap_of_isLetter letter)

theorem isInert_text : IsInert words.text where
  head c first := by
    have letter := words.isLetter_of_head? first
    exact ⟨isPad_of_isGap (isGap_of_isLetter letter), Text.not_mem_of_outside (by decide) letter⟩
  number c first := by
    have member := (List.dropWhile_sublist Char.isDigit).mem (List.mem_of_head? first)
    constructor <;> rintro rfl <;> exact words.not_mem_text (by decide) member

private theorem isQuiet_text : ∀ c ∈ words.text, isQuiet c = true := fun c member =>
  isQuiet_of_class (words.text_chars c member) (by decide)

theorem isRunning_text : IsRunning words.text where
  quiet := words.isQuiet_text
  noDot := words.not_mem_text (by decide)
  noColon := words.not_mem_text (by decide)
  nonempty := words.text_ne_nil
  flush := words.isInert_text.flush
  solid := words.isSolid_text

variable (box : Option TaskBox)

theorem written_ne_nil : words.written box ≠ [] := by
  cases box with
  | none => exact words.text_ne_nil
  | some box => exact List.cons_ne_nil _ _

/-- Neither a box nor words open a block. -/
theorem isInert_written : IsInert (words.written box) := by
  cases box with
  | none => exact words.isInert_text
  | some box =>
    constructor
    · rintro c ⟨⟩
      decide
    · rintro c ⟨⟩
      decide

theorem isLine_written : IsLine (words.written box) := by
  have isLine : IsLine words.text := fun c member => by
    refine ⟨?_, ?_, ?_⟩ <;> rintro rfl <;> exact words.not_mem_text (by decide) member
  cases box with
  | none => exact isLine
  | some box =>
    have marked : IsLine ['[', box.mark, ']', ' '] := by cases box <;> simp [IsLine, TaskBox.mark]
    exact isLine_append marked isLine

private theorem isSolid_written : IsSolid (words.written box) := by
  cases box with
  | none => exact words.isSolid_text
  | some box => exact words.isSolid_text.append words.text_ne_nil ['[', box.mark, ']', ' ']

/-- A box is no label of a link definition, since no colon comes after it. -/
theorem readAll_written (links : LinkTable) : LinkDefinition.readAll links
    (words.written box ++ ['\n']) = (links, words.written box ++ ['\n']) := by
  cases box with
  | none =>
    obtain ⟨c, t, text, letter⟩ := words.exists_text_eq
    refine LinkDefinition.readAll_of_head ?_ links
    rw [written, text]
    rintro ⟨⟩
    exact absurd letter (by decide)
  | some box =>
    have none : LinkDefinition.read? (words.written (some box) ++ ['\n']) = none := by
      cases box <;> rfl
    rw [LinkDefinition.readAll, none]

end Phrase

/-! ### The content of an item -/

namespace InlineReader

variable (p : Passage)

/-- Without definitions, a bracket with neither a bracket nor a parenthesis after it is no link. -/
theorem target?_space (o : Opening) (t : Text) : target? .empty o (' ' :: t) = none := by
  have noLabel (label : Text) : LinkTable.empty.find? label = none := rfl
  simp [target?, Text.after?, noLabel]

/-- A closing bracket that makes no link is text, and so is the bracket that it closes. -/
theorem exists_closeBracket_text {r : InlineReader} {o : Opening} (opened : r.openings = [o])
    (notImage : o.image = false) (first : r.afterLink = false) (t : Text) :
    ∃ next, r.closeBracket .empty (' ' :: t) = (next, 0) ∧ next.openings = [] ∧
      next.pieces = .node (.text [']']) :: (r.pieces ++ .node (.text ['[']) :: o.outer) := by
  refine ⟨({ r with inBrackets := false } : InlineReader).abandon.putText [']'], ?_, ?_, ?_⟩
  · simp only [closeBracket, opened, notImage, first, Bool.false_and, Bool.false_eq_true, if_false,
      target?_space]
  · simp only [abandon, opened, putText, put]
  · simp only [abandon, opened, notImage, putText, put, Bool.false_eq_true, if_false]

/-- A space and words are read as they are. -/
theorem exists_run_words {r : InlineReader} (text : r.isAfterBreak = false) (words : Phrase) :
    ∃ last, run .empty p r 0 (' ' :: words.text) = last ∧
      Adds r last (' ' :: words.text) (' ' :: words.text) := by
  have quiet : ∀ c ∈ ' ' :: words.text, isQuiet c = true :=
    List.forall_mem_cons.mpr ⟨by decide, words.isQuiet_text⟩
  have calm : '.' ∉ ' ' :: words.text ∧ ':' ∉ ' ' :: words.text := by
    simp only [List.mem_cons, not_or]
    exact ⟨⟨by decide, words.not_mem_text (by decide)⟩, by decide, words.not_mem_text (by decide)⟩
  obtain ⟨last, ran, added⟩ : ∃ last,
      run .empty p r 0 (' ' :: words.text ++ []) = run .empty p last 0 [] ∧
        Adds r last (' ' :: words.text) (' ' :: words.text) :=
    exists_run_spelled (.refl _) quiet (by rintro c ⟨⟩) (by rintro ⟨⟩) text (.inr calm)
  rw [List.append_nil, run] at ran
  exact ⟨last, ran, added⟩

/-- A box and the words after it are read as nothing but text. -/
theorem exists_run_box (words : Phrase) (box : TaskBox) :
    ∃ last, ∃ texts : List Text, texts.flatten = words.written (some box) ∧
      run .empty p .fresh 0 (words.written (some box)) = last ∧ last.openings = [] ∧
        last.pieces = (texts.map fun t => Piece.node (.text t)).reverse := by
  let after := ' ' :: words.text
  let opened : InlineReader := (fresh.openBracket p false (box.mark :: ']' :: after)).move ['[']
  have ranOpen : run .empty p .fresh 0 (words.written (some box)) =
      run .empty p opened 0 ([box.mark] ++ ']' :: after) := rfl
  have quietMark : ∀ c ∈ [box.mark], isQuiet c = true := by
    cases box <;> exact List.forall_mem_singleton.mpr (by decide)
  obtain ⟨mid, ranMark, inside⟩ : ∃ mid, run .empty p opened 0 ([box.mark] ++ ']' :: after) =
      run .empty p mid 0 (']' :: after) ∧ Adds opened mid [box.mark] [box.mark] :=
    exists_run_spelled (.refl _) quietMark (by rintro c ⟨⟩; decide) (by rintro ⟨⟩) rfl
      (.inl rfl)
  obtain ⟨closed, closing, noneOpen, pieces⟩ :=
    exists_closeBracket_text inside.openings rfl inside.afterLink words.text
  have ranClose : run .empty p mid 0 (']' :: after) = run .empty p (closed.move [']']) 0 after :=
    @run_item _ _ _ _ [] after _ (by decide) closing
  have text : (closed.move [']']).isAfterBreak = false := by
    rw [isAfterBreak, move, pieces]
  obtain ⟨last, ranAfter, outside⟩ := exists_run_words p text words
  obtain ⟨marks, markFlat, markPieces⟩ := inside.pieces
  obtain ⟨texts, flat, morePieces⟩ := outside.pieces
  refine ⟨last, ['['] :: (marks ++ [']'] :: texts), ?_, ?_, outside.openings.trans noneOpen, ?_⟩
  · simp [markFlat, flat, Phrase.written]
  · rw [ranOpen, ranMark, ranClose, ranAfter]
  · rw [morePieces, move, pieces, markPieces]
    simp [opened, openBracket, move, fresh]

end InlineReader

/-- The words after a box are the content of the task. -/
theorem contentAfter?_box {words : Phrase} {box : TaskBox} {p : Passage}
    (source : trimEnd isSpacing p.text = words.written (some box)) :
    TaskMarker.contentAfter? (p.inlines .empty) = some [.text words.text] := by
  obtain ⟨last, texts, flat, ran, noneOpen, pieces⟩ := InlineReader.exists_run_box p words box
  have read : p.inlines .empty = texts.map .text := by
    have nodes := Emphasis.resolve_nodes (texts.map .text)
    rw [List.map_map] at nodes
    rw [Passage.inlines, source, ran, noneOpen]
    change Emphasis.resolve last.pieces.reverse = _
    rw [pieces, List.reverse_reverse]
    exact nodes
  have leading := TaskMarker.leadingText_texts texts []
  rw [List.append_nil] at leading
  have after : TaskMarker.after? (words.written (some box)) = some words.text := by
    cases box <;> rfl
  rw [TaskMarker.contentAfter?, read, leading]
  simp only [TaskMarker.leadingText, List.append_nil, flat, after, Option.map_some]

/-- The item that begins with a phrase, after a box if there is one. -/
def Phrase.item (words : Phrase) (box : Option TaskBox) (padding : Nat)
    (inside : List (Block (List Inline))) : Item (List Inline) :=
  match box with
  | none => .plain padding (.paragraph [.text words.text] :: inside)
  | some _ => .task (.paragraph [.text words.text] :: inside)

/-- An item whose paragraph is a phrase is read as such. -/
theorem finishItem_phrase {words : Phrase} {box : Option TaskBox} {p : Passage}
    (source : p.text = words.written box ++ ['\n']) (padding : Nat)
    (inside : List (Block Passage)) :
    finishItem .empty (.plain padding (.paragraph p :: inside)) =
      words.item box padding (finishBlocks .empty inside) := by
  have trimmed : trimEnd isSpacing p.text = words.written box := by
    rw [source, trimEnd_lineEnd (words.isSolid_written box)]
  rw [finishItem]
  cases box with
  | none =>
    have each : ∀ k ∈ [words.text], IsRunning k :=
      List.forall_mem_singleton.mpr words.isRunning_text
    have single : ['\n'].intercalate [words.text] = words.text := List.intercalate_singleton
    rw [Phrase.written, ← single] at trimmed
    rw [contentAfter?_lines .empty trimmed each fun c head =>
      isGap_of_isLetter (words.isLetter_of_head? head), content_lines .empty trimmed each]
    rfl
  | some box =>
    have whole : Address.inNodes [] [.text words.text] = [.text words.text] := by
      rw [Address.inNodes, Address.inNodes, List.append_nil, List.reverse_reverse]
      exact Address.split_of_no_dot 0 [] (words.not_mem_text (by decide))
    rw [contentAfter?_box trimmed]
    simp only [whole]
    rfl

end Chatdown.Markdown
