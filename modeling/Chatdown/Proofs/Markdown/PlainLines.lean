import Chatdown.Proofs.Markdown.LineStarts
import Chatdown.Proofs.Markdown.Lines
import Chatdown.Proofs.Markdown.TextLines

/-! # Plain lines

A plain line is made of words of letters, digits, `@` and hyphens. It looks like nothing else: it
opens no block, it does not continue a table, and all of it is running text.
-/

namespace Chatdown.Markdown

private theorem trimEnd_cons {p : Char → Bool} {c : Char} (kept : p c = false) (t : Text) :
    trimEnd p (c :: t) = c :: trimEnd p t := by
  have last : ∀ d ∈ [c].head?, p d = false := by simpa using kept
  rw [trimEnd, List.reverse_cons, Text.dropWhile_append_of_head _ last, List.reverse_append]
  rfl

private theorem trim_cons {p : Char → Bool} {c : Char} (kept : p c = false) (t : Text) :
    trim p (c :: t) = c :: trimEnd p t := by
  rw [trim, trimStart, List.dropWhile_cons_of_neg (by simp [kept]), trimEnd_cons kept]

namespace TableRow

private theorem unescapePipes_of_no_pipe {t : Text} (noPipe : '|' ∉ t) : unescapePipes t = t := by
  fun_induction unescapePipes t with
  | case1 => rfl
  | case2 => rfl
  | case3 c d t pipe => simp_all
  | case4 c d t _ ih => rw [ih fun member => noPipe (.tail c member)]

private theorem cellsFrom_of_no_pipe (offset : Nat) {source t : Text} (nonempty : source ≠ [])
    (noPipe : '|' ∉ t) :
    cellsFrom offset false source t = [Cell.ofSource (source.reverse ++ t) offset] := by
  induction t generalizing source with
  | nil => rw [cellsFrom, if_neg nonempty, List.append_nil]
  | cons c t ih =>
    rw [List.mem_cons, not_or] at noPipe
    rw [cellsFrom, if_neg (by simp), if_neg (by simp [Ne.symm noPipe.1]),
      ih (List.cons_ne_nil c source) noPipe.2, List.reverse_cons, List.append_assoc]
    rfl

/-- A line without pipes is one cell; its first character tells that it has more than hyphens. -/
theorem columns?_eq_none {t : Text} (noPipe : '|' ∉ t)
    (other : ∀ c ∈ t.head?, isGap c = false ∧ c ≠ '-' ∧ c ≠ ':') : columns? t = none := by
  cases t with
  | nil => rfl
  | cons c t =>
    obtain ⟨bare, notHyphen, notColon⟩ := other c rfl
    have notPipe : c ≠ '|' := by
      rintro rfl
      exact noPipe (List.mem_cons_self ..)
    have notSpace : isSpacing c = false ∧ isCellSpace c = false := by
      simp only [isGap, isSpacing, Bool.or_eq_false_iff] at bare
      simp [isSpacing, isCellSpace, isPad, bare]
    have cell : cells (c :: t) = [⟨c :: trimEnd isSpacing t, 0⟩] := by
      rw [cells, cellsFrom, if_neg (by simp), if_neg (by simp [notPipe]),
        cellsFrom_of_no_pipe 0 (List.cons_ne_nil c []) fun member => noPipe (.tail c member),
        Cell.ofSource, List.reverse_singleton, List.singleton_append,
        unescapePipes_of_no_pipe noPipe, trim_cons notSpace.1]
      exact fun _ same => notPipe (List.cons.inj same).1
    have noHyphens : isDelimiter ⟨c :: trimEnd isSpacing t, 0⟩ = false := by
      rw [isDelimiter, trim_cons notSpace.2]
      simp [Text.after?, Ne.symm notColon, notHyphen]
    rw [columns?, cell, List.all_cons, noHyphens]
    rfl

end TableRow

/-- Tests for a character that a word may begin with. -/
def isWordStart (c : Char) : Bool := c.isAlphanum || c == '@'

def isWordChar (c : Char) : Bool := isWordStart c || c == '-'

/-- Tests for a word: letters, digits, `@` and, but for its first character, hyphens. -/
def isWord : Text → Bool
  | [] => false
  | c :: t => isWordStart c && t.all isWordChar

/-- A line of words with a space between neighbours. -/
structure PlainLine where
  words : List Text
  nonempty : words ≠ []
  areWords : ∀ w ∈ words, isWord w = true

def PlainLine.text (l : PlainLine) : Text := [' '].intercalate l.words

variable {c : Char}

theorem isSpacing_of_class {p : Char → Bool} (inside : p c = true)
    (apart : " \t\n\x0c\r".toList.all (!p ·) = true) : isSpacing c = false := by
  have other := Text.not_mem_of_outside apart inside
  simp only [String.reduceToList, List.mem_cons, List.not_mem_nil, or_false, not_or] at other
  simp [isSpacing, other]

private theorem isSpacing_of_isWordChar (char : isWordChar c = true) : isSpacing c = false :=
  isSpacing_of_class char (by decide)

theorem isGap_of_isWordStart (start : isWordStart c = true) : isGap c = false := by
  have char : isWordChar c = true := by rw [isWordChar, start, Bool.true_or]
  rw [isGap, isSpacing_of_isWordChar char, Bool.false_or, beq_eq_false_iff_ne]
  rintro rfl
  exact absurd start (by decide)

def isPlainChar (c : Char) : Bool := isWordChar c || c == ' '

private theorem exists_of_isWord {w : Text} (word : isWord w = true) :
    ∃ c t, w = c :: t ∧ isWordStart c = true ∧ ∀ d ∈ w, isWordChar d = true := by
  cases w with
  | nil => cases word
  | cons c t =>
    simp only [isWord, Bool.and_eq_true, List.all_eq_true] at word
    refine ⟨c, t, rfl, word.1, List.forall_mem_cons.mpr ⟨?_, word.2⟩⟩
    rw [isWordChar, word.1, Bool.true_or]

private theorem isSolid_of_isWord {w : Text} (word : isWord w = true) : IsSolid w := by
  obtain ⟨_, _, _, _, chars⟩ := exists_of_isWord word
  exact fun c last => isSpacing_of_isWordChar (chars c (List.mem_of_getLast? last))

namespace PlainLine

variable (l : PlainLine)

theorem text_chars : ∀ c ∈ l.text, isPlainChar c = true := by
  intro c member
  rcases Text.mem_intercalate member with ⟨w, inside, char⟩ | space
  · obtain ⟨_, _, _, _, chars⟩ := exists_of_isWord (l.areWords w inside)
    rw [isPlainChar, chars c char, Bool.true_or]
  · rw [List.mem_singleton.mp space]
    decide

theorem text_space_chars : ∀ c ∈ l.text ++ [' '], isPlainChar c = true :=
  List.forall_mem_append.mpr ⟨l.text_chars, List.forall_mem_singleton.mpr (by decide)⟩

/-- A line begins with a letter, a digit or an `@`. -/
theorem exists_text_eq : ∃ c t, l.text = c :: t ∧ isWordStart c = true := by
  obtain ⟨w, ws, words⟩ := List.exists_cons_of_ne_nil l.nonempty
  obtain ⟨c, t, rfl, start, _⟩ := exists_of_isWord (l.areWords w (by simp [words]))
  have head := Text.head?_intercalate (List.cons_ne_nil c t) [' '] ws
  rw [← words] at head
  obtain ⟨rest, text⟩ := List.head?_eq_some_iff.mp head
  exact ⟨c, rest, text, start⟩

theorem text_ne_nil : l.text ≠ [] := by
  obtain ⟨c, t, text, _⟩ := l.exists_text_eq
  rw [text]
  exact List.cons_ne_nil c t

theorem not_mem_text {c : Char} (other : isPlainChar c = false) : c ∉ l.text :=
  Text.not_mem_of_class l.text_chars other

theorem isLine_text : IsLine l.text := fun c member => by
  refine ⟨?_, ?_, ?_⟩ <;> rintro rfl <;> exact l.not_mem_text (by decide) member

theorem isSolid_text : IsSolid l.text := by
  refine isSolid_intercalate (fun w member => ?_) [' ']
  have word := l.areWords w member
  obtain ⟨c, t, rfl, _⟩ := exists_of_isWord word
  exact ⟨List.cons_ne_nil c t, isSolid_of_isWord word⟩

theorem head_text_append {s : Text} {c : Char} (head : (l.text ++ s).head? = some c) :
    isWordStart c = true := by
  obtain ⟨d, t, text, start⟩ := l.exists_text_eq
  rw [text, List.cons_append, List.head?_cons, Option.some_inj] at head
  rwa [← head]

theorem head_text {c : Char} (head : l.text.head? = some c) : isWordStart c = true :=
  l.head_text_append (s := []) (by rwa [List.append_nil])

/-- A line opens nothing. -/
theorem isInert_text : IsInert l.text where
  head c first := by
    have start := l.head_text first
    exact ⟨isPad_of_isGap (isGap_of_isWordStart start), Text.not_mem_of_outside (by decide) start⟩
  number c first := by
    have member := (List.dropWhile_sublist Char.isDigit).mem (List.mem_of_head? first)
    constructor <;> rintro rfl <;> exact l.not_mem_text (by decide) member

theorem isRunning_text : IsRunning l.text where
  quiet c member := isQuiet_of_class (l.text_chars c member) (by decide)
  noDot := l.not_mem_text (by decide)
  noColon := l.not_mem_text (by decide)
  nonempty := l.text_ne_nil
  flush := l.isInert_text.flush
  solid := l.isSolid_text

/-- A line is no row of hyphens below a table's header. -/
theorem columns?_text : TableRow.columns? l.text = none := by
  refine TableRow.columns?_eq_none (l.not_mem_text (by decide)) fun c first => ?_
  have start := l.head_text first
  refine ⟨isGap_of_isWordStart start, ?_, ?_⟩ <;> rintro rfl <;> exact absurd start (by decide)

end PlainLine

def plainSource (ls : List PlainLine) : Text := ls.flatMap (·.text ++ ['\n'])

section

variable (first : PlainLine) (more : List PlainLine)

private theorem plainSource_eq : plainSource (first :: more) =
    ['\n'].intercalate ((first :: more).map PlainLine.text) ++ ['\n'] := by
  have ended :=
    Text.flatMap_append_eq_intercalate_append ['\n'] first.text (more.map PlainLine.text)
  rwa [← List.map_cons, List.flatMap_map] at ended

theorem plainSource_ne_nil : plainSource (first :: more) ≠ [] := by
  rw [plainSource_eq]
  exact List.append_ne_nil_of_right_ne_nil _ (by decide)

/-- No link is defined by plain lines. -/
theorem head?_plainSource_ne : (plainSource (first :: more)).head? ≠ some '[' := by
  obtain ⟨c, t, text, start⟩ := first.exists_text_eq
  rw [plainSource, List.flatMap_cons, text]
  rintro ⟨⟩
  exact absurd start (by decide)

theorem isRunning_of_mem {t : Text} (member : t ∈ (first :: more).map PlainLine.text) :
    IsRunning t := by
  obtain ⟨l, _, rfl⟩ := List.mem_map.mp member
  exact l.isRunning_text

variable {first more} (links : LinkTable) {p : Passage}

private theorem trimEnd_plainSource (source : p.text = plainSource (first :: more)) :
    trimEnd isSpacing p.text = ['\n'].intercalate ((first :: more).map PlainLine.text) := by
  rw [source, plainSource_eq]
  refine trimEnd_lineEnd (isSolid_intercalate (fun t member => ?_) ['\n'])
  have running := isRunning_of_mem first more member
  exact ⟨running.nonempty, running.solid⟩

/-- A paragraph of plain lines is read as these lines. -/
theorem content_plainSource (source : p.text = plainSource (first :: more)) :
    content links p = textLines ((first :: more).map PlainLine.text) :=
  content_lines links (trimEnd_plainSource source) fun _ => isRunning_of_mem first more

theorem contentAfter?_plainSource (source : p.text = plainSource (first :: more)) :
    TaskMarker.contentAfter? (p.inlines links) = none :=
  contentAfter?_lines links (trimEnd_plainSource source) (fun _ => isRunning_of_mem first more)
    fun _ head => isGap_of_isWordStart (first.head_text head)

end

end Chatdown.Markdown
