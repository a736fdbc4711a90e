import Chatdown.Proofs.Markdown.LineStarts
import Mathlib.Algebra.GroupWithZero.Nat

/-! # Lines that begin items

A marker with text after it opens an item, wherever on a line it comes. A line that is indented to
the content of some open items reaches these and no others, so that an item which begins there is
opened inside them, after those inside have been closed.
-/

namespace Chatdown.Markdown

/-- The marker of an item, with the spaces after it: a bullet, or a number with a delimiter. -/
structure ItemMarker where
  digits : Text
  mark : Char
  spaces : Nat
  areDigits : digits.all Char.isDigit = true
  few : digits.length ≤ 9
  known : (if digits = [] then ['*', '-', '+'] else ['.', ')']).contains mark = true
  spaced : 1 ≤ spaces ∧ spaces ≤ 4
  deriving DecidableEq

namespace ItemMarker

/-- The columns from the marker to the content of its item. -/
def width (m : ItemMarker) : Nat := m.digits.length + 1 + m.spaces

def style (m : ItemMarker) : ListStyle := ⟨m.mark, m.width⟩

/-- Tests whether the item may come right after a paragraph: a number has to be 1 for that. -/
def endsParagraph (m : ItemMarker) : Bool :=
  m.digits = [] || m.digits.foldl (fun n d => 10 * n + (d.toNat - '0'.toNat)) 0 = 1

/-- The line of an item that begins with the given text. -/
def line (m : ItemMarker) (t : Text) : Text :=
  m.digits ++ m.mark :: (List.replicate m.spaces ' ' ++ t)

def hyphen : ItemMarker := ⟨[], '-', 1, by decide, by decide, by decide, by decide⟩

end ItemMarker

namespace Cursor

/-- Spaces are moved over column by column. -/
theorem advanceColumns_spaces (n offset column : Nat) (t : Text) :
    (⟨List.replicate n ' ' ++ t, offset, column, false⟩ : Cursor).advanceColumns n =
      ⟨t, offset + n, column + n, false⟩ := by
  induction n generalizing offset column with
  | zero => rfl
  | succ n ih =>
    have moved : (⟨List.replicate (n + 1) ' ' ++ t, offset, column, false⟩ : Cursor).advanceColumn =
        ⟨List.replicate n ' ' ++ t, offset + 1, column + 1, false⟩ := rfl
    rw [advanceColumns, moved, ih, Nat.add_assoc, Nat.add_assoc, Nat.add_comm 1]

/-- Tests for a character that is one byte and takes one column. -/
def isNarrow (c : Char) : Bool := c.utf8Size == 1 && c != '\t'

private theorem advanceChars_narrow {s : Text} (narrow : s.all isNarrow = true)
    (offset column : Nat)
    (t : Text) : (⟨s ++ t, offset, column, false⟩ : Cursor).advanceChars s.length =
      ⟨t, offset + s.length, column + s.length, false⟩ := by
  induction s generalizing offset column with
  | nil => rfl
  | cons c s ih =>
    rw [List.all_cons, Bool.and_eq_true] at narrow
    obtain ⟨first, others⟩ := narrow
    simp only [isNarrow, Bool.and_eq_true, beq_iff_eq, bne_iff_ne] at first
    have moved : (⟨c :: s ++ t, offset, column, false⟩ : Cursor).advanceChar =
        ⟨s ++ t, offset + 1, column + 1, false⟩ := by
      simp only [List.cons_append, advanceChar, if_neg first.2, first.1]
    rw [List.length_cons, advanceChars, moved, ih others, Nat.add_assoc, Nat.add_assoc,
      Nat.add_comm 1]

private theorem isNarrow_of_isDigit {c : Char} (digit : c.isDigit = true) : isNarrow c = true := by
  have small : c.val ≤ 127 := by
    simp only [Char.isDigit, Bool.and_eq_true, decide_eq_true_eq] at digit
    exact UInt32.le_trans digit.2 (by decide)
  have notTab : c ≠ '\t' := by
    rintro rfl
    exact absurd digit (by decide)
  simp [isNarrow, Char.utf8Size, small, notTab]

end Cursor

namespace ItemMarker

variable (m : ItemMarker)

theorem width_pos : 0 < m.width := Nat.add_pos_left (Nat.succ_pos _) _

/-- Tests for a character that items may begin with. -/
def isStart (c : Char) : Bool := c.isDigit || ['*', '-', '+'].contains c

private theorem exists_line_eq (t : Text) : ∃ c s, m.line t = c :: s ∧ isStart c = true := by
  have known := m.known
  have areDigits := m.areDigits
  rw [line]
  cases same : m.digits with
  | nil =>
    rw [same, if_pos rfl] at known
    exact ⟨m.mark, _, rfl, Bool.or_eq_true_iff.mpr (.inr known)⟩
  | cons c ds =>
    rw [same, List.all_cons, Bool.and_eq_true] at areDigits
    exact ⟨c, _, rfl, Bool.or_eq_true_iff.mpr (.inl areDigits.1)⟩

private theorem isStart_of_head {t : Text} {c : Char} (head : c ∈ (m.line t).head?) :
    isStart c = true := by
  obtain ⟨d, s, line, start⟩ := m.exists_line_eq t
  rw [line] at head
  cases head
  exact start

theorem line_ne_nil (t : Text) : m.line t ≠ [] := by
  obtain ⟨c, s, line, _⟩ := m.exists_line_eq t
  rw [line]
  exact List.cons_ne_nil c s

private theorem isFlush_line (t : Text) : IsFlush (m.line t) := fun c head => by
  have other : c ∉ " \t".toList := Text.not_mem_of_outside (by decide) (m.isStart_of_head head)
  simp only [String.reduceToList, List.mem_cons, List.not_mem_nil, or_false, not_or] at other
  simp [isPad, other]

theorem mark_cases : m.mark = '*' ∨ m.mark = '-' ∨ m.mark = '+' ∨ m.mark = '.' ∨ m.mark = ')' := by
  have known := List.contains_iff_mem.mp m.known
  split at known <;> simp only [List.mem_cons, List.not_mem_nil, or_false] at known
  · rcases known with same | same | same <;> simp [same]
  · rcases known with same | same <;> simp [same]

private theorem isSpacing_mark : isSpacing m.mark = false := by
  rcases m.mark_cases with same | same | same | same | same <;> rw [same] <;> decide

private theorem isDigit_mark : m.mark.isDigit = false := by
  rcases m.mark_cases with same | same | same | same | same <;> rw [same] <;> decide

private theorem isNarrow_mark : Cursor.isNarrow m.mark = true := by
  rcases m.mark_cases with same | same | same | same | same <;> rw [same] <;> decide

private theorem isNarrow_marker : (m.digits ++ [m.mark]).all Cursor.isNarrow = true := by
  have digits : m.digits.all Cursor.isNarrow = true := List.all_eq_true.mpr fun c member =>
    Cursor.isNarrow_of_isDigit (List.all_eq_true.mp m.areDigits c member)
  rw [List.all_append, digits, List.all_cons, m.isNarrow_mark]
  rfl

private theorem takeWhile_line (t : Text) : (m.line t).takeWhile Char.isDigit = m.digits := by
  refine Text.takeWhile_run (List.all_eq_true.mp m.areDigits) ?_
  rintro c ⟨⟩
  exact m.isDigit_mark

private theorem mem_line {l : Text} {d : Char} (member : d ∈ l) : d ∈ m.line l := by
  simp [line, member]

section

variable {m} {l : Text} (inert : IsInert l) (nonempty : l ≠ []) {inParagraph : Bool}

include inert nonempty

/-- Inert text has something visible in it that draws no line. -/
theorem exists_visible : ∃ d ∈ l, isPad d = false ∧ d ∉ "*-_".toList := by
  obtain ⟨d, t, rfl⟩ := List.exists_cons_of_ne_nil nonempty
  obtain ⟨visible, other⟩ := inert.head d rfl
  refine ⟨d, List.mem_cons_self .., visible, fun member => other ?_⟩
  simp only [String.reduceToList, List.mem_cons, List.not_mem_nil, or_false] at member ⊢
  rcases member with same | same | same <;> simp [same]

/-- The text of an item keeps its line from being a thematic break. -/
theorem isThematicBreak_line : LeafStart.isThematicBreak (m.line l) = false := by
  obtain ⟨d, member, visible, other⟩ := exists_visible inert nonempty
  obtain ⟨c, s, line, _⟩ := m.exists_line_eq l
  have inside : d ∈ c :: s := line ▸ m.mem_line member
  rw [line, Bool.eq_false_iff]
  intro draws
  simp only [LeafStart.isThematicBreak, Bool.and_eq_true, List.all_eq_true, Bool.or_eq_true,
    decide_eq_true_eq] at draws
  obtain ⟨⟨bar, all⟩, _⟩ := draws
  have same : d = c := (all d inside).resolve_right (by simp [visible])
  rw [same] at other
  rcases bar with (same | same) | same <;> simp [same] at other

private theorem leafStart_line {c : Cursor} (rest : c.rest = m.line l) :
    LeafStart.read? inParagraph c = none := by
  refine LeafStart.read?_eq_none (rest ▸ m.isFlush_line l) (fun d head => ?_)
    (rest ▸ isThematicBreak_line inert nonempty)
  exact Text.not_mem_of_outside (by decide) (m.isStart_of_head (rest ▸ head))

/-- After a marker come spaces, and something visible after these. -/
theorem afterMark : (List.replicate m.spaces ' ' ++ l).head?.all isSpacing = true ∧
    (List.replicate m.spaces ' ' ++ l).all isPad = false := by
  obtain ⟨d, member, visible, _⟩ := exists_visible inert nonempty
  obtain ⟨k, same⟩ := Nat.exists_eq_add_of_le' m.spaced.1
  constructor
  · rw [same]
    rfl
  · rw [List.all_eq_false]
    exact ⟨d, List.mem_append_right _ member, by simp [visible]⟩

private theorem marker?_line (allowed : inParagraph = true → m.endsParagraph = true) :
    ContainerStart.marker? inParagraph (m.line l) = some (m.mark, m.digits.length + 1) := by
  obtain ⟨space, text⟩ := afterMark (m := m) inert nonempty
  have rest : (m.line l).drop m.digits.length =
      m.mark :: (List.replicate m.spaces ' ' ++ l) := List.drop_left
  have isMarker : (if m.digits = [] then decide (m.mark = '*') || decide (m.mark = '-') ||
      decide (m.mark = '+') else decide (m.mark = '.') || decide (m.mark = ')')) = true := by
    have known := m.known
    split at known <;> rename_i same <;> simpa [same, or_assoc] using known
  have mayStart : (!inParagraph || m.endsParagraph) = true := by
    cases inParagraph with
    | false => rfl
    | true => exact allowed rfl
  simp only [endsParagraph] at mayStart
  simp only [ContainerStart.marker?, m.takeWhile_line, rest, isMarker, m.few, space, text,
    Bool.not_false, Bool.and_true, decide_true, mayStart, if_true]

/-- The content of an item begins after the spaces that follow its marker. -/
theorem content_line (size offset column : Nat) :
    ContainerStart.content size ⟨List.replicate m.spaces ' ' ++ l, offset, column, false⟩ =
      (⟨l, offset + m.spaces, column + m.spaces, false⟩, size + m.spaces) := by
  have indent : Cursor.indent ⟨List.replicate m.spaces ' ' ++ l, offset, column, false⟩ =
      m.spaces := Cursor.indentFrom_spaces_append m.spaces inert.flush column
  have body : Cursor.body ⟨List.replicate m.spaces ' ' ++ l, offset, column, false⟩ = l :=
    Text.dropWhile_run (by simp [isPad]) inert.flush
  have visible : Cursor.isBlank ⟨List.replicate m.spaces ' ' ++ l, offset, column, false⟩ =
      false := by
    rw [Cursor.isBlank, body]
    exact List.isEmpty_eq_false_iff.mpr nonempty
  simp only [ContainerStart.content, indent, visible, m.spaced, decide_true, Bool.not_false,
    Bool.and_self, if_true, Cursor.advanceColumns_spaces]

private theorem item?_line {c : Cursor} (rest : c.rest = m.line l) (outside : c.inTab = false)
    (allowed : inParagraph = true → m.endsParagraph = true) :
    ContainerStart.item? inParagraph c = some (.item m.mark 0 m.width,
      ⟨l, c.offset + m.width, c.column + m.width, false⟩) := by
  have flush : IsFlush c.rest := rest ▸ m.isFlush_line l
  have marker := marker?_line inert nonempty allowed
  rw [← rest] at marker
  have moved : c.advanceChars (m.digits.length + 1) = ⟨List.replicate m.spaces ' ' ++ l,
      c.offset + (m.digits.length + 1), c.column + (m.digits.length + 1), false⟩ := by
    have narrow := Cursor.advanceChars_narrow m.isNarrow_marker c.offset c.column
      (List.replicate m.spaces ' ' ++ l)
    rw [List.length_append, List.length_singleton, List.append_assoc, List.singleton_append]
      at narrow
    obtain ⟨line, offset, column, inTab⟩ := c
    cases rest
    cases outside
    exact narrow
  rw [ContainerStart.item?, Cursor.body_of_flush flush, marker]
  simp only [Cursor.toBody_of_flush flush, moved, content_line inert nonempty,
    Cursor.indent_of_flush flush, Nat.add_assoc, width]

/-- A line with a marker opens an item, of which the text on the line is the content. -/
theorem read_line {c : Cursor} (rest : c.rest = m.line l) (outside : c.inTab = false)
    (allowed : inParagraph = true → m.endsParagraph = true) (isLazy : Bool) :
    BlockStarts.read c.rest.length 0 inParagraph isLazy c =
      ⟨[.item m.mark 0 m.width], none, ⟨l, c.offset + m.width, c.column + m.width, false⟩⟩ := by
  obtain ⟨d, s, line, start⟩ := m.exists_line_eq l
  have noQuote : c.rest.head? ≠ some '>' := by
    rw [rest, line]
    rintro ⟨⟩
    exact absurd start (by decide)
  have length : c.rest.length = s.length + 1 := by rw [rest, line, List.length_cons]
  rw [length, BlockStarts.read_item (rest ▸ m.isFlush_line l) noQuote
    (leafStart_line inert nonempty rest) (item?_line inert nonempty rest outside allowed) _
    (by decide), IsInert.read inert]
  rfl

/-- A line with a marker makes no heading of the paragraph before it. -/
theorem underline?_line {c : Cursor} (rest : c.rest = m.line l) : underline? c = none := by
  have flush : IsFlush c.rest := rest ▸ m.isFlush_line l
  have known := m.known
  have areDigits := m.areDigits
  rw [underline?, Cursor.body_of_flush flush, rest, line]
  cases same : m.digits with
  | nil =>
    obtain ⟨space, text⟩ := afterMark (m := m) inert nonempty
    have ends : ∀ d ∈ (List.replicate m.spaces ' ' ++ l).head?, decide (d = m.mark) = false := by
      intro d head
      rw [head, Option.all_some] at space
      refine decide_eq_false ?_
      rintro rfl
      rw [m.isSpacing_mark] at space
      cases space
    have rest : (m.mark :: (List.replicate m.spaces ' ' ++ l)).dropWhile (· = m.mark) =
        List.replicate m.spaces ' ' ++ l := Text.dropWhile_run (s := [m.mark]) (by simp) ends
    simp only [List.nil_append, rest, text, Bool.and_false, Bool.false_eq_true, if_false]
  | cons d ds =>
    rw [same, List.all_cons, Bool.and_eq_true] at areDigits
    have notEquals : d ≠ '=' := by rintro rfl; exact absurd areDigits.1 (by decide)
    have notHyphen : d ≠ '-' := by rintro rfl; exact absurd areDigits.1 (by decide)
    simp only [List.cons_append, notEquals, notHyphen, if_false, ite_self]

end

end ItemMarker

/-! ### Lines inside open items -/

/-- The columns that a line inside an item has to be indented by. -/
def OpenContainer.width? : OpenContainer → Option Nat
  | .item _ _ indent padding _ => some (indent + padding)
  | .quote _ => none

theorem OpenContainer.exists_item {container : OpenContainer} {w : Nat}
    (width : container.width? = some w) : ∃ style items indent padding blocks,
      container = .item style items indent padding blocks ∧ indent + padding = w := by
  cases container with
  | quote => cases width
  | item style items indent padding blocks =>
    exact ⟨style, items, indent, padding, blocks, rfl, Option.some.inj width⟩

namespace Outline

variable {l : Text}

section

variable (flush : IsFlush l) (nonempty : l ≠ [])

include flush

private theorem enterItem?_spaces (indent padding more place : Nat) (isEmpty : Bool) :
    enterItem? indent padding isEmpty
        ⟨List.replicate (indent + padding + more) ' ' ++ l, place, place, false⟩ =
      some ⟨List.replicate more ' ' ++ l, place + (indent + padding), place + (indent + padding),
        false⟩ := by
  have spaces : Cursor.indent
      ⟨List.replicate (indent + padding + more) ' ' ++ l, place, place, false⟩ =
        indent + padding + more := Cursor.indentFrom_spaces_append _ flush place
  rw [enterItem?, spaces, if_pos (Nat.le_add_right ..), ← List.replicate_append_replicate,
    List.append_assoc, Cursor.advanceColumns_spaces]

include nonempty

private theorem enterItem?_of_flush {indent padding : Nat} (wide : 0 < indent + padding)
    (place : Nat)
    (isEmpty : Bool) : enterItem? indent padding isEmpty ⟨l, place, place, false⟩ = none := by
  have visible : Cursor.isBlank ⟨l, place, place, false⟩ = false := by
    rw [Cursor.isBlank_of_flush flush]
    exact List.isEmpty_eq_false_iff.mpr nonempty
  rw [enterItem?, Cursor.indent_of_flush flush, if_neg (Nat.not_le.mpr wide), visible,
    Bool.false_and, if_neg Bool.false_ne_true]

/-- A line with as many spaces as the outer ones of some items are wide together reaches just
these. -/
theorem descend_items {outer inner : List Nat} (positive : ∀ w ∈ inner, 0 < w)
    {containers : List OpenContainer}
    (widths : containers.map OpenContainer.width? = (outer ++ inner).map some) (holdsBlock : Bool)
    (place : Nat) :
    descend holdsBlock ⟨List.replicate outer.sum ' ' ++ l, place, place, false⟩ containers =
      (⟨l, place + outer.sum, place + outer.sum, false⟩, inner.length) := by
  induction outer generalizing containers place with
  | nil =>
    cases inner with
    | nil =>
      cases List.map_eq_nil_iff.mp widths
      rfl
    | cons w inner =>
      obtain ⟨container, containers, rfl, width, others⟩ := List.map_eq_cons_iff.mp widths
      obtain ⟨style, items, indent, padding, blocks, rfl, rfl⟩ := OpenContainer.exists_item width
      have outside := enterItem?_of_flush flush nonempty (List.forall_mem_cons.mp positive).1 place
      have count : containers.length = inner.length := by
        simpa using congrArg List.length others
      simp only [List.sum_nil, List.replicate_zero, List.nil_append, descend, outside, count,
        Nat.add_zero, List.length_cons]
  | cons w outer ih =>
    obtain ⟨container, containers, rfl, width, others⟩ := List.map_eq_cons_iff.mp widths
    obtain ⟨style, items, indent, padding, blocks, rfl, rfl⟩ := OpenContainer.exists_item width
    have inside := enterItem?_spaces flush indent padding outer.sum place
    have rest := ih others (place + (indent + padding))
    simp only [List.sum_cons, descend, inside, rest]
    simp only [Nat.add_assoc]

/-- The same with the innermost item first. -/
theorem descend_reverse {inner outer : List Nat} (positive : ∀ w ∈ inner, 0 < w)
    {containers : List OpenContainer}
    (widths : containers.map OpenContainer.width? = (inner ++ outer).map some)
    (holdsBlock : Bool) :
    descend holdsBlock (Cursor.atStart (List.replicate outer.sum ' ' ++ l)) containers.reverse =
      (⟨l, outer.sum, outer.sum, false⟩, inner.length) := by
  have reversed : containers.reverse.map OpenContainer.width? =
      (outer.reverse ++ inner.reverse).map some := by
    rw [List.map_reverse, widths, ← List.map_reverse, List.reverse_append]
  have reach := descend_items flush nonempty
    (fun w member => positive w (List.mem_reverse.mp member)) reversed holdsBlock 0
  rwa [List.sum_reverse, List.length_reverse, Nat.zero_add] at reach

end

/-- A line is read from the place that it reaches inside the containers. -/
theorem readLine_of_descend {o : Outline} {c : Cursor} {unreached : Nat}
    (unmarked : l.head? ≠ some '\uFEFF')
    (reach : descend o.innermost.isSome (Cursor.atStart l) o.containers.reverse = (c, unreached)) :
    o.readLine l = if unreached = 0 then readInside { o with line := o.line + 1 } c
      else readOutside { o with line := o.line + 1 } unreached c := by
  unfold readLine
  simp only [Cursor.atFirstStart_eq unmarked, ite_self, reach]

section

variable {m : ItemMarker} (inert : IsInert l) (shown : l ≠ []) {o : Outline} {c : Cursor}
  (rest : c.rest = m.line l) (outside : c.inTab = false)
  (text : ∀ b ∈ o.innermost, ∃ p, b = .paragraph p)

include inert shown rest outside text

/-- A line with a marker that is inside all open items opens one in them. -/
theorem readInside_marked (allowed : o.innermost.isSome → m.endsParagraph = true) :
    o.readInside c = o.openStarts
      ⟨[.item m.mark 0 m.width], none, ⟨l, c.offset + m.width, c.column + m.width, false⟩⟩ := by
  have starts (inParagraph : Bool) (may : inParagraph = true → m.endsParagraph = true) :=
    ItemMarker.read_line inert shown rest outside may
  have noHeading := ItemMarker.underline?_line inert shown rest
  have visible : c.isBlank = false := by
    rw [Cursor.isBlank_of_flush (rest ▸ m.isFlush_line l), rest]
    exact List.isEmpty_eq_false_iff.mpr (m.line_ne_nil l)
  obtain ⟨blocks, containers, innermost, links, n⟩ := o
  cases innermost with
  | none => exact congrArg (openStarts _) (starts false (by rintro ⟨⟩) false)
  | some b =>
    obtain ⟨p, rfl⟩ := text b rfl
    have inside := starts true (fun _ => allowed rfl) true
    simp only [readInside, visible, noHeading, inside, BlockStarts.isEmpty, List.isEmpty_cons,
      Bool.false_and, Bool.false_eq_true, if_false]

/-- A line with a marker that is outside of some open items opens one after these. -/
theorem readOutside_marked (unreached : Nat) :
    o.readOutside unreached c = (o.closeContainers unreached).openStarts
      ⟨[.item m.mark 0 m.width], none, ⟨l, c.offset + m.width, c.column + m.width, false⟩⟩ := by
  have starts (isLazy : Bool) : BlockStarts.read c.rest.length 0 false isLazy c = _ :=
    ItemMarker.read_line inert shown rest outside (by rintro ⟨⟩) isLazy
  obtain ⟨blocks, containers, innermost, links, n⟩ := o
  cases innermost with
  | none => exact congrArg (openStarts _) (starts false)
  | some b =>
    obtain ⟨p, rfl⟩ := text b rfl
    simp only [readOutside, starts, BlockStarts.isEmpty, List.isEmpty_cons, Bool.false_and,
      Bool.false_eq_true, if_false]

end

/-- A line with a marker opens an item inside the items to whose content it is indented, after those
inside these have been closed. Right after a paragraph not every number may do so. -/
theorem readLine_marked {m : ItemMarker} (inert : IsInert l) (shown : l ≠ [])
    {inner outer : List Nat} (positive : ∀ w ∈ inner, 0 < w) {o : Outline}
    (widths : o.containers.map OpenContainer.width? = (inner ++ outer).map some)
    (text : ∀ b ∈ o.innermost, ∃ p, b = .paragraph p)
    (allowed : inner = [] → o.innermost.isSome → m.endsParagraph = true) :
    o.readLine (List.replicate outer.sum ' ' ++ m.line l) =
      (({ o with line := o.line + 1 } : Outline).closeContainers inner.length).openStarts
        ⟨[.item m.mark 0 m.width], none,
          ⟨l, outer.sum + m.width, outer.sum + m.width, false⟩⟩ := by
  have unmarked : (List.replicate outer.sum ' ' ++ m.line l).head? ≠ some '\uFEFF' := by
    cases outer.sum with
    | zero => exact fun mark => absurd (m.isStart_of_head mark) (by decide)
    | succ n => simp [List.replicate_succ]
  rw [readLine_of_descend unmarked (descend_reverse (m.isFlush_line l) (m.line_ne_nil l) positive
    widths o.innermost.isSome)]
  split
  · rename_i all
    rw [all]
    exact readInside_marked inert shown rfl rfl text (allowed (List.length_eq_zero_iff.mp all))
  · exact readOutside_marked (o := { o with line := o.line + 1 })
      (c := ⟨m.line l, outer.sum, outer.sum, false⟩) inert shown rfl rfl text inner.length

end Outline

end Chatdown.Markdown
