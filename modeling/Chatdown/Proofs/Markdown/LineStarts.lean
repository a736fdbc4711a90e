import Chatdown.Markdown.Outline
import Chatdown.Proofs.Text.Runs

/-! # Where the content of a line begins

A text is flush if it does not begin with a space or a tab. A cursor in front of flush text has no
indent and need not move to reach its body. Where no container is open, a line is read from its
start, and only a byte order mark at the start of the first line is passed over. Most characters
can only be the start of text: a line that begins with one of them opens nothing.
-/

namespace Chatdown.Markdown

/-- Text that does not begin with a space or a tab. -/
def IsFlush (t : Text) : Prop := ∀ c ∈ t.head?, isPad c = false

theorem isPad_of_isGap {c : Char} (bare : isGap c = false) : isPad c = false := by
  simp only [isGap, isSpacing, Bool.or_eq_false_iff] at bare
  rw [isPad, bare.1.1.1.1.1, bare.1.1.1.1.2, Bool.false_or]

theorem isSpacing_of_isGap {c : Char} (bare : isGap c = false) : isSpacing c = false :=
  (Bool.or_eq_false_iff.mp bare).1

theorem isFlush_cons {c : Char} (t : Text) (bare : isPad c = false) : IsFlush (c :: t) := by
  simpa [IsFlush] using bare

theorem takeWhile_isPad_of_flush {t : Text} (flush : IsFlush t) : t.takeWhile isPad = [] := by
  cases t with
  | nil => rfl
  | cons c t => exact List.takeWhile_cons_of_neg (by simp [flush c rfl])

private theorem dropWhile_isPad_of_flush {t : Text} (flush : IsFlush t) :
    t.dropWhile isPad = t := by
  cases t with
  | nil => rfl
  | cons c t => exact List.dropWhile_cons_of_neg (by simp [flush c rfl])

namespace Cursor

private theorem indentFrom_of_flush {t : Text} (flush : IsFlush t) (column : Nat) :
    indentFrom column t = 0 := by
  cases t with
  | nil => rfl
  | cons c t =>
    have bare := flush c rfl
    simp only [isPad, Bool.or_eq_false_iff, beq_eq_false_iff_ne] at bare
    rw [indentFrom, if_neg bare.1, if_neg bare.2]

theorem indentFrom_spaces_append (n : Nat) {t : Text} (flush : IsFlush t) (column : Nat) :
    indentFrom column (List.replicate n ' ' ++ t) = n := by
  induction n generalizing column with
  | zero => exact indentFrom_of_flush flush column
  | succ n ih => rw [List.replicate_succ, List.cons_append, indentFrom, if_pos rfl, ih]

variable {c : Cursor}

theorem indent_of_flush (flush : IsFlush c.rest) : c.indent = 0 :=
  indentFrom_of_flush flush c.column

theorem body_of_flush (flush : IsFlush c.rest) : c.body = c.rest := dropWhile_isPad_of_flush flush

theorem toBody_of_flush (flush : IsFlush c.rest) : c.toBody = c := by
  rw [toBody, takeWhile_isPad_of_flush flush, List.length_nil, advanceChars]

theorem isBlank_of_flush (flush : IsFlush c.rest) : c.isBlank = c.rest.isEmpty := by
  rw [isBlank, body_of_flush flush]

theorem remainder_of_not_inTab (outside : c.inTab = false) : c.remainder = c.rest := by
  rw [remainder, outside, if_neg Bool.false_ne_true]

private theorem advanceChar_rest (c : Cursor) : c.advanceChar.rest = c.rest.tail := by
  unfold advanceChar
  split
  · rename_i same
    rw [same, List.tail_nil]
  · rename_i same
    rw [same, List.tail_cons]
    split <;> rfl

theorem advanceChars_rest (c : Cursor) (n : Nat) : (c.advanceChars n).rest = c.rest.drop n := by
  induction n generalizing c with
  | zero => rfl
  | succ n ih => rw [advanceChars, ih, advanceChar_rest, List.drop_tail]

private theorem advanceChar_inTab (outside : c.inTab = false) : c.advanceChar.inTab = false := by
  unfold advanceChar
  split
  · exact outside
  · split <;> rfl

theorem advanceChars_inTab (outside : c.inTab = false) (n : Nat) :
    (c.advanceChars n).inTab = false := by
  induction n generalizing c with
  | zero => exact outside
  | succ n ih => exact ih (advanceChar_inTab outside)

theorem atFirstStart_eq {line : Text} (unmarked : line.head? ≠ some '\uFEFF') :
    atFirstStart line = atStart line := by
  cases line with
  | nil => rfl
  | cons c t =>
    rw [atFirstStart, if_neg]
    rintro rfl
    exact unmarked rfl

end Cursor

namespace LeafStart

theorem heading?_of_head {body : Text} (other : body.head? ≠ some '#') : heading? body = none := by
  have none : body.takeWhile (· = '#') = [] := by
    cases body with
    | nil => rfl
    | cons c t => exact List.takeWhile_cons_of_neg (by simpa using other)
  rw [heading?, none]
  rfl

end LeafStart

namespace BlockStarts

variable {inParagraph : Bool} {c : Cursor}

/-- A line opens the block that is read off it if no container comes first. -/
theorem read_leaf (flush : IsFlush c.rest) (noQuote : c.rest.head? ≠ some '>') {leaf : LeafStart}
    {inside : Cursor} (known : LeafStart.read? inParagraph c = some (leaf, inside))
    (limit depth : Nat) (isLazy : Bool) :
    read (limit + 1) depth inParagraph isLazy c = ⟨[], some leaf, inside⟩ := by
  rw [read, if_neg (by rw [Cursor.indent_of_flush flush]; decide),
    if_neg (by rwa [Cursor.body_of_flush flush]), known]

theorem read_item (flush : IsFlush c.rest) (noQuote : c.rest.head? ≠ some '>')
    (noLeaf : LeafStart.read? inParagraph c = none) {start : ContainerStart} {inside : Cursor}
    (known : ContainerStart.item? inParagraph c = some (start, inside)) (limit : Nat) {depth : Nat}
    (shallow : depth + 1 < itemDepthLimit) (isLazy : Bool) :
    read (limit + 1) depth inParagraph isLazy c =
      inContainer start (read limit (depth + 1) false false inside) := by
  rw [read, if_neg (by rw [Cursor.indent_of_flush flush]; decide),
    if_neg (by rwa [Cursor.body_of_flush flush]), noLeaf, if_pos shallow, known]

private theorem read_nothing (flush : IsFlush c.rest) (noQuote : c.rest.head? ≠ some '>')
    (noLeaf : LeafStart.read? inParagraph c = none)
    (noItem : ContainerStart.item? inParagraph c = none) (limit depth : Nat) (isLazy : Bool) :
    read (limit + 1) depth inParagraph isLazy c = ⟨[], none, c⟩ := by
  rw [read, if_neg (by rw [Cursor.indent_of_flush flush]; decide),
    if_neg (by rwa [Cursor.body_of_flush flush]), noLeaf, noItem, ite_self]

end BlockStarts

/-- Four characters are left that can be the start of a block, if no line is drawn. -/
theorem LeafStart.read?_eq_none {inParagraph : Bool} {c : Cursor} (flush : IsFlush c.rest)
    (other : ∀ d ∈ c.rest.head?, d ∉ "#\x60~<".toList) (noBreak : isThematicBreak c.rest = false) :
    read? inParagraph c = none := by
  rw [read?, Cursor.body_of_flush flush, noBreak]
  cases text : c.rest with
  | nil => cases inParagraph <;> rfl
  | cons d t =>
    have apart := other d (by simp [text])
    simp only [String.reduceToList, List.mem_cons, List.not_mem_nil, or_false, not_or] at apart
    obtain ⟨hash, tick, tilde, angle⟩ := apart
    have noFence : fence? (d :: t) = none := by simp [fence?, tick, tilde]
    have noHtml : HtmlBlock.start? inParagraph (d :: t) = none := by
      rw [HtmlBlock.start?, Text.after?, if_neg (Ne.symm angle)]
      rfl
    rw [heading?_of_head (by simpa using hash), noFence, noHtml]
    rfl

/-- Text that opens no block where a line begins with it, and that does not underline the line
before. -/
structure IsInert (t : Text) : Prop where
  head : ∀ c ∈ t.head?, isPad c = false ∧ c ∉ ">#\x60~<*+-_=".toList
  number : ∀ c ∈ (t.dropWhile Char.isDigit).head?, c ≠ '.' ∧ c ≠ ')'

namespace IsInert

variable {inParagraph : Bool} {c : Cursor} {t : Text}

theorem flush (inert : IsInert t) : IsFlush t := fun c first => (inert.head c first).1

/-- What follows a space opens nothing. -/
theorem append_space (inert : IsInert t) (nonempty : t ≠ []) (s : Text) :
    IsInert (t ++ ' ' :: s) := by
  constructor
  · obtain ⟨c, u, rfl⟩ := List.exists_cons_of_ne_nil nonempty
    exact inert.head
  · have space : ∀ c ∈ (' ' :: s).head?, Char.isDigit c = false := by
      rintro c ⟨⟩
      decide
    rw [Text.dropWhile_append_of_head t space, List.head?_append]
    cases same : (t.dropWhile Char.isDigit).head? with
    | none =>
      rintro c ⟨⟩
      decide
    | some d =>
      rintro c ⟨⟩
      exact inert.number d same

theorem isThematicBreak (inert : IsInert t) : LeafStart.isThematicBreak t = false := by
  cases t with
  | nil => rfl
  | cons d t =>
    have other := (inert.head d rfl).2
    simp only [String.reduceToList, List.mem_cons, not_or] at other
    simp [LeafStart.isThematicBreak, other]

private theorem leafStart (inert : IsInert c.rest) : LeafStart.read? inParagraph c = none := by
  refine LeafStart.read?_eq_none inert.flush (fun d first member => ?_) inert.isThematicBreak
  refine (inert.head d first).2 ?_
  simp only [String.reduceToList, List.mem_cons, List.not_mem_nil, or_false] at member ⊢
  rcases member with same | same | same | same <;> simp [same]

theorem marker? (inert : IsInert t) : ContainerStart.marker? inParagraph t = none := by
  have drop := Text.drop_length_takeWhile Char.isDigit t
  simp only [ContainerStart.marker?, drop]
  split
  · rfl
  · rename_i d rest same
    have number := inert.number d (by rw [same]; rfl)
    rw [if_neg]
    intro marks
    simp only [Bool.and_eq_true] at marks
    obtain ⟨⟨⟨marker, _⟩, _⟩, _⟩ := marks
    split at marker
    · rename_i noDigit
      rw [noDigit, List.length_nil, List.drop_zero] at drop
      have other := (inert.head d (by rw [drop, same]; rfl)).2
      simp only [Bool.or_eq_true, decide_eq_true_eq] at marker
      rcases marker with (rfl | rfl) | rfl <;> exact other (by decide)
    · simp [number] at marker

theorem item? (inert : IsInert c.rest) : ContainerStart.item? inParagraph c = none := by
  rw [ContainerStart.item?, Cursor.body_of_flush inert.flush, inert.marker?]

/-- Nothing is opened by inert text, wherever a cursor stands in front of it. -/
theorem read (inert : IsInert c.rest) (limit depth : Nat) (isLazy : Bool) :
    BlockStarts.read limit depth inParagraph isLazy c = ⟨[], none, c⟩ := by
  cases limit with
  | zero => rfl
  | succ limit =>
    refine BlockStarts.read_nothing inert.flush ?_ inert.leafStart inert.item? limit depth isLazy
    intro quote
    exact absurd (inert.head '>' quote).2 (by decide)

theorem underline? (inert : IsInert c.rest) : underline? c = none := by
  rw [Markdown.underline?, Cursor.body_of_flush inert.flush]
  split
  · rfl
  · rename_i d t same
    have other := (inert.head d (by rw [same]; rfl)).2
    have notEquals : d ≠ '=' := by rintro rfl; exact other (by decide)
    have notHyphen : d ≠ '-' := by rintro rfl; exact other (by decide)
    rw [if_neg notEquals, if_neg notHyphen, ite_self]

end IsInert

namespace Outline

/-- Outside of containers a line is read from its start on. -/
theorem readLine_outside {n : Nat} {line : Text} (unmarked : n = 0 → line.head? ≠ some '\uFEFF')
    (blocks : List (Block Passage)) (innermost : Option OpenBlock) (links : LinkTable) :
    readLine ⟨blocks, [], innermost, links, n⟩ line =
      readInside ⟨blocks, [], innermost, links, n + 1⟩ (Cursor.atStart line) := by
  have start : (if n = 0 then Cursor.atFirstStart line else Cursor.atStart line) =
      Cursor.atStart line := by
    split
    · rename_i first
      exact Cursor.atFirstStart_eq (unmarked first)
    · rfl
  unfold readLine
  rw [start]
  rfl

end Outline

end Chatdown.Markdown
