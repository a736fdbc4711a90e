import Chatdown.Proofs.Markdown.ItemLines
import Chatdown.Proofs.Markdown.LineStarts
import Chatdown.Proofs.Markdown.RunningText

/-! # Lines that open blocks and add to them

What a single line makes of an outline in which at most one item and a paragraph are open: inert
lines are paragraphs or go on with one, hashes make a heading, and a hyphen begins an item or ends
the item before it. A blank line ends a paragraph, and an item is left when flush text follows.
-/

namespace Chatdown.Markdown

theorem rawLines_cons (l : Text) (lines : List Text) :
    rawLines (l :: lines) = rawLines lines ++ (l ++ ['\n']) := by
  simp [rawLines]

/-- Only an opening bracket can be the start of a link definition. -/
theorem LinkDefinition.readAll_of_head {t : Text} (other : t.head? ≠ some '[')
    (links : LinkTable) : readAll links t = (links, t) := by
  have none : read? t = none := by
    cases t with
    | nil => rfl
    | cons c t =>
      have notBracket : '[' ≠ c := by
        rintro rfl
        exact other rfl
      rw [read?, Text.after?, if_neg notBracket]
      rfl
  rw [readAll, none]

namespace Outline

variable (blocks : List (Block Passage)) (links : LinkTable) (n : Nat) {l : Text}

theorem closeParagraph_eq {p : OpenParagraph} (other : p.text.head? ≠ some '[')
    (nonempty : p.text ≠ []) (o : Outline) :
    o.closeParagraph p = o.add (.paragraph (p.passage p.text)) := by
  rw [closeParagraph, LinkDefinition.readAll_of_head other]
  exact if_neg nonempty

theorem isBlank_eq_false {c : Cursor} (inert : IsInert c.rest) (nonempty : c.rest ≠ []) :
    c.isBlank = false := by
  rw [Cursor.isBlank_of_flush inert.flush]
  simpa using nonempty

/-- The paragraph that begins at a place with the given text after it. -/
theorem openParagraph_eq {c : Cursor} (inert : IsInert c.rest) (nonempty : c.rest ≠ [])
    (outside : c.inTab = false) (o : Outline) :
    o.openParagraph c =
      { o.closeInnermost with
        innermost := some (.paragraph ⟨o.closeInnermost.line, c.offset + 1, [c.offset], [c.rest],
          false⟩) } := by
  have start : OpenParagraph.start o.closeInnermost.line c =
      ⟨o.closeInnermost.line, c.offset + 1, [c.offset], [c.rest], false⟩ := by
    simp only [OpenParagraph.start, Cursor.toBody_of_flush inert.flush,
      Cursor.remainder_of_not_inTab outside, Cursor.margin, outside, Bool.false_eq_true, if_false]
  simp only [openParagraph, isBlank_eq_false inert nonempty, Bool.false_eq_true, if_false, start]

private theorem readInside_closed (containers : List OpenContainer) (c : Cursor) :
    readInside ⟨blocks, containers, none, links, n⟩ c =
      openStarts ⟨blocks, containers, none, links, n⟩
        (BlockStarts.read c.rest.length 0 false false c) := rfl

private theorem readInside_paragraph_line (containers : List OpenContainer) (p : OpenParagraph)
    {c : Cursor}
    (inert : IsInert c.rest) (nonempty : c.rest ≠ []) (outside : c.inTab = false)
    (noRow : TableRow.columns? c.rest = none) :
    readInside ⟨blocks, containers, some (.paragraph p), links, n⟩ c =
      ⟨blocks, containers, some (.paragraph
        { p with margins := c.offset :: p.margins, lines := c.rest :: p.lines }), links, n⟩ := by
  have start : p.add c.toBody =
      { p with margins := c.offset :: p.margins, lines := c.rest :: p.lines } := by
    simp only [OpenParagraph.add, Cursor.toBody_of_flush inert.flush,
      Cursor.remainder_of_not_inTab outside, Cursor.margin, outside, Bool.false_eq_true, if_false]
  simp only [readInside, isBlank_eq_false inert nonempty, inert.underline?, inert.read,
    BlockStarts.isEmpty, List.isEmpty_nil, Option.isNone_none, Bool.and_self, if_true,
    Bool.false_eq_true, if_false, addToParagraph, Cursor.body_of_flush inert.flush, noRow, ite_self,
    start]

/-- A line that opens nothing is a paragraph. -/
theorem readLine_paragraph (inert : IsInert l) (nonempty : l ≠ [])
    (unmarked : n = 0 → l.head? ≠ some '\uFEFF') :
    readLine ⟨blocks, [], none, links, n⟩ l =
      ⟨blocks, [], some (.paragraph ⟨n + 1, 1, [0], [l], false⟩), links, n + 1⟩ := by
  rw [readLine_outside unmarked, readInside_closed, IsInert.read inert]
  exact openParagraph_eq (c := Cursor.atStart l) inert nonempty rfl _

/-- A line that opens nothing and is no row goes on with a paragraph. -/
theorem readLine_paragraph_line (p : OpenParagraph) (inert : IsInert l) (nonempty : l ≠ [])
    (noRow : TableRow.columns? l = none) :
    readLine ⟨blocks, [], some (.paragraph p), links, n + 1⟩ l =
      ⟨blocks, [], some (.paragraph { p with margins := 0 :: p.margins, lines := l :: p.lines }),
        links, n + 2⟩ := by
  rw [readLine_outside fun first => absurd first (Nat.succ_ne_zero n)]
  exact readInside_paragraph_line blocks links (n + 2) [] p inert nonempty rfl noRow

/-- A blank line ends a paragraph. -/
theorem readLine_blank (p : OpenParagraph) :
    readLine ⟨blocks, [], some (.paragraph p), links, n⟩ [] =
      closeParagraph ⟨blocks, [], none, links, n + 1⟩ p := by
  rw [readLine_outside fun _ => by decide]
  rfl

/-- A single line that opens nothing and defines no link is a paragraph. -/
theorem ofLines_paragraph (inert : IsInert l) (nonempty : l ≠ [])
    (unmarked : l.head? ≠ some '\uFEFF')
    (noDefinition : LinkDefinition.readAll .empty (l ++ ['\n']) = (.empty, l ++ ['\n'])) :
    ofLines [l] = ⟨[.paragraph ⟨l ++ ['\n'], 1, [0]⟩], [], none, .empty, 1⟩ := by
  have text : rawLines [l] = l ++ ['\n'] := rawLines_cons l []
  rw [ofLines, List.foldl_cons, List.foldl_nil, empty,
    readLine_paragraph [] .empty 0 inert nonempty fun _ => unmarked]
  simp only [close, List.length_nil, closeContainers, closeInnermost, closeParagraph,
    OpenParagraph.text, text, noDefinition]
  rw [if_neg (by simp)]
  rfl

/-- What follows hashes and a space is the content of a heading. -/
theorem heading?_hashes {level : Nat} (positive : 1 ≤ level) (small : level ≤ 6)
    (flush : IsFlush l) :
    LeafStart.heading? (List.replicate level '#' ++ ' ' :: l) = some (level, level + 1) := by
  have run : (List.replicate level '#' ++ ' ' :: l).takeWhile (· = '#') =
      List.replicate level '#' := Text.takeWhile_run (by simp) (by simp)
  have rest : (List.replicate level '#' ++ ' ' :: l).drop level = ' ' :: l :=
    List.drop_left' List.length_replicate
  have space : (' ' :: l).takeWhile isPad = [' '] := by
    rw [List.takeWhile_cons_of_pos (by decide), takeWhile_isPad_of_flush flush]
  simp only [LeafStart.heading?, run, List.length_replicate, rest, space]
  simp [positive, small, isPad]

/-- Text is no end of a heading. -/
theorem headingText_eq (solid : IsSolid l) (nonempty : l ≠ []) (noHash : '#' ∉ l) :
    headingText l = l := by
  have last : trimEnd (· = '#') l = l := by
    refine trimEnd_eq_self fun c last => decide_eq_false ?_
    rintro rfl
    exact noHash (List.mem_of_getLast? last)
  rw [headingText, trimEnd_of_solid solid]
  simp [last, nonempty]

private theorem head?_hashes {level : Nat} (positive : 1 ≤ level) (t : Text) :
    (List.replicate level '#' ++ t).head? = some '#' := by
  obtain ⟨k, rfl⟩ := Nat.exists_eq_add_of_le' positive
  rfl

theorem isFlush_hashes {level : Nat} (positive : 1 ≤ level) (t : Text) :
    IsFlush (List.replicate level '#' ++ t) := fun c first => by
  cases (head?_hashes positive t).symm.trans first
  decide

theorem read_hashes {level : Nat} (positive : 1 ≤ level) (small : level ≤ 6) (flush : IsFlush l) :
    BlockStarts.read (List.replicate level '#' ++ ' ' :: l).length 0 false false
        (Cursor.atStart (List.replicate level '#' ++ ' ' :: l)) =
      ⟨[], some (.heading level),
        (Cursor.atStart (List.replicate level '#' ++ ' ' :: l)).advanceChars (level + 1)⟩ := by
  have head := head?_hashes positive (' ' :: l)
  have flushLine := isFlush_hashes positive (' ' :: l)
  have heading := heading?_hashes positive small flush
  generalize List.replicate level '#' ++ ' ' :: l = line at head flushLine heading
  obtain ⟨t, rfl⟩ := List.head?_eq_some_iff.mp head
  refine BlockStarts.read_leaf flushLine (by simp [Cursor.atStart]) ?_ _ 0 false
  rw [LeafStart.read?, Cursor.body_of_flush (c := Cursor.atStart ('#' :: t)) flushLine,
    Cursor.toBody_of_flush (c := Cursor.atStart ('#' :: t)) flushLine]
  simp only [Cursor.atStart, heading]

/-- Hashes and a space make a heading of solid text. -/
theorem exists_readLine_heading {level : Nat} (positive : 1 ≤ level) (small : level ≤ 6)
    (flush : IsFlush l) (nonempty : l ≠ []) (solid : IsSolid l) (noHash : '#' ∉ l) :
    ∃ margin, readLine ⟨blocks, [], none, links, n⟩ (List.replicate level '#' ++ ' ' :: l) =
      ⟨.heading level ⟨l, n + 1, [margin]⟩ :: blocks, [], none, links, n + 1⟩ := by
  have starts := read_hashes positive small flush
  have rest : (List.replicate level '#' ++ ' ' :: l).drop (level + 1) = l := by
    rw [List.drop_append, List.drop_replicate]
    simp
  have content := Cursor.advanceChars_rest (Cursor.atStart (List.replicate level '#' ++ ' ' :: l))
    (level + 1)
  have inTab := Cursor.advanceChars_inTab
    (c := Cursor.atStart (List.replicate level '#' ++ ' ' :: l)) rfl (level + 1)
  generalize (Cursor.atStart (List.replicate level '#' ++ ' ' :: l)).advanceChars (level + 1) =
    inside at starts content inTab
  replace content : inside.rest = l := content.trans rest
  rw [readLine_outside (fun _ => by simp [head?_hashes positive]), readInside_closed]
  refine ⟨inside.margin, (congrArg (openStarts ⟨blocks, [], none, links, n + 1⟩) starts).trans ?_⟩
  have toBody : inside.toBody = inside := Cursor.toBody_of_flush (by rwa [content])
  simp only [openStarts, List.foldl_nil, openLeaf, closeInnermost, add, toBody,
    Cursor.remainder_of_not_inTab inTab, content, headingText_eq solid nonempty noHash]

section

variable (style : ListStyle) (items : List (Item Passage)) (inside : List (Block Passage))

/-- A hyphen and a space begin an item, of which the rest of the line is a paragraph. -/
theorem read_bullet (inert : IsInert l) (nonempty : l ≠ []) (isLazy : Bool) :
    BlockStarts.read (l.length + 2) 0 false isLazy (Cursor.atStart ('-' :: ' ' :: l)) =
      ⟨[.item '-' 0 2], none, ⟨l, 2, 2, false⟩⟩ := by
  have atHyphen : (Cursor.atStart ('-' :: ' ' :: l)).rest = ItemMarker.hyphen.line l := rfl
  exact ItemMarker.read_line inert nonempty atHyphen rfl (fun _ => rfl) isLazy

/-- After the first line, a line is read from the place that it reaches inside the containers. -/
theorem readLine_eq_of_descend {containers : List OpenContainer} {innermost : Option OpenBlock}
    {c : Cursor} {unreached : Nat}
    (reach : descend innermost.isSome (Cursor.atStart l) containers.reverse = (c, unreached)) :
    readLine ⟨blocks, containers, innermost, links, n + 1⟩ l =
      if unreached = 0 then readInside ⟨blocks, containers, innermost, links, n + 2⟩ c
      else readOutside ⟨blocks, containers, innermost, links, n + 2⟩ unreached c := by
  unfold readLine
  simp only [Nat.succ_ne_zero, if_false, reach]

/-- A line that is not indented is outside of an item. -/
theorem readLine_outOfItem (flush : IsFlush l) (nonempty : l ≠ []) (innermost : Option OpenBlock) :
    readLine ⟨blocks, [.item style items 0 2 inside], innermost, links, n + 1⟩ l =
      readOutside ⟨blocks, [.item style items 0 2 inside], innermost, links, n + 2⟩ 1
        (Cursor.atStart l) := by
  have widths : [OpenContainer.item style items 0 2 inside].map OpenContainer.width? =
      ([] ++ [2]).map some := rfl
  have reach := descend_items flush nonempty (List.forall_mem_singleton.mpr Nat.two_pos) widths
    innermost.isSome 0
  rw [readLine_eq_of_descend blocks links n reach]
  rfl

/-- A line with a hyphen begins a list. -/
theorem readLine_item (inert : IsInert l) (nonempty : l ≠ []) :
    readLine ⟨blocks, [], none, links, n⟩ ('-' :: ' ' :: l) =
      ⟨blocks, [.item ⟨'-', 2⟩ [] 0 2 []], some (.paragraph ⟨n + 1, 3, [2], [l], false⟩), links,
        n + 1⟩ := by
  have starts := read_bullet inert nonempty false
  rw [readLine_outside (fun _ => by simp), readInside_closed]
  refine (congrArg (openStarts ⟨blocks, [], none, links, n + 1⟩) starts).trans ?_
  exact openParagraph_eq (c := ⟨l, 2, 2, false⟩) inert nonempty rfl _

/-- A single line with a hyphen is a list of one item. -/
theorem ofLines_item (inert : IsInert l) (nonempty : l ≠ [])
    (noDefinition : LinkDefinition.readAll .empty (l ++ ['\n']) = (.empty, l ++ ['\n'])) :
    ofLines ['-' :: ' ' :: l] =
      ⟨[.list ⟨'-', 2⟩ [.plain 2 [.paragraph ⟨l ++ ['\n'], 1, [2]⟩]]], [], none, .empty, 1⟩ := by
  have text : rawLines [l] = l ++ ['\n'] := rawLines_cons l []
  rw [ofLines, List.foldl_cons, List.foldl_nil, empty, readLine_item [] .empty 0 inert nonempty]
  simp only [close, List.length_singleton, closeContainers, closeContainer, closeInnermost,
    closeParagraph, OpenParagraph.text, text, noDefinition, add]
  rw [if_neg (by simp)]
  rfl

/-- A line with a hyphen ends an item and begins the next one. -/
theorem readLine_nextItem (p : OpenParagraph) (other : p.text.head? ≠ some '[')
    (shown : p.text ≠ []) (inert : IsInert l) (nonempty : l ≠ []) :
    readLine ⟨blocks, [.item ⟨'-', 2⟩ items 0 2 []], some (.paragraph p), links, n + 1⟩
        ('-' :: ' ' :: l) =
      ⟨blocks, [.item ⟨'-', 2⟩ (.plain 2 [.paragraph (p.passage p.text)] :: items) 0 2 []],
        some (.paragraph ⟨n + 2, 3, [2], [l], false⟩), links, n + 2⟩ := by
  have flush : IsFlush ('-' :: ' ' :: l) := isFlush_cons _ (by decide)
  have starts : BlockStarts.read (Cursor.atStart ('-' :: ' ' :: l)).rest.length 0 false true
      (Cursor.atStart ('-' :: ' ' :: l)) = ⟨[.item '-' 0 2], none, ⟨l, 2, 2, false⟩⟩ :=
    read_bullet inert nonempty true
  rw [readLine_outOfItem blocks links n _ items [] flush (by simp), readOutside]
  simp only [starts]
  simp only [BlockStarts.isEmpty, List.isEmpty_cons, Bool.false_and, Bool.false_eq_true, if_false,
    closeContainers, closeContainer, closeInnermost, closeParagraph_eq other shown, add,
    openStarts, List.foldl_cons, List.foldl_nil, openContainer, if_true, List.reverse_singleton]
  exact openParagraph_eq (c := ⟨l, 2, 2, false⟩) inert nonempty rfl _

/-- A blank line ends the paragraph in an item. -/
theorem readLine_blank_inItem (p : OpenParagraph) :
    readLine ⟨blocks, [.item style items 0 2 inside], some (.paragraph p), links, n + 1⟩ [] =
      closeParagraph ⟨blocks, [.item style items 0 2 inside], none, links, n + 2⟩ p := by
  have reach : descend (some (OpenBlock.paragraph p)).isSome (Cursor.atStart [])
      [.item style items 0 2 inside].reverse = (Cursor.atStart [], 0) := by
    simp only [List.reverse_singleton, descend, Option.isSome_some, Bool.not_true, Bool.and_false]
    rfl
  rw [readLine_eq_of_descend blocks links n reach]
  rfl

/-- After a blank line, a list has ended if the next line begins no item. -/
theorem readLine_afterList (flush : IsFlush l) (nonempty : l ≠ []) {leaf : Option LeafStart}
    {place : Cursor} (starts : BlockStarts.read (Cursor.atStart l).rest.length 0 false false
      (Cursor.atStart l) = ⟨[], leaf, place⟩) (visible : leaf = none → place.isBlank = false) :
    readLine ⟨blocks, [.item style items 0 2 inside], none, links, n + 1⟩ l =
      readLine ⟨.list style (.plain 2 inside.reverse :: items).reverse :: blocks, [], none, links,
        n + 1⟩ l := by
  rw [readLine_outOfItem blocks links n style items inside flush nonempty,
    readLine_outside (fun first => absurd first (Nat.succ_ne_zero n)), readInside_closed,
    readOutside]
  simp only [starts]
  cases leaf with
  | some leaf => rfl
  | none =>
    simp only [openStarts, openParagraph, visible]
    rfl

end

end Outline

end Chatdown.Markdown
