import Chatdown.Proofs.Document.ListRuns
import Chatdown.Proofs.Markdown.ItemLines
import Chatdown.Proofs.Markdown.PlainBlocks
import Chatdown.Proofs.Markdown.TaskBoxes

/-! # Items inside open items

While the items of nested lists are read, the items around the latest one are open. Seen from one of
them, all that is read inside it comes down to lists that stand in it one after another: a line that
is indented to its content adds an item to them. This holds whatever is open further inside, since
that is closed first.
-/

namespace Chatdown.Markdown

namespace Outline

private theorem add_with (o : Outline) (b : Block Passage) (innermost : Option OpenBlock)
    (line : Nat) :
    ({ o with innermost, line } : Outline).add b = { o.add b with innermost, line } := by
  obtain ⟨blocks, containers, _, links, _⟩ := o
  rcases containers with _ | ⟨_ | _, containers⟩ <;> rfl

private theorem add_innermost (o : Outline) (b : Block Passage) :
    (o.add b).innermost = o.innermost := by
  obtain ⟨blocks, containers, _, links, _⟩ := o
  rcases containers with _ | ⟨_ | _, containers⟩ <;> rfl

private theorem add_widths (o : Outline) (b : Block Passage) :
    (o.add b).containers.map OpenContainer.width? = o.containers.map OpenContainer.width? := by
  obtain ⟨blocks, containers, _, links, _⟩ := o
  rcases containers with _ | ⟨_ | _, containers⟩ <;> rfl

def endParagraph (o : Outline) : Outline :=
  match o.innermost with
  | some (.paragraph p) => ({ o with innermost := none } : Outline).closeParagraph p
  | _ => o

private theorem closeParagraph_innermost (o : Outline) (p : OpenParagraph) :
    (o.closeParagraph p).innermost = o.innermost := by
  unfold closeParagraph
  simp only
  split
  · rfl
  · rw [add_innermost]

/-- A paragraph that defines no link is a block as it stands. -/
theorem closeParagraph_of_noDefinition {o : Outline} {p : OpenParagraph}
    (noDefinition : LinkDefinition.readAll o.links p.text = (o.links, p.text))
    (nonempty : p.text ≠ []) : o.closeParagraph p = o.add (.paragraph (p.passage p.text)) := by
  rw [closeParagraph, noDefinition]
  exact if_neg nonempty

/-- Closing a paragraph leaves nothing else open inside the containers. -/
theorem endParagraph_cases (o : Outline) : o.endParagraph = o ∨
    o.endParagraph = o.closeInnermost ∧ o.endParagraph.innermost = none ∧
      ∃ p, o.innermost = some (.paragraph p) := by
  unfold endParagraph
  split
  · rename_i p same
    refine .inr ⟨?_, closeParagraph_innermost _ p, p, same⟩
    simp only [closeInnermost, same]
  · exact .inl rfl

/-- An open paragraph is closed before anything else is. -/
theorem closeInnermost_endParagraph (o : Outline) :
    o.endParagraph.closeInnermost = o.closeInnermost := by
  rcases o.endParagraph_cases with same | ⟨same, none, _⟩
  · rw [same]
  · rw [closeInnermost, none, same]

private theorem closeContainer_endParagraph (o : Outline) :
    o.endParagraph.closeContainer = o.closeContainer := by
  rw [closeContainer, closeInnermost_endParagraph, closeContainer]

private theorem openContainer_endParagraph (o : Outline) (start : ContainerStart) :
    o.endParagraph.openContainer start = o.openContainer start := by
  have closed := o.closeInnermost_endParagraph
  rcases o.endParagraph_cases with same | ⟨_, none, p, paragraph⟩
  · rw [same]
  · cases start <;> simp only [openContainer, none, paragraph, closed]

private theorem closeContainers_succ (o : Outline) (n : Nat) :
    o.closeContainers (n + 1) = (o.closeContainers n).closeContainer := by
  induction n generalizing o with
  | zero => rfl
  | succ n ih => exact ih o.closeContainer

variable (p : Outline) (lists : ListRun Passage)

/-- Adds finished lists to the innermost container. -/
def addLists : Outline :=
  lists.foldr (fun l o => o.add (.list l.1 l.2.reverse)) p

/-- Adds lists of which the last one is still open. -/
def holding (line : Nat) : Outline :=
  { p.addLists lists.tail with innermost := lists.head?.map fun l => .list l.1 l.2, line }

/-- Opens an item after lists, in the one that it goes on with. -/
def inItem (own : ListStyle) (line : Nat) : Outline :=
  { p.addLists (lists.listFor own).2 with
    containers := .item (lists.listFor own).1.1 (lists.listFor own).1.2 0 own.padding [] ::
      (p.addLists (lists.listFor own).2).containers
    innermost := none
    line }

private theorem addLists_widths : (p.addLists lists).containers.map OpenContainer.width? =
    p.containers.map OpenContainer.width? := by
  induction lists with
  | nil => rfl
  | cons l lists ih => rw [addLists, List.foldr_cons, add_widths]; exact ih

variable {p lists}

/-- The last list is finished like those before it. -/
theorem closeInnermost_holding (line : Nat) :
    (p.holding lists line).closeInnermost = { p.addLists lists with innermost := none, line } := by
  cases lists with
  | nil => rfl
  | cons l lists => exact add_with (p.addLists lists) (.list l.1 l.2.reverse) none line

/-- An item that comes next is opened in the list that it goes on with. -/
theorem openContainer_holding (own : ListStyle) (line : Nat) :
    (p.holding lists line).openContainer (.item own.marker 0 own.padding) =
      p.inItem lists own line := by
  have closed : (p.holding lists line).closeInnermost = _ := closeInnermost_holding line
  cases lists with
  | nil => rfl
  | cons l lists =>
    have last : (p.holding (l :: lists) line).innermost = some (.list l.1 l.2) := rfl
    simp only [openContainer, last, closed, inItem, ListRun.listFor]
    split <;> rfl

/-- Lists are added to the blocks of the innermost item. -/
theorem addLists_item {style : ListStyle} {items : List (Item Passage)} {indent padding : Nat}
    {blocks : List (Block Passage)} {containers : List OpenContainer}
    (item : p.containers = .item style items indent padding blocks :: containers) :
    p.addLists lists = { p with
      containers :=
        .item style items indent padding (lists.blocks.reverse ++ blocks) :: containers } := by
  induction lists with
  | nil =>
    rw [ListRun.blocks, List.map_nil, List.reverse_nil, List.reverse_nil, List.nil_append, ← item]
    rfl
  | cons l lists ih =>
    rw [addLists, List.foldr_cons]
    change (p.addLists lists).add _ = _
    rw [ih, ListRun.blocks_cons, List.reverse_append]
    rfl

private theorem addLists_top (none : p.containers = []) :
    p.addLists lists = { p with blocks := lists.blocks.reverse ++ p.blocks } := by
  induction lists with
  | nil => rfl
  | cons l lists ih =>
    rw [addLists, List.foldr_cons]
    change (p.addLists lists).add _ = _
    rw [ih, ListRun.blocks_cons, List.reverse_append]
    simp only [add, none]
    rfl

/-- An item that is closed has been added to the list that it goes on with. -/
theorem closeContainer_holding (own : ListStyle) (start line : Nat) (b : Block Passage)
    (inside : ListRun Passage) :
    (((p.inItem lists own start).add b).holding inside line).closeContainer =
      p.holding (lists.add own (.plain own.padding (b :: inside.blocks))) line := by
  have item : ((p.inItem lists own start).add b).containers =
      .item (lists.listFor own).1.1 (lists.listFor own).1.2 0 own.padding [b] ::
        (p.addLists (lists.listFor own).2).containers := rfl
  rw [closeContainer, closeInnermost_holding, addLists_item item]
  simp only [List.reverse_append, List.reverse_reverse, List.reverse_singleton,
    List.singleton_append]
  rfl

/-- What is inside the outer ones of the open items. Their widths are given innermost first, and so
are those of the items that are open inside them: with these closed, and the paragraph that may be
the innermost block, the outline is `p` with lists. -/
structure ComesTo (o : Outline) (inner outer : List Nat) (p : Outline) (lists : ListRun Passage) :
    Prop where
  widths : o.containers.map OpenContainer.width? = (inner ++ outer).map some
  positive : ∀ w ∈ inner, 0 < w
  text : ∀ b ∈ o.innermost, ∃ q, b = .paragraph q
  outerWidths : p.containers.map OpenContainer.width? = outer.map some
  held : ∀ line, (({ o with line } : Outline).closeContainers inner.length).endParagraph =
    p.holding lists line

namespace ComesTo

variable {o : Outline} {inner outer : List Nat}

theorem empty : Outline.empty.ComesTo [] [] .empty [] where
  widths := rfl
  positive _ member := absurd member List.not_mem_nil
  text _ member := absurd member (Option.not_mem_none _)
  outerWidths := rfl
  held _ := rfl

/-- The widths inside an item that has been opened. -/
theorem inItem_widths (outside : p.containers.map OpenContainer.width? = outer.map some)
    (own : ListStyle) (line : Nat) : (p.inItem lists own line).containers.map OpenContainer.width? =
      (own.padding :: outer).map some := by
  rw [inItem, List.map_cons, addLists_widths, outside, OpenContainer.width?, Nat.zero_add,
    List.map_cons]

/-- An open paragraph is the only block that a line inside its item comes after. -/
theorem ofParagraph {item : Outline} {q : OpenParagraph} {widths : List Nat}
    (same : item.containers.map OpenContainer.width? = widths.map some)
    (noDefinition : LinkDefinition.readAll item.links q.text = (item.links, q.text))
    (nonempty : q.text ≠ []) :
    ({ item with innermost := some (.paragraph q) } : Outline).ComesTo [] widths
      (item.add (.paragraph (q.passage q.text))) [] where
  widths := same
  positive _ member := absurd member List.not_mem_nil
  text b found := ⟨q, (Option.some.inj found).symm⟩
  outerWidths := (add_widths ..).trans same
  held line := by
    have closed := closeParagraph_of_noDefinition (o := { item with innermost := none, line })
      noDefinition nonempty
    exact closed.trans (add_with item _ none line)

/-- A line with a marker adds an item after the lists, in which its text is a paragraph. -/
theorem readLine_marked (comes : o.ComesTo inner outer p lists) (m : ItemMarker) {l : Text}
    (inert : IsInert l) (nonempty : l ≠ [])
    (noDefinition : ∀ links, LinkDefinition.readAll links (l ++ ['\n']) = (links, l ++ ['\n']))
    (allowed : inner = [] → o.innermost.isSome → m.endsParagraph = true) :
    ∃ line, ∃ b : Passage, b.text = l ++ ['\n'] ∧
      (o.readLine (List.replicate outer.sum ' ' ++ m.line l)).ComesTo [] (m.width :: outer)
        ((p.inItem lists m.style line).add (.paragraph b)) [] := by
  let q : OpenParagraph :=
    ⟨o.line + 1, outer.sum + m.width + 1, [outer.sum + m.width], [l], false⟩
  have source : q.text = l ++ ['\n'] := rawLines_cons l []
  have opened : (p.holding lists (o.line + 1)).openContainer (.item m.mark 0 m.width) =
      p.inItem lists m.style (o.line + 1) := openContainer_holding m.style _
  have read : o.readLine (List.replicate outer.sum ' ' ++ m.line l) =
      { p.inItem lists m.style (o.line + 1) with innermost := some (.paragraph q) } := by
    rw [Outline.readLine_marked inert nonempty comes.positive comes.widths comes.text allowed]
    simp only [openStarts, List.foldl_cons, List.foldl_nil]
    rw [← openContainer_endParagraph, comes.held, opened]
    exact openParagraph_eq (c := ⟨l, _, _, false⟩) inert nonempty rfl _
  refine ⟨o.line + 1, q.passage q.text, source, ?_⟩
  rw [read]
  refine ofParagraph (inItem_widths comes.outerWidths m.style (o.line + 1)) ?_ ?_ <;> rw [source]
  · exact noDefinition _
  · exact List.append_ne_nil_of_left_ne_nil nonempty _

/-- Inside the items around it, an item that is left has been added to the lists. -/
theorem leave {own : ListStyle} {start : Nat} {b : Passage} {inside : ListRun Passage}
    (comes : o.ComesTo inner (own.padding :: outer) ((p.inItem lists own start).add (.paragraph b))
      inside) (wide : 0 < own.padding)
    (outside : p.containers.map OpenContainer.width? = outer.map some) :
    o.ComesTo (inner ++ [own.padding]) outer p
      (lists.add own (.plain own.padding (.paragraph b :: inside.blocks))) where
  widths := by rw [comes.widths, List.append_assoc, List.singleton_append]
  positive := List.forall_mem_append.mpr ⟨comes.positive, List.forall_mem_singleton.mpr wide⟩
  text := comes.text
  outerWidths := outside
  held line := by
    rw [List.length_append, List.length_singleton, closeContainers_succ,
      ← closeContainer_endParagraph, comes.held, closeContainer_holding]
    rfl

/-- When all is closed, the lists are the blocks. -/
theorem finishBlocks_close (comes : o.ComesTo inner [] .empty lists) :
    finishBlocks o.close.links o.close.blocks.reverse = finishBlocks .empty lists.blocks := by
  have count : o.containers.length = inner.length := by
    simpa using congrArg List.length comes.widths
  have closed : o.close =
      { Outline.empty.addLists lists with innermost := none, line := o.line } := by
    rw [close, count, ← closeInnermost_endParagraph]
    exact (congrArg closeInnermost (comes.held o.line)).trans (closeInnermost_holding o.line)
  rw [closed, addLists_top rfl]
  simp only [List.reverse_append, List.reverse_reverse, Outline.empty, List.reverse_nil,
    List.nil_append]

end ComesTo

end Outline

end Chatdown.Markdown
