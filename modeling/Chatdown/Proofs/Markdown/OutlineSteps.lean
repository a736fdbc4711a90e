import Chatdown.Markdown

/-! # How an outline comes about

Whatever a line does to an outline is one of a few things, done one after another: lists begin in
one place only, where an item is opened, and they grow in one place only, where an item is closed.
What holds of the empty outline and is kept by each of these steps holds of all outlines that are
read, and there is no need to go through the kinds of lines again.
-/

namespace Chatdown.Markdown

/-- The characters that mark items: bullets, and what follows a number. -/
def listMarkers : List Char := ['*', '-', '+', '.', ')']

private theorem marker?_mem {inParagraph : Bool} {body : Text} {marker : Char} {size : Nat}
    (found : ContainerStart.marker? inParagraph body = some (marker, size)) :
    marker ∈ listMarkers := by
  simp only [ContainerStart.marker?] at found
  split at found
  · cases found
  · rename_i c rest _
    simp only [Option.ite_none_right_eq_some, Bool.and_eq_true] at found
    obtain ⟨⟨⟨⟨isMarker, _⟩, _⟩, _⟩, same⟩ := found
    cases same
    split at isMarker <;> simp only [Bool.or_eq_true, decide_eq_true_eq] at isMarker
    · rcases isMarker with (rfl | rfl) | rfl <;> decide
    · rcases isMarker with rfl | rfl <;> decide

/-- A container whose marker, if it has one, is one of the five. -/
def ContainerStart.IsMarked : ContainerStart → Prop
  | .quote => True
  | .item marker _ _ => marker ∈ listMarkers

private theorem item?_isMarked {inParagraph : Bool} {c inside : Cursor} {start : ContainerStart}
    (found : ContainerStart.item? inParagraph c = some (start, inside)) : start.IsMarked := by
  simp only [ContainerStart.item?] at found
  split at found
  · rename_i marker size known
    cases found
    exact marker?_mem known
  · cases found

private theorem read_isMarked (limit depth : Nat) (inParagraph lazy : Bool) (c : Cursor) :
    ∀ start ∈ (BlockStarts.read limit depth inParagraph lazy c).containers, start.IsMarked := by
  induction limit generalizing depth inParagraph lazy c with
  | zero => simp [BlockStarts.read]
  | succ limit ih =>
    simp only [BlockStarts.read]
    split
    · split <;> simp
    · split
      · intro start member
        rcases List.mem_cons.mp member with rfl | member
        · trivial
        · exact ih _ _ _ _ start member
      · split
        · simp
        · split
          · rename_i first inside found
            intro start member
            rcases List.mem_cons.mp member with rfl | member
            · split at found
              · exact item?_isMarked found
              · cases found
            · exact ih _ _ _ _ start member
          · simp

def isLeaf : Block Passage → Bool
  | .quote _ => false
  | .list _ _ => false
  | _ => true

/-- Tests for a list between its items. -/
def OpenBlock.isList : OpenBlock → Bool
  | .list _ _ => true
  | _ => false

namespace Outline

/-- The outlines that come about when lines are read, one step at a time. -/
inductive Reachable : Outline → Prop where
  | empty : Reachable Outline.empty
  /-- Lines are counted, link definitions are added, and open blocks that are no lists change. -/
  | keep {o o' : Outline} (reachable : Reachable o) (blocks : o'.blocks = o.blocks)
      (containers : o'.containers = o.containers)
      (innermost : o'.innermost = o.innermost ∨ ∀ b ∈ o'.innermost, b.isList = false) :
      Reachable o'
  | addLeaf {o : Outline} {b : Block Passage} (reachable : Reachable o) (leaf : isLeaf b = true) :
      Reachable (o.add b)
  | closeList {o : Outline} {style : ListStyle} {items : List (Item Passage)}
      (reachable : Reachable o) (innermost : o.innermost = some (.list style items)) :
      Reachable ({ o with innermost := none }.add (.list style items.reverse))
  | closeQuote {o : Outline} {blocks : List (Block Passage)} {containers : List OpenContainer}
      (reachable : Reachable o) (container : o.containers = .quote blocks :: containers) :
      Reachable ({ o with containers }.add (.quote blocks.reverse))
  | closeItem {o : Outline} {style : ListStyle} {items : List (Item Passage)}
      {indent padding : Nat} {blocks : List (Block Passage)} {containers : List OpenContainer}
      (reachable : Reachable o)
      (container : o.containers = .item style items indent padding blocks :: containers) :
      Reachable { o with
        containers, innermost := some (.list style (.plain padding blocks.reverse :: items)) }
  | openQuote {o : Outline} (reachable : Reachable o) :
      Reachable { o with containers := .quote [] :: o.containers }
  | openItem {o : Outline} {marker : Char} (reachable : Reachable o)
      (known : marker ∈ listMarkers) (indent padding : Nat) :
      Reachable { o with
        containers := .item ⟨marker, padding⟩ [] indent padding [] :: o.containers }
  | nextItem {o : Outline} {style : ListStyle} {items : List (Item Passage)}
      (reachable : Reachable o) (innermost : o.innermost = some (.list style items))
      (indent padding : Nat) :
      Reachable { o with
        innermost := none, containers := .item style items indent padding [] :: o.containers }

namespace Reachable

variable {o : Outline}

private theorem withInnermost (reachable : o.Reachable) {b : OpenBlock} (other : b.isList = false) :
    Reachable { o with innermost := some b } :=
  reachable.keep rfl rfl (.inr (by simpa using other))

private theorem withoutInnermost (reachable : o.Reachable) :
    Reachable { o with innermost := none } :=
  reachable.keep rfl rfl (.inr (by simp))

private theorem withLinks (reachable : o.Reachable) (links : LinkTable) :
    Reachable { o with links } :=
  reachable.keep rfl rfl (.inl rfl)

private theorem withLine (reachable : o.Reachable) (line : Nat) : Reachable { o with line } :=
  reachable.keep rfl rfl (.inl rfl)

theorem closeParagraph (reachable : o.Reachable) (p : OpenParagraph) :
    (o.closeParagraph p).Reachable := by
  unfold Outline.closeParagraph
  simp only
  split
  · exact reachable.withLinks _
  · exact (reachable.withLinks _).addLeaf rfl

theorem closeInnermost (reachable : o.Reachable) : o.closeInnermost.Reachable := by
  have rest := reachable.withoutInnermost
  unfold Outline.closeInnermost
  simp only
  split
  · exact reachable
  · exact rest.closeParagraph _
  · exact rest.addLeaf rfl
  · exact rest.addLeaf rfl
  · exact rest.addLeaf rfl
  · exact rest.addLeaf rfl
  · rename_i innermost
    exact reachable.closeList innermost

theorem closeContainer (reachable : o.Reachable) : o.closeContainer.Reachable := by
  have closed := reachable.closeInnermost
  unfold Outline.closeContainer
  simp only
  split
  · exact closed
  · rename_i container
    exact closed.closeQuote container
  · rename_i container
    exact closed.closeItem container

theorem closeContainers (reachable : o.Reachable) (n : Nat) : (o.closeContainers n).Reachable := by
  induction n generalizing o with
  | zero => exact reachable
  | succ n ih => exact ih reachable.closeContainer

theorem openContainer (reachable : o.Reachable) {start : ContainerStart} (known : start.IsMarked) :
    (o.openContainer start).Reachable := by
  have closed := reachable.closeInnermost
  unfold Outline.openContainer
  split
  · rename_i innermost
    split
    · exact reachable.nextItem innermost _ _
    · exact closed.openItem known _ _
  · exact closed.openItem known _ _
  · exact closed.openQuote

private theorem openContainers (reachable : o.Reachable) {starts : List ContainerStart}
    (known : ∀ start ∈ starts, start.IsMarked) :
    (starts.foldl Outline.openContainer o).Reachable := by
  induction starts generalizing o with
  | nil => exact reachable
  | cons start starts ih =>
    rw [List.forall_mem_cons] at known
    exact ih (reachable.openContainer known.1) known.2

theorem addHtmlLine (reachable : o.Reachable) (kind : HtmlBlock) (lines : List Text) (c : Cursor) :
    (o.addHtmlLine kind lines c).Reachable := by
  have added := reachable.withInnermost (b := .html kind (c.remainder :: lines)) rfl
  unfold Outline.addHtmlLine
  simp only
  split
  · exact added.closeInnermost
  · exact added

theorem openLeaf (reachable : o.Reachable) (start : LeafStart) (c : Cursor) :
    (o.openLeaf start c).Reachable := by
  have closed := reachable.closeInnermost
  unfold Outline.openLeaf
  cases start with
  | heading level => exact closed.addLeaf rfl
  | fence mark length indent => exact closed.withInnermost rfl
  | html kind => exact closed.addHtmlLine kind [] c
  | thematicBreak => exact closed.addLeaf rfl
  | indentedCode => exact closed.withInnermost rfl

theorem underline (reachable : o.Reachable) (p : OpenParagraph) (level : Nat) (c : Cursor) :
    (o.underline p level c).Reachable := by
  have linked := reachable.withLinks (LinkDefinition.readAll o.links p.text).1
  unfold Outline.underline
  simp only
  split
  · exact linked.withInnermost rfl
  · exact linked.withoutInnermost.addLeaf rfl

theorem openParagraph (reachable : o.Reachable) (c : Cursor) : (o.openParagraph c).Reachable := by
  unfold Outline.openParagraph
  split
  · exact reachable
  · exact reachable.closeInnermost.withInnermost rfl

theorem openTable? (reachable : o.Reachable) {p : OpenParagraph} {columns : Nat} {opened : Outline}
    (success : o.openTable? p columns = some opened) : opened.Reachable := by
  unfold Outline.openTable? at success
  split at success
  · cases success
  · simp only [Option.ite_none_right_eq_some, Option.some.injEq] at success
    obtain ⟨_, rfl⟩ := success
    split
    · exact reachable.withoutInnermost.withInnermost rfl
    · exact (reachable.withoutInnermost.addLeaf rfl).withInnermost rfl

theorem addToParagraph (reachable : o.Reachable) (p : OpenParagraph) (c : Cursor) :
    (o.addToParagraph p c).Reachable := by
  unfold Outline.addToParagraph
  simp only
  split
  · exact reachable.withInnermost rfl
  · split
    · rename_i opened success
      exact reachable.openTable? success
    · exact reachable.withInnermost rfl

theorem openStarts (reachable : o.Reachable) {starts : BlockStarts}
    (known : ∀ start ∈ starts.containers, start.IsMarked) : (o.openStarts starts).Reachable := by
  have opened := reachable.openContainers known
  unfold Outline.openStarts
  simp only
  split
  · exact opened.openLeaf _ _
  · exact opened.openParagraph _

theorem readInside (reachable : o.Reachable) (c : Cursor) : (o.readInside c).Reachable := by
  have starts := fun inParagraph isLazy =>
    reachable.openStarts (read_isMarked c.rest.length 0 inParagraph isLazy c)
  unfold Outline.readInside
  simp only
  split
  · exact starts _ _
  · split
    · exact reachable.closeInnermost
    · exact reachable.withInnermost rfl
  · split
    · exact reachable.withInnermost rfl
    · split
      · exact reachable.withInnermost rfl
      · exact starts _ _
  · split
    · exact reachable.closeInnermost
    · exact reachable.addHtmlLine _ _ c
  · split
    · exact reachable.closeInnermost.openStarts (read_isMarked _ _ _ _ _)
    · split
      · exact reachable.withInnermost rfl
      · exact starts _ _
  · exact starts _ _
  · split
    · exact reachable.closeInnermost
    · split
      · exact reachable.underline _ _ c
      · split
        · exact reachable.addToParagraph _ c
        · exact starts _ _

theorem readOutside (reachable : o.Reachable) (unreached : Nat) (c : Cursor) :
    (o.readOutside unreached c).Reachable := by
  unfold Outline.readOutside
  split
  · simp only
    split
    · exact reachable.withInnermost rfl
    · exact (reachable.closeContainers unreached).openStarts (read_isMarked _ _ _ _ _)
  · exact (reachable.closeContainers unreached).openStarts (read_isMarked _ _ _ _ _)

theorem readLine (reachable : o.Reachable) (line : Text) : (o.readLine line).Reachable := by
  unfold Outline.readLine
  generalize (if o.line = 0 then Cursor.atFirstStart line else Cursor.atStart line) = start
  simp only
  split
  · exact (reachable.withLine _).readInside _
  · exact (reachable.withLine _).readOutside _ _

/-- All outlines that are read come about in these steps. -/
theorem ofLines (lines : List Text) : (Outline.ofLines lines).Reachable := by
  have read : ∀ o : Outline, o.Reachable → (lines.foldl Outline.readLine o).Reachable := by
    induction lines with
    | nil => exact fun _ reachable => reachable
    | cons line lines ih => exact fun o reachable => ih _ (reachable.readLine line)
  exact ((read _ .empty).closeContainers _).closeInnermost

end Reachable

end Outline

end Chatdown.Markdown
