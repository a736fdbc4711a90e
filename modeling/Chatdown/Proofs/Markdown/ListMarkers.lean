import Chatdown.Proofs.Document.ListStyles
import Chatdown.Proofs.Markdown.OutlineSteps
import Chatdown.Proofs.Markup.Escape

/-! # Markers of the lists that are read

Every list of a document that has been read has one of five markers. Only where an item is opened
can a list get its style; all other steps of reading move lists or take over their style. That is an
invariant of outlines, kept by every step.
-/

namespace Chatdown.Markdown

/-- Markers have no meaning in markup. -/
theorem isSpecial_of_listMarker {c : Char} (marker : c ∈ listMarkers) :
    Markup.isSpecial c = false := by
  simp only [listMarkers, List.mem_cons, List.not_mem_nil, or_false] at marker
  rcases marker with rfl | rfl | rfl | rfl | rfl <;> decide

/-- The styles of the lists in an open container, and of the list that it belongs to. -/
def OpenContainer.styles : OpenContainer → List ListStyle
  | .quote blocks => ListStyle.inBlocks blocks
  | .item style items _ _ blocks =>
    style :: (ListStyle.inItems items ++ ListStyle.inBlocks blocks)

def OpenBlock.styles : OpenBlock → List ListStyle
  | .list style items => style :: ListStyle.inItems items
  | _ => []

theorem OpenBlock.styles_of_isList {b : OpenBlock} (other : b.isList = false) : b.styles = [] := by
  cases b <;> first | rfl | cases other

private theorem inBlock_of_isLeaf {b : Block Passage} (leaf : isLeaf b = true) :
    ListStyle.inBlock b = [] := by
  cases b <;> first | rfl | cases leaf

namespace Outline

/-- The lists of an outline, finished or open, have markers of the five. -/
structure IsMarked (o : Outline) : Prop where
  blocks : ∀ s ∈ ListStyle.inBlocks o.blocks, s.marker ∈ listMarkers
  containers : ∀ c ∈ o.containers, ∀ s ∈ c.styles, s.marker ∈ listMarkers
  innermost : ∀ b ∈ o.innermost, ∀ s ∈ b.styles, s.marker ∈ listMarkers

namespace IsMarked

variable {o : Outline}

theorem add (marked : o.IsMarked) {b : Block Passage}
    (block : ∀ s ∈ ListStyle.inBlock b, s.marker ∈ listMarkers) : (o.add b).IsMarked := by
  have cs := marked.containers
  unfold Outline.add
  split
  · refine ⟨?_, marked.containers, marked.innermost⟩
    simpa [ListStyle.inBlocks, or_imp, forall_and] using ⟨block, marked.blocks⟩
  · rename_i blocks rest same
    rw [same] at cs
    refine ⟨marked.blocks, ?_, marked.innermost⟩
    simp only [List.forall_mem_cons, OpenContainer.styles, ListStyle.inBlocks,
      List.forall_mem_append] at cs ⊢
    exact ⟨⟨block, cs.1⟩, cs.2⟩
  · rename_i style items indent padding blocks rest same
    rw [same] at cs
    refine ⟨marked.blocks, ?_, marked.innermost⟩
    simp only [List.forall_mem_cons, OpenContainer.styles, ListStyle.inBlocks,
      List.forall_mem_append] at cs ⊢
    exact ⟨⟨cs.1.1, cs.1.2.1, block, cs.1.2.2⟩, cs.2⟩

end IsMarked

/-- Every step keeps the markers. -/
theorem Reachable.isMarked {o : Outline} (reachable : o.Reachable) : o.IsMarked := by
  induction reachable with
  | empty =>
    exact ⟨by simp [Outline.empty, ListStyle.inBlocks], by simp [Outline.empty],
      by simp [Outline.empty]⟩
  | keep _ blocks containers innermost marked =>
    refine ⟨by rw [blocks]; exact marked.blocks, by rw [containers]; exact marked.containers, ?_⟩
    rcases innermost with same | other
    · rw [same]
      exact marked.innermost
    · intro b held
      simp [OpenBlock.styles_of_isList (other b held)]
  | addLeaf _ leaf marked => exact marked.add (by simp [inBlock_of_isLeaf leaf])
  | @closeList o _ _ _ innermost marked =>
    have rest : IsMarked { o with innermost := none } :=
      ⟨marked.blocks, marked.containers, by simp⟩
    apply rest.add
    have list := marked.innermost _ innermost
    simp only [OpenBlock.styles, List.forall_mem_cons] at list
    simp only [ListStyle.inBlock, List.forall_mem_cons, ListStyle.mem_inItems, List.mem_reverse]
    simpa only [ListStyle.mem_inItems] using list
  | @closeQuote o _ containers _ container marked =>
    have cs := marked.containers
    rw [container] at cs
    simp only [List.forall_mem_cons, OpenContainer.styles] at cs
    have outside : IsMarked { o with containers } := ⟨marked.blocks, cs.2, marked.innermost⟩
    apply outside.add
    simpa only [ListStyle.inBlock, ListStyle.mem_inBlocks, List.mem_reverse] using cs.1
  | closeItem _ container marked =>
    have cs := marked.containers
    rw [container] at cs
    simp only [List.forall_mem_cons, OpenContainer.styles, List.forall_mem_append] at cs
    refine ⟨marked.blocks, cs.2, ?_⟩
    simp only [Option.mem_some_iff, forall_eq', OpenBlock.styles, ListStyle.inItems,
      ListStyle.inItem, List.forall_mem_cons, List.forall_mem_append]
    refine ⟨cs.1.1, ?_, cs.1.2.1⟩
    simpa only [ListStyle.mem_inBlocks, List.mem_reverse] using cs.1.2.2
  | openQuote _ marked =>
    refine ⟨marked.blocks, ?_, marked.innermost⟩
    simpa [OpenContainer.styles, ListStyle.inBlocks] using marked.containers
  | openItem _ known indent padding marked =>
    refine ⟨marked.blocks, ?_, marked.innermost⟩
    simpa [OpenContainer.styles, ListStyle.inBlocks, ListStyle.inItems]
      using ⟨known, marked.containers⟩
  | nextItem _ innermost indent padding marked =>
    refine ⟨marked.blocks, ?_, by simp⟩
    have list := marked.innermost _ innermost
    simp only [OpenBlock.styles, List.forall_mem_cons] at list
    simp only [List.forall_mem_cons, OpenContainer.styles, ListStyle.inBlocks, List.append_nil]
    exact ⟨list, marked.containers⟩

end Outline

mutual

/-- Reading inline content leaves the lists of a block as they are. -/
theorem inBlock_finishBlock (links : LinkTable) :
    ∀ b : Block Passage, ListStyle.inBlock (finishBlock links b) = ListStyle.inBlock b
  | .paragraph _ => rfl
  | .heading _ _ => rfl
  | .code _ => rfl
  | .html _ => rfl
  | .thematicBreak => rfl
  | .quote blocks => inBlocks_finishBlocks links blocks
  | .list style items => congrArg (style :: ·) (inItems_finishItems links items)
  | .table _ => rfl

private theorem inBlocks_finishBlocks (links : LinkTable) :
    ∀ bs : List (Block Passage),
      ListStyle.inBlocks (finishBlocks links bs) = ListStyle.inBlocks bs
  | [] => rfl
  | b :: bs => by
    rw [finishBlocks, ListStyle.inBlocks, ListStyle.inBlocks, inBlock_finishBlock links b,
      inBlocks_finishBlocks links bs]

private theorem inItem_finishItem (links : LinkTable) :
    ∀ i : Item Passage, ListStyle.inItem (finishItem links i) = ListStyle.inItem i
  | .task blocks => inBlocks_finishBlocks links blocks
  | .plain padding blocks => by
    have inside := inBlocks_finishBlocks links blocks
    unfold finishItem
    split
    · split <;> exact inside
    · exact inside

private theorem inItems_finishItems (links : LinkTable) :
    ∀ is : List (Item Passage), ListStyle.inItems (finishItems links is) = ListStyle.inItems is
  | [] => rfl
  | i :: is => by
    rw [finishItems, ListStyle.inItems, ListStyle.inItems, inItem_finishItem links i,
      inItems_finishItems links is]

end

/-- All lists of a document that has been read have markers of the five. -/
theorem read_listMarkers (source : Text) :
    ∀ s ∈ ListStyle.inBlocks (read source), s.marker ∈ listMarkers := by
  have marked := (Outline.Reachable.ofLines (Line.split source)).isMarked
  rw [read, inBlocks_finishBlocks]
  simpa only [ListStyle.mem_inBlocks, List.mem_reverse] using marked.blocks

end Chatdown.Markdown
