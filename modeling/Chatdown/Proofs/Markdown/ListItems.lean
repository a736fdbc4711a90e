import Chatdown.Proofs.Document.ListItems
import Chatdown.Proofs.Markdown.OutlineSteps

/-! # Lists that are read have items

No list of a document that has been read is empty: a list is open only while an item of it is, or
between items of which one has been closed. That is an invariant of outlines, kept by every step.
-/

namespace Chatdown.Markdown

/-- The items of the lists in an open container, and of those in earlier items of its list. -/
def OpenContainer.listItems : OpenContainer → List (List (Item Passage))
  | .quote blocks => ListItems.inBlocks blocks
  | .item _ items _ _ blocks => ListItems.inItems items ++ ListItems.inBlocks blocks

def OpenBlock.listItems : OpenBlock → List (List (Item Passage))
  | .list _ items => items :: ListItems.inItems items
  | _ => []

theorem OpenBlock.listItems_of_isList {b : OpenBlock} (other : b.isList = false) :
    b.listItems = [] := by
  cases b <;> first | rfl | cases other

private theorem listItems_of_isLeaf {b : Block Passage} (leaf : isLeaf b = true) :
    ListItems.inBlock b = [] := by
  cases b <;> first | rfl | cases leaf

namespace Outline

/-- The lists of an outline, finished or between their items, have items. -/
structure HasItems (o : Outline) : Prop where
  blocks : ∀ items ∈ ListItems.inBlocks o.blocks, items ≠ []
  containers : ∀ c ∈ o.containers, ∀ items ∈ c.listItems, items ≠ []
  innermost : ∀ b ∈ o.innermost, ∀ items ∈ b.listItems, items ≠ []

theorem HasItems.add {o : Outline} (filled : o.HasItems) {b : Block Passage}
    (block : ∀ items ∈ ListItems.inBlock b, items ≠ []) : (o.add b).HasItems := by
  have cs := filled.containers
  unfold Outline.add
  split
  · refine ⟨?_, filled.containers, filled.innermost⟩
    rw [ListItems.inBlocks, List.forall_mem_append]
    exact ⟨block, filled.blocks⟩
  · rename_i blocks rest same
    rw [same, List.forall_mem_cons] at cs
    refine ⟨filled.blocks, ?_, filled.innermost⟩
    rw [List.forall_mem_cons, OpenContainer.listItems, ListItems.inBlocks, List.forall_mem_append]
    exact ⟨⟨block, cs.1⟩, cs.2⟩
  · rename_i style items indent padding blocks rest same
    rw [same, List.forall_mem_cons, OpenContainer.listItems, List.forall_mem_append] at cs
    refine ⟨filled.blocks, ?_, filled.innermost⟩
    rw [List.forall_mem_cons, OpenContainer.listItems, ListItems.inBlocks, List.forall_mem_append,
      List.forall_mem_append]
    exact ⟨⟨cs.1.1, block, cs.1.2⟩, cs.2⟩

/-- Every step keeps lists from being empty. -/
theorem Reachable.hasItems {o : Outline} (reachable : o.Reachable) : o.HasItems := by
  induction reachable with
  | empty =>
    exact ⟨by simp [Outline.empty, ListItems.inBlocks], by simp [Outline.empty],
      by simp [Outline.empty]⟩
  | keep _ blocks containers innermost filled =>
    refine ⟨by rw [blocks]; exact filled.blocks, by rw [containers]; exact filled.containers, ?_⟩
    rcases innermost with same | other
    · rw [same]
      exact filled.innermost
    · intro b held
      simp [OpenBlock.listItems_of_isList (other b held)]
  | addLeaf _ leaf filled => exact filled.add (by simp [listItems_of_isLeaf leaf])
  | @closeList o _ items _ innermost filled =>
    have rest : HasItems { o with innermost := none } :=
      ⟨filled.blocks, filled.containers, by simp⟩
    apply rest.add
    have list := filled.innermost _ innermost
    rw [OpenBlock.listItems, List.forall_mem_cons] at list
    rw [ListItems.inBlock, List.forall_mem_cons, ne_eq, List.reverse_eq_nil_iff]
    simpa only [ListItems.mem_inItems, List.mem_reverse] using list
  | @closeQuote o _ containers _ container filled =>
    have cs := filled.containers
    rw [container, List.forall_mem_cons, OpenContainer.listItems] at cs
    have outside : HasItems { o with containers } := ⟨filled.blocks, cs.2, filled.innermost⟩
    apply outside.add
    simpa only [ListItems.inBlock, ListItems.mem_inBlocks, List.mem_reverse] using cs.1
  | closeItem _ container filled =>
    have cs := filled.containers
    rw [container, List.forall_mem_cons, OpenContainer.listItems, List.forall_mem_append] at cs
    refine ⟨filled.blocks, cs.2, ?_⟩
    simp only [Option.mem_some_iff, forall_eq', OpenBlock.listItems, ListItems.inItems,
      ListItems.inItem, List.forall_mem_cons, List.forall_mem_append]
    refine ⟨List.cons_ne_nil _ _, ?_, cs.1.1⟩
    simpa only [ListItems.mem_inBlocks, List.mem_reverse] using cs.1.2
  | openQuote _ filled =>
    refine ⟨filled.blocks, ?_, filled.innermost⟩
    simpa [OpenContainer.listItems, ListItems.inBlocks] using filled.containers
  | openItem _ _ indent padding filled =>
    refine ⟨filled.blocks, ?_, filled.innermost⟩
    simpa [OpenContainer.listItems, ListItems.inBlocks, ListItems.inItems] using filled.containers
  | nextItem _ innermost indent padding filled =>
    have list := filled.innermost _ innermost
    rw [OpenBlock.listItems, List.forall_mem_cons] at list
    refine ⟨filled.blocks, ?_, by simp⟩
    rw [List.forall_mem_cons, OpenContainer.listItems, ListItems.inBlocks, List.append_nil]
    exact ⟨list.2, filled.containers⟩

end Outline

mutual

/-- Reading inline content leaves each item in its list. -/
theorem listItems_finishBlock (links : LinkTable) : ∀ b : Block Passage,
    ListItems.inBlock (finishBlock links b) = (ListItems.inBlock b).map (finishItems links)
  | .paragraph _ => rfl
  | .heading _ _ => rfl
  | .code _ => rfl
  | .html _ => rfl
  | .thematicBreak => rfl
  | .quote blocks => listItems_finishBlocks links blocks
  | .list _ items => congrArg (finishItems links items :: ·) (listItems_finishItems links items)
  | .table _ => rfl

private theorem listItems_finishBlocks (links : LinkTable) : ∀ bs : List (Block Passage),
    ListItems.inBlocks (finishBlocks links bs) = (ListItems.inBlocks bs).map (finishItems links)
  | [] => rfl
  | b :: bs => by
    rw [finishBlocks, ListItems.inBlocks, ListItems.inBlocks, List.map_append,
      listItems_finishBlock links b, listItems_finishBlocks links bs]

private theorem listItems_finishItem (links : LinkTable) : ∀ i : Item Passage,
    ListItems.inItem (finishItem links i) = (ListItems.inItem i).map (finishItems links)
  | .task blocks => listItems_finishBlocks links blocks
  | .plain padding blocks => by
    have inside := listItems_finishBlocks links blocks
    unfold finishItem
    split
    · split <;> exact inside
    · exact inside

private theorem listItems_finishItems (links : LinkTable) : ∀ is : List (Item Passage),
    ListItems.inItems (finishItems links is) = (ListItems.inItems is).map (finishItems links)
  | [] => rfl
  | i :: is => by
    rw [finishItems, ListItems.inItems, ListItems.inItems, List.map_append,
      listItems_finishItem links i, listItems_finishItems links is]

end

private theorem finishItems_ne_nil (links : LinkTable) {is : List (Item Passage)}
    (filled : is ≠ []) :
    finishItems links is ≠ [] := by
  cases is with
  | nil => contradiction
  | cons i is => exact List.cons_ne_nil _ _

/-- No list of a document that has been read is empty. -/
theorem read_listItems (source : Text) : ∀ items ∈ ListItems.inBlocks (read source), items ≠ [] := by
  have filled := (Outline.Reachable.ofLines (Line.split source)).hasItems
  rw [read, listItems_finishBlocks, List.forall_mem_map]
  intro items member
  apply finishItems_ne_nil
  simp only [ListItems.mem_inBlocks, List.mem_reverse] at member
  exact filled.blocks items (ListItems.mem_inBlocks.mpr member)

end Chatdown.Markdown
