import Chatdown.Document

/-! # The items of the lists of a document

Which lists there are in a tree, at whatever depth they stand, is said by giving the items of each.
-/

namespace Chatdown.ListItems

variable {α : Type}

mutual

def inBlock : Block α → List (List (Item α))
  | .paragraph _ => []
  | .heading _ _ => []
  | .code _ => []
  | .html _ => []
  | .thematicBreak => []
  | .quote blocks => inBlocks blocks
  | .list _ items => items :: inItems items
  | .table _ => []

def inBlocks : List (Block α) → List (List (Item α))
  | [] => []
  | b :: bs => inBlock b ++ inBlocks bs

def inItem : Item α → List (List (Item α))
  | .plain _ blocks => inBlocks blocks
  | .task blocks => inBlocks blocks

def inItems : List (Item α) → List (List (Item α))
  | [] => []
  | i :: is => inItem i ++ inItems is

end

variable {items : List (Item α)}

theorem mem_inBlocks {bs : List (Block α)} : items ∈ inBlocks bs ↔ ∃ b ∈ bs, items ∈ inBlock b := by
  induction bs with
  | nil => simp [inBlocks]
  | cons b bs ih => simp [inBlocks, ih]

theorem mem_inItems {is : List (Item α)} : items ∈ inItems is ↔ ∃ i ∈ is, items ∈ inItem i := by
  induction is with
  | nil => simp [inItems]
  | cons i is ih => simp [inItems, ih]

theorem inItem_eq (i : Item α) : inItem i = inBlocks i.blocks := by
  cases i <;> rfl

/-- What holds of all lists among blocks holds of each and of those inside it. -/
theorem forall_of_list {P : List (Item α) → Prop} {bs : List (Block α)} {style : ListStyle}
    (all : ∀ items ∈ inBlocks bs, P items) (list : .list style items ∈ bs) :
    P items ∧ ∀ i ∈ items, ∀ inside ∈ inItem i, P inside := by
  have within : ∀ inside ∈ inBlock (.list style items), P inside :=
    fun inside member => all inside (mem_inBlocks.mpr ⟨_, list, member⟩)
  rw [inBlock, List.forall_mem_cons] at within
  exact ⟨within.1, fun i mem inside member => within.2 inside (mem_inItems.mpr ⟨i, mem, member⟩)⟩

end Chatdown.ListItems
