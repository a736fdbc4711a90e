import Chatdown.Document

/-! # The lists of a document

What all lists of a tree have in common, at whatever depth they stand, is said of the styles of
these lists.
-/

namespace Chatdown.ListStyle

variable {α : Type}

mutual

def inBlock : Block α → List ListStyle
  | .paragraph _ => []
  | .heading _ _ => []
  | .code _ => []
  | .html _ => []
  | .thematicBreak => []
  | .quote blocks => inBlocks blocks
  | .list style items => style :: inItems items
  | .table _ => []

def inBlocks : List (Block α) → List ListStyle
  | [] => []
  | b :: bs => inBlock b ++ inBlocks bs

def inItem : Item α → List ListStyle
  | .plain _ blocks => inBlocks blocks
  | .task blocks => inBlocks blocks

def inItems : List (Item α) → List ListStyle
  | [] => []
  | i :: is => inItem i ++ inItems is

end

theorem mem_inBlocks {s : ListStyle} {bs : List (Block α)} :
    s ∈ inBlocks bs ↔ ∃ b ∈ bs, s ∈ inBlock b := by
  induction bs with
  | nil => simp [inBlocks]
  | cons b bs ih => simp [inBlocks, ih]

theorem mem_inItems {s : ListStyle} {is : List (Item α)} :
    s ∈ inItems is ↔ ∃ i ∈ is, s ∈ inItem i := by
  induction is with
  | nil => simp [inItems]
  | cons i is ih => simp [inItems, ih]

theorem inItem_eq (i : Item α) : inItem i = inBlocks i.blocks := by
  cases i <;> rfl

/-- What holds of all lists among blocks holds of each and of those inside it. -/
theorem forall_of_list {P : ListStyle → Prop} {bs : List (Block α)} {style : ListStyle}
    {items : List (Item α)} (all : ∀ s ∈ inBlocks bs, P s) (list : .list style items ∈ bs) :
    P style ∧ ∀ i ∈ items, ∀ s ∈ inItem i, P s := by
  have within : ∀ s ∈ inBlock (.list style items), P s :=
    fun s member => all s (mem_inBlocks.mpr ⟨_, list, member⟩)
  rw [inBlock, List.forall_mem_cons] at within
  exact ⟨within.1, fun i mem s member => within.2 s (mem_inItems.mpr ⟨i, mem, member⟩)⟩

end Chatdown.ListStyle
