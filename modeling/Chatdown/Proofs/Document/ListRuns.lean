import Chatdown.Document

/-! # Lists one after another

Lists that stand next to each other grow at their end: an item goes on with the last of them if it
has the same mark, and else it is the first of a list of its own, to which it gives its width.
-/

namespace Chatdown

/-- The style of the list that an item belongs to after another list. -/
def ListStyle.after (own : ListStyle) : Option ListStyle → ListStyle
  | none => own
  | some style => if own.marker = style.marker then style else own

theorem ListStyle.marker_after (own : ListStyle) (list : Option ListStyle) :
    (own.after list).marker = own.marker := by
  cases list with
  | none => rfl
  | some style =>
    rw [after]
    split
    · rename_i same
      exact same.symm
    · rfl

/-- Lists next to each other, the last first, each with its items backwards. -/
abbrev ListRun (α : Type) : Type := List (ListStyle × List (Item α))

namespace ListRun

variable {α : Type}

def blocks (lists : ListRun α) : List (Block α) :=
  (lists.map fun l => .list l.1 l.2.reverse).reverse

theorem blocks_cons (l : ListStyle × List (Item α)) (lists : ListRun α) :
    blocks (l :: lists) = blocks lists ++ [.list l.1 l.2.reverse] := List.reverse_cons

/-- The list that an item goes on with, which is empty if the item is its first, and the lists
before that. The item would be the first of a list of the given style. -/
def listFor (own : ListStyle) : ListRun α → (ListStyle × List (Item α)) × ListRun α
  | [] => ((own, []), [])
  | l :: lists => if own.marker = l.1.marker then (l, lists) else ((own, []), l :: lists)

def add (own : ListStyle) (i : Item α) (lists : ListRun α) : ListRun α :=
  ((lists.listFor own).1.1, i :: (lists.listFor own).1.2) :: (lists.listFor own).2

theorem add_of_marker_eq {own style : ListStyle} (same : own.marker = style.marker) (i : Item α)
    (items : List (Item α)) (lists : ListRun α) :
    add own i ((style, items) :: lists) = (style, i :: items) :: lists := by
  rw [add, listFor, if_pos same]

/-- What holds of all items holds with one more. -/
theorem forall_add {P : Item α → Prop} {i : Item α} {lists : ListRun α} (own : ListStyle)
    (added : P i) (each : ∀ l ∈ lists, ∀ j ∈ l.2, P j) : ∀ l ∈ lists.add own i, ∀ j ∈ l.2, P j := by
  have found : (∀ j ∈ (lists.listFor own).1.2, P j) ∧
      ∀ l ∈ (lists.listFor own).2, ∀ j ∈ l.2, P j := by
    cases lists with
    | nil => exact ⟨List.forall_mem_nil _, List.forall_mem_nil _⟩
    | cons l lists =>
      rw [listFor]
      split
      · exact List.forall_mem_cons.mp each
      · exact ⟨List.forall_mem_nil _, each⟩
  exact List.forall_mem_cons.mpr ⟨List.forall_mem_cons.mpr ⟨added, found.1⟩, found.2⟩

def style? (lists : ListRun α) : Option ListStyle := lists.head?.map Prod.fst

theorem listFor_style (own : ListStyle) (lists : ListRun α) :
    (lists.listFor own).1.1 = own.after lists.style? := by
  cases lists with
  | nil => rfl
  | cons l lists =>
    rw [listFor, style?, List.head?_cons, Option.map_some, ListStyle.after]
    split <;> rfl

theorem style?_add (own : ListStyle) (i : Item α) (lists : ListRun α) :
    (lists.add own i).style? = some (own.after lists.style?) :=
  congrArg some (listFor_style own lists)

def mapItems {β : Type} (f : Item α → Item β) (lists : ListRun α) : ListRun β :=
  lists.map fun l => (l.1, l.2.map f)

variable {β : Type} (f : Item α → Item β)

private theorem listFor_mapItems (own : ListStyle) (lists : ListRun α) :
    (lists.mapItems f).listFor own =
      (((lists.listFor own).1.1, (lists.listFor own).1.2.map f),
        (lists.listFor own).2.mapItems f) := by
  cases lists with
  | nil => rfl
  | cons l lists =>
    simp only [mapItems, List.map_cons, listFor]
    split <;> rfl

theorem add_mapItems (own : ListStyle) (i : Item α) (lists : ListRun α) :
    (lists.add own i).mapItems f = (lists.mapItems f).add own (f i) := by
  rw [add, add, listFor_mapItems]
  rfl

end ListRun

end Chatdown
