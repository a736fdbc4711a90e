import Chatdown.Conversion
import Chatdown.Proofs.Text.Join

/-! # Flattened items

An item of a list at the top becomes one text, and the lists inside it become lines of that text.
`Flattening` says which text that is if each block of an item contributes itself, once and in its
place. What is written is that text, except that code and HTML show the whole item in their place:
the two are the same exactly where nothing that shows stands beside such a block, and else what is
written is longer.
-/

namespace Chatdown

namespace Flattening

section

variable (find? : Text → Option Manager) (source : Text)

mutual

/-- What a block contributes to the text of the item that it is in: code and HTML their literal, a
list its items on lines of their own, and other blocks what they are as running text. -/
def block (offset : Nat) : Block (List Inline) → Text
  | .code t => Rendering.literal find? t
  | .html t => Rendering.literal find? t
  | .list style items => ['\n'].intercalate (entries style offset items)
  | .paragraph content => Rendering.block find? source (.paragraph content)
  | .heading level content => Rendering.block find? source (.heading level content)
  | .thematicBreak => Rendering.block find? source .thematicBreak
  | .quote children => Rendering.block find? source (.quote children)
  | .table rows => Rendering.block find? source (.table rows)

/-- What the blocks of an item contribute to its text. -/
def blocks (offset : Nat) : List (Block (List Inline)) → List Text
  | [] => []
  | b :: bs => block offset b :: blocks offset bs

/-- The text of an item, of whose blocks the lists are moved in by the item's padding. -/
def item (style : ListStyle) (offset : Nat) : Item (List Inline) → Text
  | .plain padding children => ['\n'].intercalate (blocks (offset + padding) children)
  | .task children => ['\n'].intercalate (blocks (offset + style.padding) children)

/-- The items of a list inside an item: spaces, the marker and the text of each. -/
def entries (style : ListStyle) (offset : Nat) : List (Item (List Inline)) → List Text
  | [] => []
  | i :: is =>
    (List.replicate offset ' ' ++ style.marker :: item style offset i) :: entries style offset is

end

/-- Each block of an item contributes once, and in the order of the document. -/
theorem blocks_eq_map (offset : Nat) (bs : List (Block (List Inline))) :
    blocks find? source offset bs = bs.map (block find? source offset) := by
  induction bs with
  | nil => rfl
  | cons b bs ih => rw [blocks, ih, List.map_cons]

private theorem item_eq_join (style : ListStyle) (offset : Nat) (i : Item (List Inline)) :
    item find? source style offset i =
      ['\n'].intercalate (i.blocks.map (block find? source (offset + i.paddingIn style))) := by
  cases i with
  | plain padding children => rw [item, blocks_eq_map, Item.blocks, Item.paddingIn]
  | task children => rw [item, blocks_eq_map, Item.blocks, Item.paddingIn]

/-- Blocks of which none is code or HTML beside something that shows. -/
def ShowsAlone (bs : List (Block (List Inline))) : Prop :=
  ∀ before b after, bs = before ++ b :: after → Rendering.isRaw b = true →
    Rendering.blocks find? source before = [] ∧ Rendering.blocks find? source after = []

end

mutual

/-- The blocks of the items in the lists that a block inside an item consists of, at any depth. -/
def layersInBlock : Block (List Inline) → List (List (Block (List Inline)))
  | .list _ items => layersInItems items
  | .paragraph _ => []
  | .heading _ _ => []
  | .code _ => []
  | .html _ => []
  | .thematicBreak => []
  | .quote _ => []
  | .table _ => []

/-- The blocks of the items in lists among blocks. -/
def layersInBlocks : List (Block (List Inline)) → List (List (Block (List Inline)))
  | [] => []
  | b :: bs => layersInBlock b ++ layersInBlocks bs

/-- The blocks of an item and those of the items in its lists, at any depth. -/
def layers : Item (List Inline) → List (List (Block (List Inline)))
  | .plain _ children => children :: layersInBlocks children
  | .task children => children :: layersInBlocks children

def layersInItems : List (Item (List Inline)) → List (List (Block (List Inline)))
  | [] => []
  | i :: is => layers i ++ layersInItems is

end

/-- The items of the lists at the top of a document, each with the style of its list. -/
def topItems : Document → List (ListStyle × Item (List Inline))
  | [] => []
  | .list style items :: bs => items.map (style, ·) ++ topItems bs
  | _ :: bs => topItems bs

/-- A text is written with all that is wanted, and is what is wanted exactly under a condition. -/
structure Covers (condition : Prop) (wanted written : Text) : Prop where
  sublist : wanted.Sublist written
  eq_iff : written = wanted ↔ condition

namespace Covers

variable {P Q : Prop} {wanted written wanted' written' : Text}

theorem refl (t : Text) : Covers True t t := ⟨List.Sublist.refl t, by simp⟩

theorem congr (covers : Covers P wanted written) (same : P ↔ Q) : Covers Q wanted written :=
  ⟨covers.sublist, covers.eq_iff.trans same⟩

/-- What is added to one part cannot be made up for by another. -/
theorem append (first : Covers P wanted written) (second : Covers Q wanted' written') :
    Covers (P ∧ Q) (wanted ++ wanted') (written ++ written') := by
  refine ⟨first.sublist.append second.sublist, ?_⟩
  constructor
  · intro same
    have lengths := congrArg List.length same
    have firstLonger := first.sublist.length_le
    have secondLonger := second.sublist.length_le
    simp only [List.length_append] at lengths
    constructor
    · exact first.eq_iff.mp (first.sublist.eq_of_length (by omega)).symm
    · exact second.eq_iff.mp (second.sublist.eq_of_length (by omega)).symm
  · rintro ⟨holds, alsoHolds⟩
    rw [first.eq_iff.mpr holds, second.eq_iff.mpr alsoHolds]

/-- What is written before a text in any case has no part in the comparison. -/
theorem after (t : Text) (covers : Covers P wanted written) :
    Covers P (t ++ wanted) (t ++ written) :=
  ((refl t).append covers).congr (iff_of_eq (true_and P))

end Covers

end Flattening

namespace Rendering

open Flattening

variable (find? : Text → Option Manager) (source : Text)

private theorem blocks_append (first second : List (Block (List Inline))) :
    blocks find? source (first ++ second) =
      blocks find? source first ++ blocks find? source second := by
  induction first with
  | nil => rfl
  | cons b first ih => rw [List.cons_append, blocks, blocks, ih, List.append_assoc]

/-- A raw block contributes what it is as running text. -/
theorem flattening_block_of_isRaw (offset : Nat) {b : Block (List Inline)} (raw : isRaw b = true) :
    Flattening.block find? source offset b = block find? source b := by
  cases b <;> first | rfl | cases raw

private theorem layersInBlock_of_isRaw {b : Block (List Inline)} (raw : isRaw b = true) :
    layersInBlock b = [] := by
  cases b <;> first | rfl | cases raw

/-- Where a raw block is, the whole item is written: that is the block if nothing else shows. -/
theorem covers_whole (offset : Nat) {b : Block (List Inline)} (raw : isRaw b = true)
    (before after : List (Block (List Inline))) :
    Covers (blocks find? source before = [] ∧ blocks find? source after = [])
      (Flattening.block find? source offset b) (blocks find? source (before ++ b :: after)) := by
  rw [flattening_block_of_isRaw find? source offset raw, blocks_append, blocks]
  constructor
  · exact (List.sublist_append_left _ _).trans (List.sublist_append_right _ _)
  · constructor
    · intro same
      have lengths := congrArg List.length same
      simp only [List.length_append] at lengths
      constructor
      · exact List.eq_nil_of_length_eq_zero (by omega)
      · exact List.eq_nil_of_length_eq_zero (by omega)
    · rintro ⟨nothing, alsoNothing⟩
      rw [nothing, alsoNothing, List.nil_append, List.append_nil]

/-- The blocks `bs` that follow others in an item show as `ShowsAlone` says. -/
private def FollowAlone (before bs : List (Block (List Inline))) : Prop :=
  ∀ pre b post, bs = pre ++ b :: post → isRaw b = true →
    blocks find? source (before ++ pre) = [] ∧ blocks find? source post = []

private theorem followAlone_nil (before : List (Block (List Inline))) :
    FollowAlone find? source before [] := by
  intro pre b post split
  simp at split

private theorem followAlone_cons (before : List (Block (List Inline))) (b : Block (List Inline))
    (bs : List (Block (List Inline))) :
    FollowAlone find? source before (b :: bs) ↔
      (isRaw b = true → blocks find? source before = [] ∧ blocks find? source bs = []) ∧
        FollowAlone find? source (before ++ [b]) bs := by
  constructor
  · intro alone
    constructor
    · simpa using alone [] b bs rfl
    · intro pre c post split raw
      have here := alone (b :: pre) c post (by rw [split, List.cons_append]) raw
      simpa using here
  · rintro ⟨first, later⟩ pre c post split raw
    cases pre with
    | nil =>
      obtain ⟨rfl, rfl⟩ := List.cons.inj split
      simpa using first raw
    | cons d pre =>
      obtain ⟨rfl, rest⟩ := List.cons.inj split
      simpa using later pre c post rest raw

mutual

private theorem nested_covers (offset : Nat) : ∀ b : Block (List Inline), isRaw b = false →
    Covers (∀ children ∈ layersInBlock b, ShowsAlone find? source children)
      (Flattening.block find? source offset b) (nested find? source offset b)
  | .list style items, _ => nestedItems_covers style offset items
  | .paragraph content, _ => (Covers.refl _).congr (by simp [layersInBlock])
  | .heading level content, _ => (Covers.refl _).congr (by simp [layersInBlock])
  | .thematicBreak, _ => (Covers.refl _).congr (by simp [layersInBlock])
  | .quote children, _ => (Covers.refl _).congr (by simp [layersInBlock])
  | .table rows, _ => (Covers.refl _).congr (by simp [layersInBlock])

private theorem nestedItems_covers (style : ListStyle) (offset : Nat) :
    ∀ is : List (Item (List Inline)),
    Covers (∀ children ∈ layersInItems is, ShowsAlone find? source children)
      (['\n'].intercalate (entries find? source style offset is))
      (nestedItems find? source style offset is)
  | [] => (Covers.refl []).congr (by simp [layersInItems])
  | i :: is => by
    have entry := (itemLines_covers style offset i).after
      (List.replicate offset ' ' ++ [style.marker])
    have later := nestedItems_covers style offset is
    cases is with
    | nil => simpa [entries, nestedItems, layersInItems] using entry
    | cons j js =>
      have both := (entry.append (later.after ['\n'])).congr List.forall_mem_append.symm
      simpa [entries, nestedItems, layersInItems] using both

private theorem itemLines_covers (style : ListStyle) (offset : Nat) : ∀ i : Item (List Inline),
    Covers (∀ children ∈ layers i, ShowsAlone find? source children)
      (Flattening.item find? source style offset i) (itemLines find? source style offset i)
  | .plain padding children =>
    (childLines_covers (offset + padding) children []).congr List.forall_mem_cons.symm
  | .task children =>
    (childLines_covers (offset + style.padding) children []).congr List.forall_mem_cons.symm

private theorem childLines_covers (offset : Nat) : ∀ bs before : List (Block (List Inline)),
    Covers (FollowAlone find? source before bs ∧
        ∀ children ∈ layersInBlocks bs, ShowsAlone find? source children)
      (['\n'].intercalate (Flattening.blocks find? source offset bs))
      (childLines find? source (blocks find? source (before ++ bs)) offset bs)
  | [], before => (Covers.refl []).congr (by simp [layersInBlocks, followAlone_nil])
  | b :: bs, before => by
    have inside := nested_covers offset b
    have later := childLines_covers offset bs (before ++ [b])
    have head : Covers
        ((isRaw b = true → blocks find? source before = [] ∧ blocks find? source bs = []) ∧
          ∀ children ∈ layersInBlock b, ShowsAlone find? source children)
        (Flattening.block find? source offset b)
        (if isRaw b then blocks find? source (before ++ b :: bs)
          else nested find? source offset b) := by
      cases raw : isRaw b with
      | true =>
        refine (covers_whole find? source offset raw before bs).congr ?_
        simp [layersInBlock_of_isRaw raw]
      | false => exact (inside raw).congr (by simp)
    cases bs with
    | nil =>
      rw [Flattening.blocks, Flattening.blocks, List.intercalate_singleton]
      refine head.congr ?_
      simp [followAlone_cons, followAlone_nil, layersInBlocks]
    | cons c cs =>
      rw [List.append_assoc, List.singleton_append] at later
      have both := head.append (later.after ['\n'])
      rw [and_and_and_comm, ← followAlone_cons, ← List.forall_mem_append] at both
      simpa [Flattening.blocks, childLines, layersInBlocks] using both

end

end Rendering

open Rendering Flattening

/-- The text of an item has in it, in order, what each block of the item contributes, at any depth of
lists. It is nothing but that exactly if no code and no HTML in an item stands beside something that
shows; else it repeats what has been shown. -/
theorem itemLines_flattened (find? : Text → Option Manager) (source : Text) (style : ListStyle)
    (i : Item (List Inline)) :
    let wanted := ['\n'].intercalate (i.blocks.map (Flattening.block find? source (i.paddingIn style)))
    wanted.Sublist (itemLines find? source style 0 i) ∧
      (itemLines find? source style 0 i = wanted ↔
        ∀ children ∈ layers i, ShowsAlone find? source children) := by
  have covers := itemLines_covers find? source style 0 i
  rw [item_eq_join, Nat.zero_add] at covers
  exact ⟨covers.sublist, covers.eq_iff⟩

/-- The paragraph beside a code block is shown twice. -/
theorem itemLines_repeated :
    let source := "- x\n  ```\n  y\n  ```\n".toList
    let find? : Text → Option Manager := fun _ => none
    (topItems (Markdown.read source)).map (fun (style, i) =>
        (itemLines find? source style 0 i, item find? source style 0 i)) =
      [("x\nxy\n".toList, "x\ny\n".toList)] := by
  decide +kernel

end Chatdown
