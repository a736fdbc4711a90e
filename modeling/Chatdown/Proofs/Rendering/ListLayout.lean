import Chatdown.Proofs.Document.ListItems
import Chatdown.Proofs.Document.ListStyles
import Chatdown.Proofs.Markdown.ListItems
import Chatdown.Proofs.Markdown.ListMarkers
import Chatdown.Proofs.Rendering.Flattening
import Chatdown.Proofs.Text.Join
import Mathlib.Algebra.GroupWithZero.Nat
import Mathlib.Data.List.Forall2

/-! # The layout of flattened lists

An item whose paragraph takes one line, as do those of the items inside it, becomes a text with one
line for each of these items. The items come in the order of the document, and a line begins with as
many spaces as the items around its item are wide together. The lines of what is inside an item
follow its own line whatever list they belong to, so that the text of the item is that of its groups
of lines joined, group by group.
-/

namespace Chatdown

/-- An item in a tree, with the paddings of the items that it is in, outermost first, and the style
of the list that it belongs to. -/
structure PlacedItem where
  paddings : List Nat
  style : ListStyle
  item : Item (List Inline)

namespace PlacedItem

mutual

/-- An item and those in the lists inside it, each before those inside it. -/
def ofItem (paddings : List Nat) (style : ListStyle) : Item (List Inline) → List PlacedItem
  | .plain padding blocks =>
    ⟨paddings, style, .plain padding blocks⟩ :: ofBlocks (paddings ++ [padding]) blocks
  | .task blocks =>
    ⟨paddings, style, .task blocks⟩ :: ofBlocks (paddings ++ [style.padding]) blocks

def ofItems (paddings : List Nat) (style : ListStyle) : List (Item (List Inline)) → List PlacedItem
  | [] => []
  | i :: is => ofItem paddings style i ++ ofItems paddings style is

/-- The items of a list, and those inside them, if a block is one. -/
def ofBlock (paddings : List Nat) : Block (List Inline) → List PlacedItem
  | .list style items => ofItems paddings style items
  | .paragraph _ => []
  | .heading _ _ => []
  | .code _ => []
  | .html _ => []
  | .thematicBreak => []
  | .quote _ => []
  | .table _ => []

/-- The items of the lists among blocks and those inside them. -/
def ofBlocks (paddings : List Nat) : List (Block (List Inline)) → List PlacedItem
  | [] => []
  | b :: bs => ofBlock paddings b ++ ofBlocks paddings bs

end

theorem ofItem_eq (paddings : List Nat) (style : ListStyle) (i : Item (List Inline)) :
    ofItem paddings style i =
      ⟨paddings, style, i⟩ :: ofBlocks (paddings ++ [i.paddingIn style]) i.blocks := by
  cases i with
  | plain padding blocks => rw [ofItem, Item.paddingIn, Item.blocks]
  | task blocks => rw [ofItem, Item.paddingIn, Item.blocks]

theorem ofItems_eq_flatMap (paddings : List Nat) (style : ListStyle)
    (is : List (Item (List Inline))) :
    ofItems paddings style is = is.flatMap (ofItem paddings style) := by
  induction is with
  | nil => rfl
  | cons i is ih => rw [ofItems, ih, List.flatMap_cons]

private theorem ofItems_ne_nil (paddings : List Nat) (style : ListStyle)
    {is : List (Item (List Inline))}
    (some : is ≠ []) : ofItems paddings style is ≠ [] := by
  cases is with
  | nil => contradiction
  | cons i is =>
    rw [ofItems, ofItem_eq]
    exact List.cons_ne_nil _ _

theorem ofBlocks_eq_flatMap (paddings : List Nat) (bs : List (Block (List Inline))) :
    ofBlocks paddings bs = bs.flatMap (ofBlock paddings) := by
  induction bs with
  | nil => rfl
  | cons b bs ih => rw [ofBlocks, ih, List.flatMap_cons]

section

variable (find? : Text → Option Manager) (source : Text)

/-- The markup of the paragraph that an item begins with. -/
def text (p : PlacedItem) : Text :=
  match p.item.blocks with
  | .paragraph content :: _ => Rendering.inlines find? source [] content
  | _ => []

/-- The line of an item inside another: as many spaces as the items around it are wide, the marker
of its list, and its paragraph. -/
def line (p : PlacedItem) : Text :=
  List.replicate p.paddings.sum ' ' ++ p.style.marker :: p.text find? source

/-- The lines of an item and those inside it: the first has nothing in front of its paragraph. -/
def lines : List PlacedItem → List Text
  | [] => []
  | top :: inside => top.text find? source :: inside.map (line find? source)

end

end PlacedItem

/-- An item that is one paragraph without a line feed, and lists of such items after it. -/
inductive OneLine (find? : Text → Option Manager) (source : Text) : Item (List Inline) → Prop where
  | intro {i : Item (List Inline)} {content : List Inline}
      {lists : List (ListStyle × List (Item (List Inline)))}
      (blocks : i.blocks = .paragraph content :: lists.map fun l => .list l.1 l.2)
      (single : '\n' ∉ Rendering.inlines find? source [] content)
      (nested : ∀ l ∈ lists, ∀ j ∈ l.2, OneLine find? source j) : OneLine find? source i

/-- A text whose lines are those of an item in a list at the top and of the items inside it. -/
structure LaidOut (find? : Text → Option Manager) (source : Text) (style : ListStyle)
    (i : Item (List Inline)) (t : Text) : Prop where
  lines : t.splitOn '\n' = PlacedItem.lines find? source (PlacedItem.ofItem [] style i)
  ended : t.getLast? ≠ some '\n'

namespace Rendering

variable (find? : Text → Option Manager) (source : Text)

/-! ### Texts of items are joined -/

private theorem nestedItems_eq_join (style : ListStyle) (offset : Nat)
    (is : List (Item (List Inline))) :
    nestedItems find? source style offset is =
      ['\n'].intercalate (is.map fun i =>
        List.replicate offset ' ' ++ style.marker :: itemLines find? source style offset i) := by
  induction is with
  | nil => rfl
  | cons i is ih =>
    cases is with
    | nil => rw [nestedItems, List.map_singleton, List.intercalate_singleton]
    | cons j js =>
      rw [nestedItems, ih, List.map_cons, List.map_cons, List.map_cons,
        Text.append_cons_intercalate]
      exact List.cons_ne_nil _ _

private theorem childLines_eq_join (whole : Text) (offset : Nat) {bs : List (Block (List Inline))}
    (noRaw : ∀ b ∈ bs, isRaw b = false) :
    childLines find? source whole offset bs =
      ['\n'].intercalate (bs.map (nested find? source offset)) := by
  induction bs with
  | nil => rfl
  | cons b bs ih =>
    rw [List.forall_mem_cons] at noRaw
    cases bs with
    | nil => simp [childLines, noRaw.1]
    | cons c cs =>
      rw [childLines, ih noRaw.2, noRaw.1, List.map_cons, List.map_cons, List.map_cons,
        Text.append_cons_intercalate]
      · rfl
      · exact List.cons_ne_nil _ _

private theorem itemLines_eq (style : ListStyle) (offset : Nat) (i : Item (List Inline)) :
    itemLines find? source style offset i =
      childLines find? source (blocks find? source i.blocks) (offset + i.paddingIn style)
        i.blocks := by
  cases i with
  | plain padding children => rw [itemLines, Item.paddingIn, Item.blocks]
  | task children => rw [itemLines, Item.paddingIn, Item.blocks]

end Rendering

open Rendering PlacedItem

section

variable {find? : Text → Option Manager} {source : Text} {i : Item (List Inline)}

theorem text_of_blocks {content : List Inline} {bs : List (Block (List Inline))}
    (blocks : i.blocks = .paragraph content :: bs) (paddings : List Nat) (style : ListStyle) :
    text find? source ⟨paddings, style, i⟩ = inlines find? source [] content := by
  simp only [text, blocks]

theorem lines_ofItem (paddings : List Nat) (style : ListStyle) (i : Item (List Inline)) :
    lines find? source (ofItem paddings style i) =
      text find? source ⟨paddings, style, i⟩ ::
        (ofBlocks (paddings ++ [i.paddingIn style]) i.blocks).map (line find? source) := by
  rw [ofItem_eq, lines]

/-- Spaces and the marker before the text of an item make its first line one of an item inside
another. -/
theorem append_join_lines (paddings : List Nat) (style : ListStyle) (i : Item (List Inline)) :
    List.replicate paddings.sum ' ' ++
        style.marker :: ['\n'].intercalate (lines find? source (ofItem paddings style i)) =
      ['\n'].intercalate ((ofItem paddings style i).map (line find? source)) := by
  rw [lines_ofItem, ofItem_eq, List.map_cons, line]
  have joined := Text.append_intercalate (List.replicate paddings.sum ' ' ++ [style.marker]) ['\n']
    (text find? source ⟨paddings, style, i⟩)
    ((ofBlocks (paddings ++ [i.paddingIn style]) i.blocks).map (line find? source))
  simpa only [List.append_assoc, List.singleton_append] using joined

/-- A list is the lines of its items and of those inside them, if each item is the lines of its
own. -/
theorem nestedItems_eq_join_lines {paddings : List Nat} {style : ListStyle}
    {is : List (Item (List Inline))}
    (items : ∀ i ∈ is, itemLines find? source style paddings.sum i =
      ['\n'].intercalate (lines find? source (ofItem paddings style i))) :
    nestedItems find? source style paddings.sum is =
      ['\n'].intercalate ((ofItems paddings style is).map (line find? source)) := by
  have entries : ∀ i ∈ is, List.replicate paddings.sum ' ' ++
      style.marker :: itemLines find? source style paddings.sum i =
        ['\n'].intercalate ((ofItem paddings style i).map (line find? source)) := by
    intro i mem
    rw [items i mem, append_join_lines]
  have nonempty : ∀ g ∈ is.map fun i => (ofItem paddings style i).map (line find? source),
      g ≠ [] := by
    rw [List.forall_mem_map]
    intro i _
    rw [ofItem_eq, List.map_cons]
    exact List.cons_ne_nil _ _
  have grouped := Text.intercalate_map_intercalate ['\n'] nonempty
  rw [List.map_map] at grouped
  rw [nestedItems_eq_join, List.map_congr_left entries, ofItems_eq_flatMap, List.map_flatMap]
  exact grouped

private theorem noRaw_of_lists (content : List Inline)
    (lists : List (ListStyle × List (Item (List Inline)))) :
    ∀ b ∈ Block.paragraph content :: lists.map fun l => .list l.1 l.2, isRaw b = false := by
  rw [List.forall_mem_cons, List.forall_mem_map]
  exact ⟨rfl, fun _ _ => rfl⟩

private theorem ofBlocks_of_lists (paddings : List Nat) (content : List Inline)
    (lists : List (ListStyle × List (Item (List Inline)))) :
    ofBlocks paddings (.paragraph content :: lists.map fun l => .list l.1 l.2) =
      lists.flatMap fun l => ofItems paddings l.1 l.2 := by
  rw [ofBlocks, ofBlock, List.nil_append, ofBlocks_eq_flatMap, List.flatMap_map]
  rfl

/-- A paragraph and lists, none of them empty, are the paragraph and the lines of all their items. -/
theorem childLines_eq_join_lines {content : List Inline}
    {lists : List (ListStyle × List (Item (List Inline)))} {paddings : List Nat}
    (filled : ∀ l ∈ lists, l.2 ≠ [])
    (shown : ∀ l ∈ lists, nestedItems find? source l.1 paddings.sum l.2 =
      ['\n'].intercalate ((ofItems paddings l.1 l.2).map (line find? source))) (whole : Text) :
    let bs := Block.paragraph content :: lists.map fun l => .list l.1 l.2
    childLines find? source whole paddings.sum bs =
      ['\n'].intercalate (inlines find? source [] content ::
        (ofBlocks paddings bs).map (line find? source)) := by
  intro bs
  -- the paragraph is a group of lines of its own, and each list is one
  have nonempty : ∀ g ∈ [inlines find? source [] content] ::
      lists.map fun l => (ofItems paddings l.1 l.2).map (line find? source), g ≠ [] := by
    rw [List.forall_mem_cons, List.forall_mem_map]
    refine ⟨List.cons_ne_nil _ _, ?_⟩
    intro l mem
    rw [ne_eq, List.map_eq_nil_iff]
    exact ofItems_ne_nil paddings l.1 (filled l mem)
  rw [childLines_eq_join find? source _ _ (noRaw_of_lists content lists), ofBlocks_of_lists,
    List.map_cons, List.map_map]
  calc ['\n'].intercalate (inlines find? source [] content ::
          lists.map fun l => nestedItems find? source l.1 paddings.sum l.2)
      = ['\n'].intercalate (([inlines find? source [] content] ::
          lists.map fun l => (ofItems paddings l.1 l.2).map (line find? source)).map
            ['\n'].intercalate) := by
        rw [List.map_congr_left shown, List.map_cons, List.map_map, List.intercalate_singleton]
        rfl
    _ = ['\n'].intercalate (inlines find? source [] content ::
          (lists.flatMap fun l => ofItems paddings l.1 l.2).map (line find? source)) := by
        rw [Text.intercalate_map_intercalate ['\n'] nonempty, List.flatten_cons, List.map_flatMap]
        rfl

/-- The lines of an item of one line are its own and those inside it. -/
theorem itemLines_eq_join (oneLine : OneLine find? source i)
    (filled : ∀ items ∈ ListItems.inItem i, items ≠ []) (paddings : List Nat) (style : ListStyle) :
    itemLines find? source style paddings.sum i =
      ['\n'].intercalate (lines find? source (ofItem paddings style i)) := by
  induction oneLine generalizing paddings style with
  | @intro i content lists blocks single nested ih =>
    have width : paddings.sum + i.paddingIn style = (paddings ++ [i.paddingIn style]).sum := by
      rw [List.sum_append, List.sum_singleton]
    rw [ListItems.inItem_eq] at filled
    rw [itemLines_eq, lines_ofItem, text_of_blocks blocks, width]
    generalize paddings ++ [i.paddingIn style] = around
    rw [blocks] at filled ⊢
    have inside (l : ListStyle × List (Item (List Inline))) (mem : l ∈ lists) :=
      ListItems.forall_of_list filled (List.mem_cons_of_mem _ (List.mem_map_of_mem mem))
    refine childLines_eq_join_lines (fun l mem => (inside l mem).1) ?_ _
    intro l mem
    exact nestedItems_eq_join_lines fun j held =>
      ih l mem j held ((inside l mem).2 j held) around l.1

/-- No line of an item of one line, or of one inside it, has a line feed in it, if the markers are
none. -/
theorem newline_not_mem (oneLine : OneLine find? source i)
    (markers : ∀ s ∈ ListStyle.inItem i, s.marker ≠ '\n') (paddings : List Nat)
    (style : ListStyle) :
    '\n' ∉ text find? source ⟨paddings, style, i⟩ ∧
      ∀ p ∈ ofBlocks (paddings ++ [i.paddingIn style]) i.blocks, '\n' ∉ line find? source p := by
  induction oneLine generalizing paddings style with
  | @intro i content lists blocks single nested ih =>
    rw [text_of_blocks blocks]
    refine ⟨single, ?_⟩
    generalize paddings ++ [i.paddingIn style] = around
    rw [ListStyle.inItem_eq] at markers
    rw [blocks] at markers ⊢
    rw [ofBlocks_of_lists]
    intro p member
    obtain ⟨l, mem, member⟩ := List.mem_flatMap.mp member
    rw [ofItems_eq_flatMap] at member
    obtain ⟨j, held, member⟩ := List.mem_flatMap.mp member
    obtain ⟨marker, inside⟩ := ListStyle.forall_of_list markers
      (List.mem_cons_of_mem _ (List.mem_map_of_mem mem))
    obtain ⟨plain, later⟩ := ih l mem j held (inside j held) around l.1
    rw [ofItem_eq, List.mem_cons] at member
    rcases member with rfl | member
    · simp [line, marker.symm, plain]
    · exact later p member

/-- An item of one line is laid out line by line. -/
theorem laidOut_itemLines (oneLine : OneLine find? source i)
    (markers : ∀ s ∈ ListStyle.inItem i, s.marker ≠ '\n')
    (filled : ∀ items ∈ ListItems.inItem i, items ≠ []) (style : ListStyle) :
    LaidOut find? source style i (itemLines find? source style 0 i) := by
  have joined := itemLines_eq_join oneLine filled [] style
  obtain ⟨plain, later⟩ := newline_not_mem oneLine markers [] style
  rw [List.sum_nil, lines_ofItem] at joined
  constructor
  · rw [joined, lines_ofItem]
    refine List.splitOn_intercalate '\n' ?_ (List.cons_ne_nil _ _)
    rw [List.forall_mem_cons, List.forall_mem_map]
    exact ⟨plain, later⟩
  · rw [joined]
    apply Text.getLast?_intercalate_ne plain
    rw [List.forall_mem_map]
    intro p member
    refine ⟨later p member, ?_⟩
    exact List.append_ne_nil_of_right_ne_nil _ (List.cons_ne_nil _ _)

end

/-- The text of an item of one line has a line for each item of its subtree, in the order of the
document. So it is for all trees in which markers are no line feeds and lists have items, and so for
all documents that are read. -/
theorem convert_itemLines (find? : Text → Option Manager) (source : Text) :
    (∀ (style : ListStyle) (i : Item (List Inline)), OneLine find? source i →
      (∀ s ∈ ListStyle.inItem i, s.marker ≠ '\n') → (∀ items ∈ ListItems.inItem i, items ≠ []) →
        LaidOut find? source style i (itemLines find? source style 0 i)) ∧
      ∀ (k : Nat) style items, (Markdown.read source)[k]? = some (Block.list style items) →
        ∃ texts, (convert find? source)[k]? = some (MessageBlock.bullets (texts.map .text)) ∧
          List.Forall₂ (fun i t => OneLine find? source i → LaidOut find? source style i t)
            items texts := by
  refine ⟨fun style i oneLine markers filled => laidOut_itemLines oneLine markers filled style, ?_⟩
  intro k style items found
  have list := List.mem_of_getElem? found
  refine ⟨items.map (itemLines find? source style 0), ?_, ?_⟩
  · rw [convert, messageBlocks, List.getElem?_map, found]
    simp [messageBlock]
  · rw [List.forall₂_map_right_iff, List.forall₂_same]
    intro i mem oneLine
    have marked : ∀ s ∈ ListStyle.inItem i, s.marker ∈ Markdown.listMarkers :=
      (ListStyle.forall_of_list (Markdown.read_listMarkers source) list).2 i mem
    refine laidOut_itemLines oneLine ?_ ?_ style
    · intro s member
      exact ne_of_mem_of_not_mem (marked s member) (by decide)
    · exact (ListItems.forall_of_list (Markdown.read_listItems source) list).2 i mem

theorem convert_itemLines_nested :
    let find? : Text → Option Manager := fun _ => none
    let source := "- a\n  + b\n    1. c\n  + d\n".toList
    let leaf (padding : Nat) (t : Text) : Item (List Inline) := .plain padding [.paragraph [.text t]]
    let b : Item (List Inline) :=
      .plain 2 [.paragraph [.text ['b']], .list ⟨'.', 3⟩ [leaf 3 ['c']]]
    let a : Item (List Inline) :=
      .plain 2 [.paragraph [.text ['a']], .list ⟨'+', 2⟩ [b, leaf 2 ['d']]]
    let t := itemLines find? source ⟨'-', 2⟩ 0 a
    t.splitOn '\n' = ["a".toList, "  +b".toList, "    .c".toList, "  +d".toList] ∧
      (Flattening.topItems (Markdown.read source)).map (fun (style, i) =>
        itemLines find? source style 0 i) = [t] := by
  intro find? source leaf b a t
  have leaves (padding : Nat) (t : Text) (single : '\n' ∉ inlines find? source [] [.text t]) :
      OneLine find? source (leaf padding t) :=
    @OneLine.intro _ _ _ [.text t] [] rfl single (by simp)
  have oneLineB : OneLine find? source b := by
    refine @OneLine.intro _ _ _ [.text ['b']] [(⟨'.', 3⟩, [leaf 3 ['c']])] rfl
      (by decide +kernel) ?_
    simpa using leaves 3 ['c'] (by decide +kernel)
  have oneLineA : OneLine find? source a := by
    refine @OneLine.intro _ _ _ [.text ['a']] [(⟨'+', 2⟩, [b, leaf 2 ['d']])] rfl
      (by decide +kernel) ?_
    simpa using ⟨oneLineB, leaves 2 ['d'] (by decide +kernel)⟩
  have laidOut := (convert_itemLines find? source).1 ⟨'-', 2⟩ a oneLineA (by decide) (by decide)
  exact ⟨laidOut.lines.trans (by decide +kernel), by decide +kernel⟩

end Chatdown
