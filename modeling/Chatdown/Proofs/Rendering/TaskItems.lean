import Chatdown.Conversion
import Chatdown.Proofs.Markdown.NestedLists
import Chatdown.Proofs.Mention.Pieces
import Chatdown.Proofs.Rendering.Autolinks
import Chatdown.Proofs.Rendering.ListLayout
import Chatdown.Proofs.Text.Join

/-! # Tasks among other items

The box of a task is not shown, but a task does not keep its own width either: what is inside it is
moved in by the width of the first item of its list. So a document with boxes becomes the same
message as without them exactly if every task that has something inside it is as wide as the first
item of its list.
-/

namespace Chatdown

open Rendering PlacedItem

namespace Markdown

theorem Phrase.literal_text (find? : Text → Option Manager) (words : Phrase) :
    literal find? words.text = words.text := by
  rw [literal_of_no_at find? (words.not_mem_text (by decide))]
  exact Markup.escape_of_class words.text_chars (by decide)

namespace Entries

/-- The columns that the items inside an item are moved in by, in a list of the given style. -/
def paddingIn (style : ListStyle) (marker : ItemMarker) : Option TaskBox → Nat
  | none => marker.width
  | some _ => style.padding

/-- The lines that items inside another are shown as, after a list of the given style. -/
def shownLines (list : Option ListStyle) (offset : Nat) : Entries → List Text
  | nil => []
  | entry marker box words inside after =>
    let style := marker.style.after list
    (List.replicate offset ' ' ++ marker.mark :: words.text) ::
      (inside.shownLines none (offset + paddingIn style marker box) ++
        after.shownLines (some style) offset)

/-- The texts that the items of a list at the top of a document are shown as. -/
def shownTexts (list : Option ListStyle) : Entries → List Text
  | nil => []
  | entry marker box words inside after =>
    let style := marker.style.after list
    ['\n'].intercalate (words.text :: inside.shownLines none (paddingIn style marker box)) ::
      after.shownTexts (some style)

/-- Each task with items inside it is as wide as the first item of its list. -/
def AreAligned (list : Option ListStyle) : Entries → Prop
  | nil => True
  | entry marker box _ inside after =>
    let style := marker.style.after list
    (inside ≠ nil → paddingIn style marker box = marker.width) ∧
      inside.AreAligned none ∧ after.AreAligned (some style)

end Entries

end Markdown

namespace PlacedItem

open Markdown

private theorem ofBlocks_append (paddings : List Nat) (bs cs : List (Block (List Inline))) :
    ofBlocks paddings (bs ++ cs) = ofBlocks paddings bs ++ ofBlocks paddings cs := by
  simp only [ofBlocks_eq_flatMap, List.flatMap_append]

private theorem ofBlocks_singleton (paddings : List Nat) (style : ListStyle)
    (is : List (Item (List Inline))) :
    ofBlocks paddings [.list style is] = is.flatMap (ofItem paddings style) := by
  rw [ofBlocks, ofBlocks, ofBlock, ofItems_eq_flatMap, List.append_nil]

/-- An item that is added comes last. -/
theorem ofBlocks_add (paddings : List Nat) (own : ListStyle) (i : Item (List Inline))
    (lists : ListRun (List Inline)) : ofBlocks paddings (lists.add own i).blocks =
      ofBlocks paddings lists.blocks ++ ofItem paddings (own.after lists.style?) i := by
  rw [← ListRun.listFor_style, ListRun.add]
  cases lists with
  | nil => simp [ListRun.blocks, ListRun.listFor, ofBlocks_singleton, ofBlocks]
  | cons l lists =>
    rw [ListRun.listFor]
    split
    · simp only [ListRun.blocks_cons, ofBlocks_append, ofBlocks_singleton, List.reverse_cons,
        List.flatMap_append, List.flatMap_singleton, List.append_assoc]
    · rw [ListRun.blocks_cons, ofBlocks_append, ofBlocks_singleton, List.reverse_singleton,
        List.flatMap_singleton]

end PlacedItem

namespace Markdown

variable (find? : Text → Option Manager) (source : Text) (paddings : List Nat) (style : ListStyle)

namespace Phrase

variable (words : Phrase) (box : Option TaskBox) (padding : Nat)
  (inside : List (Block (List Inline)))

private theorem item_blocks :
    (words.item box padding inside).blocks = .paragraph [.text words.text] :: inside := by
  cases box <;> rfl

private theorem text_item :
    PlacedItem.text find? source ⟨paddings, style, words.item box padding inside⟩ =
      words.text := by
  rw [text_of_blocks (words.item_blocks box padding inside)]
  exact words.literal_text find?

end Phrase

namespace Entries

private theorem paddingIn_item (marker : ItemMarker) (box : Option TaskBox) (words : Phrase)
    (inside : List (Block (List Inline))) :
    (words.item box marker.width inside).paddingIn style = paddingIn style marker box := by
  cases box <;> rfl

/-- Items that are read into lists add their lines. -/
theorem map_line_addTo (entries : Entries) (lists : ListRun (List Inline)) :
    (ofBlocks paddings (entries.addTo lists).blocks).map (line find? source) =
      (ofBlocks paddings lists.blocks).map (line find? source) ++
        entries.shownLines lists.style? paddings.sum := by
  induction entries generalizing paddings lists with
  | nil => rw [addTo, shownLines, List.append_nil]
  | entry marker box words inside after ihInside ihAfter =>
    have marked : (marker.style.after lists.style?).marker = marker.mark :=
      marker.style.marker_after lists.style?
    rw [addTo, ihAfter, ofBlocks_add, ListRun.style?_add, shownLines, ofItem_eq,
      words.item_blocks, ofBlocks, ofBlock, List.nil_append, paddingIn_item, List.map_append,
      List.map_cons, ihInside, line, words.text_item, marked, List.sum_append, List.sum_singleton,
      List.append_assoc]
    rfl

/-- The lines of an item at the top are its words and the lines of the items inside it. -/
theorem lines_ofItem_item (marker : ItemMarker) (box : Option TaskBox) (words : Phrase)
    (inside : Entries) :
    PlacedItem.lines find? source
        (ofItem [] style (words.item box marker.width (inside.addTo []).blocks)) =
      words.text :: inside.shownLines none (paddingIn style marker box) := by
  rw [lines_ofItem, words.text_item, words.item_blocks, ofBlocks, ofBlock, List.nil_append,
    List.nil_append, map_line_addTo, paddingIn_item, List.sum_singleton]
  rfl

/-- An item has one line, and so have those inside it. -/
theorem oneLine_addTo (entries : Entries) {lists : ListRun (List Inline)}
    (each : ∀ l ∈ lists, ∀ i ∈ l.2, OneLine find? source i) :
    ∀ l ∈ entries.addTo lists, ∀ i ∈ l.2, OneLine find? source i := by
  induction entries generalizing lists with
  | nil => exact each
  | entry marker box words inside after ihInside ihAfter =>
    have nested : ∀ l ∈ inside.addTo [], ∀ i ∈ l.2, OneLine find? source i :=
      ihInside (List.forall_mem_nil _)
    rw [addTo]
    generalize inside.addTo [] = lists at nested
    refine ihAfter (ListRun.forall_add _ ?_ each)
    refine @OneLine.intro _ _ _ [.text words.text]
      (lists.map fun l => (l.1, l.2.reverse)).reverse ?_ ?_ ?_
    · rw [words.item_blocks, ListRun.blocks, List.map_reverse, List.map_map]
      rfl
    · have single : '\n' ∉ words.text := words.not_mem_text (by decide)
      rwa [← words.literal_text find?] at single
    · simp only [List.mem_reverse, List.forall_mem_map]
      exact nested

/-- Items with the mark of a list go on with it. -/
theorem exists_addTo_areMarked {entries : Entries} (marked : entries.areMarked style.marker = true)
    (items : List (Item (List Inline))) :
    ∃ more : List (Item (List Inline)),
      entries.addTo [(style, items)] = [(style, more.reverse ++ items)] ∧
        more.map (fun i => ['\n'].intercalate (PlacedItem.lines find? source (ofItem [] style i))) =
          entries.shownTexts (some style) := by
  induction entries generalizing items with
  | nil => exact ⟨[], rfl, rfl⟩
  | entry marker box words inside after _ ih =>
    simp only [areMarked, Bool.and_eq_true, decide_eq_true_eq] at marked
    obtain ⟨same, others⟩ := marked
    have goesOn : marker.style.after (some style) = style := if_pos same
    obtain ⟨more, read, shows⟩ :=
      ih others (words.item box marker.width (inside.addTo []).blocks :: items)
    refine ⟨words.item box marker.width (inside.addTo []).blocks :: more, ?_, ?_⟩
    · rw [addTo, ListRun.add_of_marker_eq same, read, List.reverse_cons, List.append_assoc,
        List.singleton_append]
    · rw [List.map_cons, shows, shownTexts, lines_ofItem_item, goesOn]

/-- Items of one list make a list of items with one line each. -/
theorem exists_blocks_addTo {entries : Entries} (isOneList : entries.isOneList = true) :
    ∃ (style : ListStyle) (items : List (Item (List Inline))),
      (entries.addTo []).blocks = [.list style items] ∧
        (∀ i ∈ items, OneLine find? source i) ∧
        items.map (fun i => ['\n'].intercalate (PlacedItem.lines find? source (ofItem [] style i))) =
          entries.shownTexts none := by
  have each := entries.oneLine_addTo find? source (List.forall_mem_nil _)
  cases entries with
  | nil => cases isOneList
  | entry marker box words inside after =>
    let first := words.item box marker.width (inside.addTo []).blocks
    obtain ⟨more, read, shows⟩ :=
      exists_addTo_areMarked find? source marker.style isOneList [first]
    have lists : (Entries.entry marker box words inside after).addTo [] =
        [(marker.style, (first :: more).reverse)] := by
      rw [List.reverse_cons]
      exact read
    refine ⟨marker.style, first :: more, ?_, fun i member => ?_, ?_⟩
    · rw [lists, ListRun.blocks, List.map_singleton, List.reverse_singleton, List.reverse_reverse]
    · rw [lists, List.forall_mem_singleton] at each
      exact each i (List.mem_reverse.mpr member)
    · rw [List.map_cons, shows, lines_ofItem_item]
      rfl

end Entries

/-- A list becomes one block of bullets, with a text for each item of it. -/
theorem ListDocument.convert_source (find? : Text → Option Manager) (d : ListDocument)
    (ended : Bool) :
    convert find? (d.source ended) = [.bullets ((d.entries.shownTexts none).map .text)] := by
  obtain ⟨style, items, blocks, oneLine, shows⟩ :=
    Entries.exists_blocks_addTo find? (d.source ended) d.isOneList
  have read : Markdown.read (d.source ended) = [.list style items] :=
    (d.read_source ended).trans blocks
  have filled := read_listItems (d.source ended)
  rw [read] at filled
  have joined : ∀ i ∈ items, itemLines find? (d.source ended) style 0 i =
      ['\n'].intercalate (PlacedItem.lines find? (d.source ended) (ofItem [] style i)) := by
    intro i member
    have inside := (ListItems.forall_of_list filled (List.mem_singleton_self _)).2 i member
    exact itemLines_eq_join (oneLine i member) inside [] style
  rw [convert, read, messageBlocks, List.map_singleton, messageBlock, ← shows,
    ← List.map_congr_left joined, List.map_map]
  rfl

/-! ### With and without boxes -/

namespace Entries

variable (list : Option ListStyle) (offset : Nat)

private theorem length_shownLines_withoutBoxes (entries : Entries) (list' : Option ListStyle)
    (offset' : Nat) : (entries.withoutBoxes.shownLines list' offset').length =
      (entries.shownLines list offset).length := by
  induction entries generalizing list offset list' offset' with
  | nil => rfl
  | entry marker box words inside after ihInside ihAfter =>
    simp only [withoutBoxes, shownLines, List.length_cons, List.length_append]
    rw [ihInside, ihAfter]

/-- The lines of items are the same without boxes if they are moved in as far, and all tasks among
them are aligned. -/
theorem shownLines_withoutBoxes_iff (entries : Entries) (offset' : Nat) :
    entries.shownLines list offset = entries.withoutBoxes.shownLines list offset' ↔
      (entries ≠ nil → offset = offset') ∧ entries.AreAligned list := by
  induction entries generalizing list offset offset' with
  | nil => simp [shownLines, withoutBoxes, AreAligned]
  | entry marker box words inside after ihInside ihAfter =>
    have head : List.replicate offset ' ' ++ marker.mark :: words.text =
        List.replicate offset' ' ' ++ marker.mark :: words.text ↔ offset = offset' := by
      rw [List.append_left_inj, List.replicate_inj]
      exact and_iff_left (.inr rfl)
    rw [withoutBoxes, shownLines, shownLines, List.cons.injEq, head,
      List.append_eq_append_iff_of_size_eq_left
        (length_shownLines_withoutBoxes none _ inside none _).symm,
      ihInside, ihAfter, AreAligned]
    simp only [paddingIn, ne_eq, reduceCtorEq, not_false_eq_true, forall_const]
    constructor
    · rintro ⟨rfl, ⟨same, alignedInside⟩, _, alignedAfter⟩
      exact ⟨rfl, fun some => Nat.add_left_cancel (same some), alignedInside, alignedAfter⟩
    · rintro ⟨rfl, same, alignedInside, alignedAfter⟩
      exact ⟨rfl, ⟨fun some => congrArg (offset + ·) (same some), alignedInside⟩, fun _ => rfl,
        alignedAfter⟩

/-- A line that is shown has no line feed in it. -/
theorem not_mem_shownLines (entries : Entries) {l : Text}
    (member : l ∈ entries.shownLines list offset) : '\n' ∉ l := by
  induction entries generalizing list offset with
  | nil => cases member
  | entry marker box words inside after ihInside ihAfter =>
    rw [shownLines, List.mem_cons, List.mem_append] at member
    rcases member with rfl | member | member
    · have mark : '\n' ≠ marker.mark := by
        rcases marker.mark_cases with same | same | same | same | same <;> rw [same] <;> decide
      rw [List.mem_append, List.mem_cons, not_or, not_or]
      exact ⟨fun space => absurd (List.eq_of_mem_replicate space) (by decide), mark,
        words.not_mem_text (by decide)⟩
    · exact ihInside _ _ member
    · exact ihAfter _ _ member

/-- The texts of items are the same without boxes exactly if all tasks among them are aligned. -/
theorem shownTexts_withoutBoxes_iff (entries : Entries) :
    entries.shownTexts list = entries.withoutBoxes.shownTexts list ↔ entries.AreAligned list := by
  induction entries generalizing list with
  | nil => simp [shownTexts, withoutBoxes, AreAligned]
  | entry marker box words inside after _ ih =>
    have single : '\n' ∉ words.text := words.not_mem_text (by decide)
    have each (inside : Entries) (offset : Nat) :
        ∀ l ∈ words.text :: inside.shownLines none offset, '\n' ∉ l :=
      List.forall_mem_cons.mpr ⟨single, fun _ => inside.not_mem_shownLines none offset⟩
    rw [withoutBoxes, shownTexts, shownTexts, List.cons.injEq,
      Text.intercalate_inj (each _ _) (each _ _), List.cons_inj_right, shownLines_withoutBoxes_iff,
      ih, AreAligned, and_assoc]
    rfl

end Entries

/-- A list of tasks and other items becomes bullets, whose lines are moved in by the width of an
item or, inside a task, by that of the first item of its list. So the boxes change nothing exactly
if each task with items inside it is as wide as the first item of its list. -/
theorem convert_boxes (find? : Text → Option Manager) (d : ListDocument) (ended : Bool) :
    convert find? (d.source ended) = [.bullets ((d.entries.shownTexts none).map .text)] ∧
      (convert find? (d.source ended) = convert find? (d.withoutBoxes.source ended) ↔
        d.entries.AreAligned none) := by
  refine ⟨d.convert_source find? ended, ?_⟩
  rw [d.convert_source find? ended, d.withoutBoxes.convert_source find? ended,
    ← Entries.shownTexts_withoutBoxes_iff]
  have injective : Function.Injective MessageBlock.text := fun _ _ => MessageBlock.text.inj
  rw [List.singleton_inj, MessageBlock.bullets.injEq, injective.list_map.eq_iff]
  rfl

/-- A task after a narrower item: what is inside it is moved in by too little. -/
theorem convert_boxes_narrow :
    let nine : ItemMarker := ⟨['9'], '.', 1, by decide, by decide, by decide, by decide⟩
    let ten : ItemMarker := ⟨['1', '0'], '.', 1, by decide, by decide, by decide, by decide⟩
    let hyphen : ItemMarker := ⟨[], '-', 1, by decide, by decide, by decide, by decide⟩
    let words (c : Char) (letter : isLetter c = true) : Phrase :=
      ⟨[c], by simp [isPhraseChar, letter], letter, letter⟩
    let task := Entries.entry ten (some .ticked) (words 'b' (by decide))
      (.entry hyphen none (words 'c' (by decide)) .nil .nil) .nil
    let d : ListDocument :=
      ⟨.entry nine none (words 'a' (by decide)) .nil task, by decide, by decide⟩
    d.source true = "9. a\n10. [x] b\n    - c\n".toList ∧
      convert (fun _ => none) (d.source true) =
        [.bullets [.text "a".toList, .text "b\n   -c".toList]] ∧
      convert (fun _ => none) (d.withoutBoxes.source true) =
        [.bullets [.text "a".toList, .text "b\n    -c".toList]] ∧
      convert (fun _ => none) (d.source true) ≠
        convert (fun _ => none) (d.withoutBoxes.source true) := by
  refine ⟨by decide, ?_, ?_, ?_⟩
  · exact ListDocument.convert_source _ _ true
  · exact ListDocument.convert_source _ _ true
  · rw [ListDocument.convert_source, ListDocument.convert_source]
    simp [ListDocument.withoutBoxes, Entries.withoutBoxes, Entries.shownTexts, Entries.shownLines,
      Entries.paddingIn, ListStyle.after, ItemMarker.style, ItemMarker.width, List.intercalate]

end Markdown

end Chatdown
