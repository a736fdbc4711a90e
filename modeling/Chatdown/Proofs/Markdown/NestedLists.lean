import Chatdown.Proofs.Document.ListRuns
import Chatdown.Proofs.Markdown.Lines
import Chatdown.Proofs.Markdown.OpenItems

/-! # Nested lists of tasks

Items are written line by line, those inside an item after it and indented to its content. Reading
them gives the tree that was written: each item holds the lists inside it, and neighbouring items
with the same mark belong to one list.
-/

namespace Chatdown.Markdown

/-- Items in order, each with its marker, the words on its line, perhaps a box before these, and the
items inside it. -/
inductive Entries where
  | nil
  | entry (marker : ItemMarker) (box : Option TaskBox) (words : Phrase) (inside after : Entries)

namespace Entries

/-- The lines that items are written as, with spaces before them. -/
def lines (column : Nat) : Entries → List Text
  | nil => []
  | entry marker box words inside after =>
    (List.replicate column ' ' ++ marker.line (words.written box)) ::
      (inside.lines (marker.width + column) ++ after.lines column)

/-- Tests whether items may come right after a paragraph. -/
def endParagraph : Entries → Bool
  | nil => true
  | entry marker _ _ _ _ => marker.endsParagraph

/-- Tests whether the items inside others can be told from the words before them. -/
def areNested : Entries → Bool
  | nil => true
  | entry _ _ _ inside after => inside.endParagraph && inside.areNested && after.areNested

/-- The lists that items make when they come after others. -/
def addTo (lists : ListRun (List Inline)) : Entries → ListRun (List Inline)
  | nil => lists
  | entry marker box words inside after =>
    after.addTo (lists.add marker.style (words.item box marker.width (inside.addTo []).blocks))

end Entries

private theorem finishBlocks_blocks (links : LinkTable) (lists : ListRun Passage) :
    finishBlocks links lists.blocks = (lists.mapItems (finishItem links)).blocks := by
  simp only [finishBlocks_eq_map, ListRun.blocks, ListRun.mapItems, List.map_reverse, List.map_map,
    Function.comp_def, finishBlock, finishItems_eq_map]

/-- Items are read one after another into the lists that they make. -/
theorem Outline.ComesTo.foldl_readLine_entries {o p : Outline} {inner outer : List Nat}
    {lists : ListRun Passage} (comes : o.ComesTo inner outer p lists) {entries : Entries}
    (nested : entries.areNested = true)
    (allowed : inner = [] → o.innermost.isSome → entries.endParagraph = true) :
    ∃ left added, ((entries.lines outer.sum).foldl readLine o).ComesTo left outer p added ∧
      added.mapItems (finishItem .empty) =
        entries.addTo (lists.mapItems (finishItem .empty)) := by
  induction entries generalizing o p inner outer lists with
  | nil => exact ⟨inner, lists, comes, rfl⟩
  | entry marker box words inside after ihInside ihAfter =>
    simp only [Entries.areNested, Bool.and_eq_true] at nested
    obtain ⟨⟨first, nestedInside⟩, nestedAfter⟩ := nested
    obtain ⟨line, b, source, opened⟩ := comes.readLine_marked marker (words.isInert_written box)
      (words.written_ne_nil box) (words.readAll_written box) allowed
    obtain ⟨open_, held, inItem, shows⟩ := ihInside opened nestedInside fun _ _ => first
    have wide : 0 < marker.style.padding := marker.width_pos
    have left := inItem.leave wide comes.outerWidths
    obtain ⟨others, added, read, all⟩ := ihAfter left nestedAfter fun same _ => by simp at same
    refine ⟨others, added, ?_, ?_⟩
    · rw [Entries.lines, List.foldl_cons, List.foldl_append]
      exact read
    · rw [all, ListRun.add_mapItems, finishItem_phrase source, finishBlocks_blocks, shows]
      rfl

/-! ### The source of a list -/

private theorem isLine_spaces (n : Nat) : IsLine (List.replicate n ' ') := fun c member => by
  rw [List.eq_of_mem_replicate member]
  decide

theorem ItemMarker.isLine_line (m : ItemMarker) {t : Text} (isLine : IsLine t) :
    IsLine (m.line t) := by
  have digits : IsLine m.digits := fun c member => by
    have digit := List.all_eq_true.mp m.areDigits c member
    refine ⟨?_, ?_, ?_⟩ <;> rintro rfl <;> exact absurd digit (by decide)
  have mark : IsLine [m.mark] := by
    rcases m.mark_cases with same | same | same | same | same <;> simp [IsLine, same]
  exact isLine_append digits (isLine_append mark (isLine_append (isLine_spaces m.spaces) isLine))

namespace Entries

/-- Tests whether items with nothing around them have one mark. -/
def areMarked (mark : Char) : Entries → Bool
  | nil => true
  | entry marker _ _ _ after => marker.mark = mark && after.areMarked mark

/-- Tests for the items of one list. -/
def isOneList : Entries → Bool
  | nil => false
  | entry marker _ _ _ after => after.areMarked marker.mark

def withoutBoxes : Entries → Entries
  | nil => nil
  | entry marker _ words inside after =>
    entry marker none words inside.withoutBoxes after.withoutBoxes

variable (entries : Entries)

private theorem areMarked_withoutBoxes (mark : Char) :
    entries.withoutBoxes.areMarked mark = entries.areMarked mark := by
  induction entries with
  | nil => rfl
  | entry marker box words inside after _ ih => rw [withoutBoxes, areMarked, areMarked, ih]

private theorem isOneList_withoutBoxes : entries.withoutBoxes.isOneList = entries.isOneList := by
  cases entries with
  | nil => rfl
  | entry marker box words inside after => exact areMarked_withoutBoxes after marker.mark

private theorem endParagraph_withoutBoxes :
    entries.withoutBoxes.endParagraph = entries.endParagraph := by
  cases entries <;> rfl

private theorem areNested_withoutBoxes : entries.withoutBoxes.areNested = entries.areNested := by
  induction entries with
  | nil => rfl
  | entry marker box words inside after ihInside ihAfter =>
    rw [withoutBoxes, areNested, areNested, endParagraph_withoutBoxes, ihInside, ihAfter]

theorem isLine_of_mem_lines {column : Nat} {l : Text} (member : l ∈ entries.lines column) :
    IsLine l ∧ l ≠ [] := by
  induction entries generalizing column with
  | nil => cases member
  | entry marker box words inside after ihInside ihAfter =>
    rcases List.mem_cons.mp member with rfl | member
    · have isLine := marker.isLine_line (words.isLine_written box)
      exact ⟨isLine_append (isLine_spaces column) isLine,
        List.append_ne_nil_of_right_ne_nil _ (marker.line_ne_nil _)⟩
    · exact (List.mem_append.mp member).elim ihInside ihAfter

end Entries

/-- A document that is a list, with lists in its items. -/
structure ListDocument where
  entries : Entries
  isOneList : entries.isOneList = true
  areNested : entries.areNested = true

namespace ListDocument

/-- The lines of a document, perhaps with a line feed after the last one. -/
def source (d : ListDocument) (ended : Bool) : Text :=
  ['\n'].intercalate (d.entries.lines 0) ++ if ended then ['\n'] else []

def withoutBoxes (d : ListDocument) : ListDocument where
  entries := d.entries.withoutBoxes
  isOneList := d.entries.isOneList_withoutBoxes.trans d.isOneList
  areNested := d.entries.areNested_withoutBoxes.trans d.areNested

private theorem split_source (d : ListDocument) (ended : Bool) :
    Line.split (d.source ended) = d.entries.lines 0 := by
  obtain ⟨entries, isOneList, areNested⟩ := d
  have each (l : Text) (member : l ∈ entries.lines 0) := entries.isLine_of_mem_lines member
  cases ended with
  | false =>
    rw [source, if_neg Bool.false_ne_true, List.append_nil]
    exact Line.split_join (fun l member => (each l member).1) fun l last =>
      (each l (List.mem_of_getLast? last)).2
  | true =>
    cases entries with
    | nil => cases isOneList
    | entry => exact Line.split_join_append fun l member => (each l member).1

/-- A list is read as it was written. -/
theorem read_source (d : ListDocument) (ended : Bool) :
    read (d.source ended) = (d.entries.addTo []).blocks := by
  obtain ⟨left, lists, comes, shows⟩ :=
    Outline.ComesTo.empty.foldl_readLine_entries d.areNested fun _ isSome =>
      absurd isSome (by decide)
  rw [read, d.split_source, Outline.ofLines]
  exact comes.finishBlocks_close.trans (by rw [finishBlocks_blocks, shows]; rfl)

end ListDocument

end Chatdown.Markdown
