import Chatdown.Conversion
import Chatdown.Proofs.Markdown.PlainBlocks
import Chatdown.Proofs.Mention.Pieces

/-! # Documents of plain blocks

A document that is written block by block, with blank lines between the blocks, is read as these
blocks and no others, and its message has one block for each of them: the lines of a paragraph are
kept apart, a heading is bold, and each bullet is an entry.
-/

namespace Chatdown

namespace Markdown

namespace PlainBlock

def text (b : PlainBlock) : Text := ['\n'].intercalate b.lines

/-- A document with a blank line between neighbouring blocks. -/
def document (bs : List PlainBlock) : Text := "\n\n".toList.intercalate (bs.map text)

private theorem exists_lines_eq (b : PlainBlock) : ∃ l ls, b.lines = l :: ls := by
  cases b <;> exact ⟨_, _, rfl⟩

theorem isLine_of_mem_lines {b : PlainBlock} {l : Text} (member : l ∈ b.lines) :
    IsLine l ∧ l ≠ [] := by
  cases b with
  | paragraph first more =>
    obtain ⟨line, _, rfl⟩ := List.mem_map.mp member
    exact ⟨line.isLine_text, line.text_ne_nil⟩
  | heading level valid line =>
    have hashes : IsLine (List.replicate level '#') := fun c inside => by
      rw [List.eq_of_mem_replicate inside]
      decide
    have space : IsLine [' '] := by decide
    rw [List.mem_singleton.mp member]
    exact ⟨isLine_append hashes (isLine_append space line.isLine_text), by simp⟩
  | bullets first more =>
    obtain ⟨line, _, rfl⟩ := List.mem_map.mp member
    have marker : IsLine "- ".toList := by decide
    exact ⟨isLine_append marker line.isLine_text, List.cons_ne_nil _ _⟩

private theorem exists_documentLines_eq (b : PlainBlock) (bs : List PlainBlock) :
    ∃ l ls, documentLines (b :: bs) = l :: ls := by
  obtain ⟨l, ls, lines⟩ := b.exists_lines_eq
  cases bs with
  | nil => exact ⟨l, ls, lines⟩
  | cons c bs => exact ⟨l, _, congrArg (· ++ [] :: documentLines (c :: bs)) lines⟩

private theorem join_documentLines (bs : List PlainBlock) :
    ['\n'].intercalate (documentLines bs) = document bs := by
  induction bs with
  | nil => rfl
  | cons b bs ih =>
    cases bs with
    | nil =>
      rw [documentLines, document, List.map_singleton, List.intercalate_singleton]
      rfl
    | cons c bs =>
      obtain ⟨l, ls, first⟩ := b.exists_lines_eq
      obtain ⟨k, ks, rest⟩ := exists_documentLines_eq c bs
      have whole : documentLines (b :: c :: bs) = l :: ls ++ [] :: k :: ks := by
        rw [← first, ← rest]
        rfl
      have twoEnds : "\n\n".toList = ['\n'] ++ ([] ++ ['\n']) := by decide
      rw [whole, Text.intercalate_append, List.intercalate_cons_cons, ← first, ← rest, ih,
        document, document, List.map_cons, List.map_cons, List.map_cons,
        List.intercalate_cons_cons, twoEnds]
      simp only [List.append_assoc]
      rfl

private theorem isLine_of_mem_documentLines {bs : List PlainBlock} {l : Text}
    (member : l ∈ documentLines bs) : IsLine l := by
  fun_induction documentLines bs with
  | case1 => cases member
  | case2 b => exact (isLine_of_mem_lines member).1
  | case3 b bs _ ih =>
    rcases List.mem_append.mp member with first | rest
    · exact (isLine_of_mem_lines first).1
    · rcases List.mem_cons.mp rest with rfl | later
      · decide
      · exact ih later

private theorem ne_nil_of_getLast?_documentLines {bs : List PlainBlock} :
    ∀ l ∈ (documentLines bs).getLast?, l ≠ [] := by
  fun_induction documentLines bs with
  | case1 => simp
  | case2 b => exact fun l last => (isLine_of_mem_lines (List.mem_of_getLast? last)).2
  | case3 b bs more ih =>
    obtain ⟨c, cs, rfl⟩ := List.exists_cons_of_ne_nil more
    obtain ⟨k, ks, rest⟩ := exists_documentLines_eq c cs
    rw [rest] at ih ⊢
    rwa [List.getLast?_append, List.getLast?_cons_cons, List.getLast?_cons, Option.some_or,
      ← List.getLast?_cons]

end PlainBlock

open PlainBlock

/-- A document is read as the blocks that it is written with, whether its last line is ended or
not. -/
theorem read_document {bs : List PlainBlock}
    (apart : bs.IsChain fun a c => ¬ (a.isBullets ∧ c.isBullets)) :
    read (document bs) = bs.map block ∧ read (document bs ++ ['\n']) = bs.map block := by
  have areLines : ∀ l ∈ documentLines bs, IsLine l := fun _ => isLine_of_mem_documentLines
  have split := Line.split_join areLines ne_nil_of_getLast?_documentLines
  cases bs with
  | nil => exact ⟨rfl, rfl⟩
  | cons b bs =>
    obtain ⟨l, ls, lines⟩ := exists_documentLines_eq b bs
    have splitEnded : Line.split (['\n'].intercalate (documentLines (b :: bs)) ++ ['\n']) =
        documentLines (b :: bs) := by
      rw [lines] at areLines ⊢
      exact Line.split_join_append areLines
    have empty : Outline.empty.Has (.between []) := ⟨[], 0, rfl, rfl⟩
    obtain ⟨final, has, all⟩ := empty.foldl_readLine_blocks trivial apart
    have shown := has.close.trans all
    rw [join_documentLines] at split splitEnded
    rw [read, read, split, splitEnded]
    exact ⟨shown, shown⟩

end Markdown

namespace Rendering

open Markdown

variable (find? : Text → Option Manager) (source : Text)

private theorem literal_append_lineEnd (s t : Text) :
    literal find? (s ++ '\n' :: t) = literal find? s ++ '\n' :: literal find? t := by
  rw [literal, Markup.escape_append, Markup.escape_cons, Markup.escapeChar_of_ordinary (by decide),
    List.singleton_append, Mention.substitute,
    Mention.pieces_append_cons (by decide) (by decide), List.flatMap_append, List.flatMap_cons]
  rfl

/-- Lines of text keep their ends. -/
theorem inlines_textLines (l : Text) (ls : List Text) :
    inlines find? source [] (textLines (l :: ls)) =
      literal find? (['\n'].intercalate (l :: ls)) := by
  induction ls generalizing l with
  | nil =>
    rw [List.intercalate_singleton]
    rfl
  | cons k ls ih =>
    have rest : textLines (l :: k :: ls) = .text l :: .softBreak :: textLines (k :: ls) := rfl
    rw [rest, List.intercalate_cons_cons, List.append_assoc, List.singleton_append,
      literal_append_lineEnd, inlines, inlines, ih, inline, List.nil_append, List.append_assoc]
    · rfl
    · rintro _ ⟨⟩

theorem literal_of_plain {t : Text} (plain : ∀ c ∈ t, isPlainChar c || c == '\n') :
    literal find? t = Mention.substitute find? t := by
  rw [literal, Markup.escape_of_class plain (by decide)]

end Rendering

namespace Markdown.PlainBlock

open Mention

/-- The block of a message that a block becomes, when mentions are looked up by `find?`. -/
def message (find? : Text → Option Manager) : PlainBlock → MessageBlock
  | paragraph first more =>
    .text (substitute find? (['\n'].intercalate ((first :: more).map PlainLine.text)))
  | heading _ _ line => .text ("<b>".toList ++ substitute find? line.text ++ "</b>".toList)
  | bullets first more =>
    .bullets ((first :: more).map fun l => .text (substitute find? l.text))

end Markdown.PlainBlock

namespace Rendering

open Markdown

variable (find? : Text → Option Manager) (source : Text)

private theorem literal_line (l : PlainLine) :
    literal find? l.text = Mention.substitute find? l.text :=
  literal_of_plain find? fun c member => by rw [l.text_chars c member, Bool.true_or]

private theorem messageBlock_block (b : PlainBlock) :
    messageBlock find? source b.block = b.message find? := by
  cases b with
  | paragraph first more =>
    have plain : ∀ c ∈ ['\n'].intercalate ((first :: more).map PlainLine.text),
        (isPlainChar c || c == '\n') = true := by
      intro c member
      rcases Text.mem_intercalate member with ⟨t, inside, char⟩ | lineEnd
      · obtain ⟨l, _, rfl⟩ := List.mem_map.mp inside
        rw [l.text_chars c char, Bool.true_or]
      · rw [List.mem_singleton.mp lineEnd]
        rfl
    have shown := inlines_textLines find? source first.text (more.map PlainLine.text)
    exact congrArg MessageBlock.text (shown.trans (literal_of_plain find? plain))
  | heading level valid line =>
    have content : Inline.literals [.text line.text] = line.text := List.append_nil line.text
    rw [PlainBlock.block, messageBlock, block, content, literal_line]
    · rfl
    · intro style children same
      cases same
    · intro code same
      cases same
  | bullets first more =>
    have entry (l : PlainLine) :
        itemLines find? source ⟨'-', 2⟩ 0 l.bullet = Mention.substitute find? l.text :=
      literal_line find? l
    rw [PlainBlock.block, bulletList, messageBlock, List.map_map]
    exact congrArg MessageBlock.bullets
      (List.map_congr_left fun l _ => congrArg MessageBlock.text (entry l))

end Rendering

open Markdown PlainBlock

/-- Converting a document of plain blocks gives one block of the message for each of them, in order.
Two lists must not be neighbours, since blank lines do not part them. -/
theorem convert_document (find? : Text → Option Manager) {bs : List PlainBlock}
    (apart : bs.IsChain fun a c => ¬ (a.isBullets ∧ c.isBullets)) :
    convert find? (document bs) = bs.map (message find?) ∧
      convert find? (document bs ++ ['\n']) = bs.map (message find?) := by
  have each (source : Text) :
      Rendering.messageBlocks find? source (bs.map block) = bs.map (message find?) := by
    rw [Rendering.messageBlocks, List.map_map]
    exact List.map_congr_left fun b _ => Rendering.messageBlock_block find? source b
  obtain ⟨plain, ended⟩ := read_document apart
  rw [convert, convert, plain, ended]
  exact ⟨each _, each _⟩

/-- Lists between other blocks, with words that could be numbers, hosts, addresses and links. -/
theorem convert_document_mixed :
    let jo := Directory.ofList [⟨"7".toList, "Jo".toList, none, some "jo".toList, none⟩]
    let line (t : List String) (nonempty : t.map String.toList ≠ [])
        (areWords : ∀ w ∈ t.map String.toList, isWord w = true) : PlainLine :=
      ⟨_, nonempty, areWords⟩
    let title := line ["12-", "www", "@Jo"] (by decide) (by decide)
    let first := line ["1", "@@jo-"] (by decide) (by decide)
    let second := line ["http", "a@b"] (by decide) (by decide)
    let bs := [.bullets first [second], .heading 6 (by decide) title, .bullets second [title],
      .paragraph first [title, second]]
    document bs = ("- 1 @@jo-\n- http a@b\n\n###### 12- www @Jo\n\n- http a@b\n- 12- www @Jo\n\n" ++
        "1 @@jo-\n12- www @Jo\nhttp a@b").toList ∧
    (bs.IsChain fun a c => ¬ (a.isBullets ∧ c.isBullets)) ∧
    convert jo.find? (document bs) = bs.map (message jo.find?) ∧
      convert jo.find? (document bs ++ ['\n']) = bs.map (message jo.find?) := by
  intro jo line title first second bs
  have apart : bs.IsChain fun a c => ¬ (a.isBullets ∧ c.isBullets) := by decide
  exact ⟨by decide, apart, convert_document jo.find? apart⟩

end Chatdown
