import Chatdown.Markdown
import Chatdown.Proofs.Markdown.OpenBlocks
import Chatdown.Proofs.Markdown.PlainLines
import Mathlib.Data.List.Chain

/-! # Plain blocks

Paragraphs, headings and lists of bullets are written with plain lines. A reader that has seen a
part of such a source holds the blocks that are complete and one that may go on: each line of a
block has one effect on this state, and a blank line completes the block.
-/

namespace Chatdown.Markdown

/-- A block that is written with plain lines. -/
inductive PlainBlock where
  | paragraph (first : PlainLine) (more : List PlainLine)
  | heading (level : Nat) (valid : 1 ≤ level ∧ level ≤ 6) (line : PlainLine)
  | bullets (first : PlainLine) (more : List PlainLine)

def PlainLine.bullet (l : PlainLine) : Item (List Inline) := .plain 2 [.paragraph [.text l.text]]

def bulletList (ls : List PlainLine) : Block (List Inline) :=
  .list ⟨'-', 2⟩ (ls.map PlainLine.bullet)

def plainParagraph (ls : List PlainLine) : Block (List Inline) :=
  .paragraph (textLines (ls.map PlainLine.text))

namespace PlainBlock

def isBullets : PlainBlock → Bool
  | bullets _ _ => true
  | _ => false

/-- The lines of a source that a block is written as. -/
def lines : PlainBlock → List Text
  | paragraph first more => (first :: more).map PlainLine.text
  | heading level _ line => [List.replicate level '#' ++ ' ' :: line.text]
  | bullets first more => (first :: more).map fun l => '-' :: ' ' :: l.text

def block : PlainBlock → Block (List Inline)
  | paragraph first more => plainParagraph (first :: more)
  | heading level _ line => .heading level [.text line.text]
  | bullets first more => bulletList (first :: more)

end PlainBlock

/-- What has been read of a source of plain blocks: the blocks that are complete, and a block to
which the next line may add. -/
inductive Progress where
  | between (complete : Document)
  | paragraph (complete : Document) (first : PlainLine) (more : List PlainLine)
  | bullets (complete : Document) (earlier : List PlainLine) (last : PlainLine)
  /-- A list and a blank line after it. -/
  | afterBullets (complete : Document) (earlier : List PlainLine) (last : PlainLine)

namespace Progress

def document : Progress → Document
  | between complete => complete
  | paragraph complete first more => complete ++ [plainParagraph (first :: more)]
  | bullets complete earlier last => complete ++ [bulletList (earlier ++ [last])]
  | afterBullets complete earlier last => complete ++ [bulletList (earlier ++ [last])]

/-- What a blank line leaves. -/
def afterBlank : Progress → Progress
  | bullets complete earlier last => afterBullets complete earlier last
  | afterBullets complete earlier last => afterBullets complete earlier last
  | s => between s.document

/-- Tells whether a block may come next: a list does not follow a list. -/
def Awaits : Progress → PlainBlock → Prop
  | between _, _ => True
  | afterBullets _ _ _, b => ¬ b.isBullets
  | _, _ => False

private theorem document_afterBlank (s : Progress) : s.afterBlank.document = s.document := by
  cases s <;> rfl

end Progress

theorem finishBlocks_eq_map (links : LinkTable) (bs : List (Block Passage)) :
    finishBlocks links bs = bs.map (finishBlock links) := by
  induction bs with
  | nil => rfl
  | cons b bs ih => rw [finishBlocks, ih, List.map_cons]

theorem finishItems_eq_map (links : LinkTable) (is : List (Item Passage)) :
    finishItems links is = is.map (finishItem links) := by
  induction is with
  | nil => rfl
  | cons i is ih => rw [finishItems, ih, List.map_cons]

private theorem finishBlocks_reverse_cons (links : LinkTable) (b : Block Passage)
    (bs : List (Block Passage)) : finishBlocks links (b :: bs).reverse =
      finishBlocks links bs.reverse ++ [finishBlock links b] := by
  rw [finishBlocks_eq_map, finishBlocks_eq_map, List.reverse_cons, List.map_append,
    List.map_singleton]

private theorem finishItems_reverse_cons (links : LinkTable) (i : Item Passage)
    (is : List (Item Passage)) :
    finishItems links (i :: is).reverse =
      finishItems links is.reverse ++ [finishItem links i] := by
  rw [finishItems_eq_map, finishItems_eq_map, List.reverse_cons, List.map_append,
    List.map_singleton]

private theorem finishBlock_plainParagraph (links : LinkTable) {p : Passage} {first : PlainLine}
    {more : List PlainLine} (source : p.text = plainSource (first :: more)) :
    finishBlock links (.paragraph p) = plainParagraph (first :: more) :=
  congrArg Block.paragraph (content_plainSource links source)

private theorem finishItem_bullet (links : LinkTable) {p : Passage} {l : PlainLine}
    (source : p.text = plainSource [l]) :
    finishItem links (.plain 2 [.paragraph p]) = l.bullet := by
  rw [finishItem, contentAfter?_plainSource links source, content_plainSource links source]
  rfl

namespace Outline

/-- An outline that holds what has been read. -/
def Has (o : Outline) : Progress → Prop
  | .between complete => ∃ blocks n, o = ⟨blocks, [], none, .empty, n⟩ ∧
      finishBlocks .empty blocks.reverse = complete
  | .paragraph complete first more => ∃ blocks p n,
      o = ⟨blocks, [], some (.paragraph p), .empty, n + 1⟩ ∧
        finishBlocks .empty blocks.reverse = complete ∧ p.text = plainSource (first :: more)
  | .bullets complete earlier last => ∃ blocks items p n,
      o = ⟨blocks, [.item ⟨'-', 2⟩ items 0 2 []], some (.paragraph p), .empty, n + 1⟩ ∧
        finishBlocks .empty blocks.reverse = complete ∧
          finishItems .empty items.reverse = earlier.map PlainLine.bullet ∧
            p.text = plainSource [last]
  | .afterBullets complete earlier last => ∃ blocks items b n,
      o = ⟨blocks, [.item ⟨'-', 2⟩ items 0 2 [b]], none, .empty, n + 1⟩ ∧
        finishBlocks .empty blocks.reverse = complete ∧
          finishItems .empty (.plain 2 [b] :: items).reverse =
            (earlier ++ [last]).map PlainLine.bullet

private theorem closeParagraph_plainSource {o : Outline} {p : OpenParagraph} {first : PlainLine}
    {more : List PlainLine} (source : p.text = plainSource (first :: more)) :
    o.closeParagraph p = o.add (.paragraph (p.passage p.text)) :=
  closeParagraph_eq (source ▸ head?_plainSource_ne first more)
    (source ▸ plainSource_ne_nil first more) o

namespace Has

variable {o : Outline} {complete : Document} {first last : PlainLine}
  {more earlier : List PlainLine}

theorem readLine_paragraph (has : o.Has (.between complete)) (l : PlainLine) :
    (o.readLine l.text).Has (.paragraph complete l []) := by
  obtain ⟨blocks, n, rfl, shows⟩ := has
  have unmarked : n = 0 → l.text.head? ≠ some '\uFEFF' := fun _ mark =>
    absurd (l.head_text mark) (by decide)
  rw [Outline.readLine_paragraph blocks .empty n l.isInert_text l.text_ne_nil unmarked]
  exact ⟨blocks, _, n, rfl, shows, rfl⟩

theorem readLine_paragraph_line (has : o.Has (.paragraph complete first more)) (l : PlainLine) :
    (o.readLine l.text).Has (.paragraph complete first (more ++ [l])) := by
  obtain ⟨blocks, p, n, rfl, shows, text⟩ := has
  rw [Outline.readLine_paragraph_line blocks .empty n p l.isInert_text l.text_ne_nil
    l.columns?_text]
  refine ⟨blocks, _, n + 1, rfl, shows, ?_⟩
  rw [OpenParagraph.text] at text ⊢
  rw [rawLines_cons, text, ← List.cons_append, plainSource, plainSource, List.flatMap_append,
    List.flatMap_singleton]

private theorem readLine_heading (has : o.Has (.between complete)) {level : Nat}
    (valid : 1 ≤ level ∧ level ≤ 6) (l : PlainLine) :
    (o.readLine (List.replicate level '#' ++ ' ' :: l.text)).Has
      (.between (complete ++ [.heading level [.text l.text]])) := by
  obtain ⟨blocks, n, rfl, shows⟩ := has
  obtain ⟨margin, read⟩ := exists_readLine_heading blocks .empty n valid.1 valid.2
    l.isInert_text.flush l.text_ne_nil l.isSolid_text (l.not_mem_text (by decide))
  refine ⟨_, n + 1, read, ?_⟩
  have content : content .empty ⟨l.text, n + 1, [margin]⟩ = [.text l.text] := by
    refine content_lines .empty ?_ fun _ => isRunning_of_mem l []
    rw [List.map_nil, List.intercalate_singleton, trimEnd_of_solid l.isSolid_text]
  rw [finishBlocks_reverse_cons, shows, finishBlock, content]

private theorem readLine_bullet (has : o.Has (.between complete)) (l : PlainLine) :
    (o.readLine ('-' :: ' ' :: l.text)).Has (.bullets complete [] l) := by
  obtain ⟨blocks, n, rfl, shows⟩ := has
  rw [readLine_item blocks .empty n l.isInert_text l.text_ne_nil]
  exact ⟨blocks, [], _, n, rfl, shows, rfl, rfl⟩

private theorem readLine_nextBullet (has : o.Has (.bullets complete earlier last)) (l : PlainLine) :
    (o.readLine ('-' :: ' ' :: l.text)).Has (.bullets complete (earlier ++ [last]) l) := by
  obtain ⟨blocks, items, p, n, rfl, shows, bullets, text⟩ := has
  rw [readLine_nextItem blocks .empty n items p (by rw [text]; exact head?_plainSource_ne last [])
    (by rw [text]; exact plainSource_ne_nil last []) l.isInert_text l.text_ne_nil]
  refine ⟨blocks, _, _, n + 1, rfl, shows, ?_, rfl⟩
  rw [finishItems_reverse_cons, bullets, finishItem_bullet .empty text, List.map_append,
    List.map_singleton]

theorem readLine_blank {s : Progress} (has : o.Has s) : (o.readLine []).Has s.afterBlank := by
  cases s with
  | between complete =>
    obtain ⟨blocks, n, rfl, shows⟩ := has
    rw [readLine_outside fun _ => by decide]
    exact ⟨blocks, n + 1, rfl, shows⟩
  | paragraph complete first more =>
    obtain ⟨blocks, p, n, rfl, shows, text⟩ := has
    rw [Outline.readLine_blank, closeParagraph_plainSource text]
    refine ⟨_, n + 2, rfl, ?_⟩
    rw [finishBlocks_reverse_cons, shows, finishBlock_plainParagraph .empty text]
    rfl
  | bullets complete earlier last =>
    obtain ⟨blocks, items, p, n, rfl, shows, bullets, text⟩ := has
    rw [readLine_blank_inItem, closeParagraph_plainSource text]
    refine ⟨blocks, items, _, n + 1, rfl, shows, ?_⟩
    rw [finishItems_reverse_cons, bullets, finishItem_bullet .empty text, List.map_append,
      List.map_singleton]
  | afterBullets complete earlier last =>
    obtain ⟨blocks, items, b, n, rfl, shows, bullets⟩ := has
    exact ⟨blocks, items, b, n + 1, rfl, shows, bullets⟩

/-- A list has ended after a blank line, if no item follows. -/
theorem exists_between_of_afterBullets (has : o.Has (.afterBullets complete earlier last))
    {l : Text} (flush : IsFlush l) (nonempty : l ≠ []) {leaf : Option LeafStart} {place : Cursor}
    (starts : BlockStarts.read (Cursor.atStart l).rest.length 0 false false (Cursor.atStart l) =
      ⟨[], leaf, place⟩) (visible : leaf = none → place.isBlank = false) :
    ∃ ended : Outline, ended.Has (.between (complete ++ [bulletList (earlier ++ [last])])) ∧
      o.readLine l = ended.readLine l := by
  obtain ⟨blocks, items, b, n, rfl, shows, bullets⟩ := has
  refine ⟨_, ⟨_, n + 1, rfl, ?_⟩,
    readLine_afterList blocks .empty n ⟨'-', 2⟩ items [b] flush nonempty starts visible⟩
  rw [finishBlocks_reverse_cons, shows, finishBlock, List.reverse_singleton, bullets]
  rfl

theorem close {s : Progress} (has : o.Has s) :
    finishBlocks o.close.links o.close.blocks.reverse = s.document := by
  cases s with
  | between complete =>
    obtain ⟨blocks, n, rfl, shows⟩ := has
    exact shows
  | paragraph complete first more =>
    obtain ⟨blocks, p, n, rfl, shows, text⟩ := has
    simp only [Outline.close, closeContainers, List.length_nil, closeInnermost,
      closeParagraph_plainSource text, add]
    rw [finishBlocks_reverse_cons, shows, finishBlock_plainParagraph .empty text]
    rfl
  | bullets complete earlier last =>
    obtain ⟨blocks, items, p, n, rfl, shows, bullets, text⟩ := has
    simp only [Outline.close, List.length_singleton, closeContainers, closeContainer,
      closeInnermost, closeParagraph_plainSource text, add]
    rw [finishBlocks_reverse_cons, shows, finishBlock, finishItems_reverse_cons, bullets,
      List.reverse_singleton, finishItem_bullet .empty text, Progress.document, bulletList,
      List.map_append, List.map_singleton]
  | afterBullets complete earlier last =>
    obtain ⟨blocks, items, b, n, rfl, shows, bullets⟩ := has
    simp only [Outline.close, List.length_singleton, closeContainers, closeContainer,
      closeInnermost, add]
    rw [finishBlocks_reverse_cons, shows, finishBlock, List.reverse_singleton, bullets]
    rfl

/-- All lines of a paragraph are read as one block. -/
theorem foldl_readLine_paragraph (has : o.Has (.paragraph complete first more))
    (ls : List PlainLine) :
    ((ls.map PlainLine.text).foldl readLine o).Has (.paragraph complete first (more ++ ls)) := by
  induction ls generalizing o more with
  | nil => rwa [List.append_nil]
  | cons l ls ih =>
    have rest := ih (has.readLine_paragraph_line l)
    rwa [List.append_assoc] at rest

private theorem foldl_readLine_bullets (has : o.Has (.bullets complete earlier last))
    (ls : List PlainLine) :
    ∃ before final, before ++ [final] = earlier ++ last :: ls ∧
      ((ls.map fun l => '-' :: ' ' :: l.text).foldl readLine o).Has
        (.bullets complete before final) := by
  induction ls generalizing o earlier last with
  | nil => exact ⟨earlier, last, rfl, has⟩
  | cons l ls ih =>
    obtain ⟨before, final, same, read⟩ := ih (has.readLine_nextBullet l)
    exact ⟨before, final, by rw [same, List.append_assoc]; rfl, read⟩

/-- Where a block may come next, a list before it is as good as complete. -/
theorem exists_between {s : Progress} (has : o.Has s) {b : PlainBlock} (awaits : s.Awaits b) :
    ∃ ended : Outline, ended.Has (.between s.document) ∧
      b.lines.foldl readLine o = b.lines.foldl readLine ended := by
  cases s with
  | between complete => exact ⟨o, has, rfl⟩
  | paragraph => exact absurd awaits id
  | bullets => exact absurd awaits id
  | afterBullets complete earlier last =>
    cases b with
    | bullets first more => exact absurd rfl awaits
    | paragraph first more =>
      obtain ⟨ended, between, same⟩ := has.exists_between_of_afterBullets first.isInert_text.flush
        first.text_ne_nil (IsInert.read first.isInert_text ..) fun _ =>
          isBlank_eq_false first.isInert_text first.text_ne_nil
      exact ⟨ended, between, congrArg (List.foldl readLine · (more.map PlainLine.text)) same⟩
    | heading level valid line =>
      exact has.exists_between_of_afterBullets (isFlush_hashes valid.1 _) (by simp)
        (read_hashes valid.1 valid.2 line.isInert_text.flush) (fun none => nomatch none)

/-- All lines of a block are read as that block. -/
theorem exists_foldl_readLine_block {s : Progress} (has : o.Has s) {b : PlainBlock}
    (awaits : s.Awaits b) :
    ∃ next : Progress, (b.lines.foldl readLine o).Has next ∧
      next.document = s.document ++ [b.block] ∧
        ∀ c : PlainBlock, ¬ (b.isBullets ∧ c.isBullets) → next.afterBlank.Awaits c := by
  obtain ⟨ended, between, same⟩ := has.exists_between awaits
  rw [same]
  cases b with
  | paragraph first more =>
    have read := (between.readLine_paragraph first).foldl_readLine_paragraph more
    exact ⟨_, read, rfl, fun c _ => trivial⟩
  | heading level valid line =>
    exact ⟨_, between.readLine_heading valid line, rfl, fun c _ => trivial⟩
  | bullets first more =>
    obtain ⟨before, final, all, read⟩ := (between.readLine_bullet first).foldl_readLine_bullets more
    refine ⟨_, read, ?_, fun c other listed => other ⟨rfl, listed⟩⟩
    rw [Progress.document, all]
    rfl

end Has

end Outline

namespace PlainBlock

/-- The lines of a document with a blank line between neighbouring blocks. -/
def documentLines : List PlainBlock → List Text
  | [] => []
  | [b] => b.lines
  | b :: bs => b.lines ++ [] :: documentLines bs

end PlainBlock

/-- Blocks with blank lines between them are read one after another, if no list follows a list. -/
theorem Outline.Has.foldl_readLine_blocks {o : Outline} {s : Progress} (has : o.Has s)
    {b : PlainBlock} {bs : List PlainBlock} (awaits : s.Awaits b)
    (apart : (b :: bs).IsChain fun a c => ¬ (a.isBullets ∧ c.isBullets)) :
    ∃ next : Progress, ((PlainBlock.documentLines (b :: bs)).foldl readLine o).Has next ∧
      next.document = s.document ++ (b :: bs).map PlainBlock.block := by
  induction bs generalizing o s b with
  | nil =>
    obtain ⟨next, read, document, _⟩ := has.exists_foldl_readLine_block awaits
    exact ⟨next, read, document⟩
  | cons c bs ih =>
    obtain ⟨follows, others⟩ := List.isChain_cons_cons.mp apart
    obtain ⟨next, read, document, after⟩ := has.exists_foldl_readLine_block awaits
    obtain ⟨final, readAll, all⟩ := ih read.readLine_blank (after c follows) others
    refine ⟨final, ?_, ?_⟩
    · rwa [PlainBlock.documentLines, List.foldl_append, List.foldl_cons]
      rintro ⟨⟩
    · rw [all, next.document_afterBlank, document, List.append_assoc]
      rfl

end Chatdown.Markdown
