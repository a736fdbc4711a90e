import Chatdown.Proofs.Text.LineReaders
import Chatdown.Rendering

/-! # What rendering sees of a source

A document has been read when it is rendered, and its source is looked at for one question only: how
a link was written. That is answered by the line where the link starts, and so two sources that have
the same lines, as a reader of plain text counts them, are rendered alike.
-/

namespace Chatdown.Rendering

theorem isLineReader_sourceLines : Text.IsLineReader sourceLines id where
  ending _ := by rw [sourceLines]
  feed line t := by rw [sourceLines]
  returnFeed line t := by rw [sourceLines]
  char notFeed notReturn line t := by
    rw [sourceLines]
    · rfl
    · exact fun _ same => absurd same notReturn
    · exact notFeed

/-- The lines of a source hold nothing that is not in it. -/
theorem mem_of_mem_sourceLines {line source l : Text} (member : l ∈ sourceLines line source)
    {c : Char} (inside : c ∈ l) : c ∈ line ∨ c ∈ source := by
  fun_induction sourceLines line source with
  | case1 => cases member
  | case2 line =>
    rw [List.mem_singleton.mp member, List.mem_reverse] at inside
    exact .inl inside
  | case3 line rest ih =>
    rcases List.mem_cons.mp member with rfl | later
    · exact .inl (List.mem_reverse.mp inside)
    · exact .inr (by simp [(ih later).resolve_left (List.not_mem_nil)])
  | case4 line rest ih =>
    rcases List.mem_cons.mp member with rfl | later
    · exact .inl (List.mem_reverse.mp inside)
    · exact .inr (by simp [(ih later).resolve_left (List.not_mem_nil)])
  | case5 line d rest _ _ ih =>
    rcases ih member with begun | later
    · rcases List.mem_cons.mp begun with rfl | earlier
      · exact .inr (List.mem_cons_self ..)
      · exact .inl earlier
    · exact .inr (List.mem_cons_of_mem d later)

/-- Tells that a text stands at a place of a source: in the line, and after the bytes of that line,
that the place counts. -/
def StandsAt (source : Text) (p : Position) (t : Text) : Prop :=
  ∃ (n : Nat) (earlier later : Text), p = ⟨n + 1, Text.byteLength earlier + 1⟩ ∧
    (sourceLines [] source)[n]? = some (earlier ++ (t ++ later))

theorem isBracketed_iff_standsAt {source shown : Text} {start : Option Position} :
    isBracketed source start shown = true ↔
      ∃ p ∈ start, StandsAt source p ('[' :: shown ++ [']']) := by
  cases start with
  | none => simp [isBracketed]
  | some p =>
    have only : (∃ q ∈ some p, StandsAt source q ('[' :: shown ++ [']'])) ↔
        StandsAt source p ('[' :: shown ++ [']']) := by simp
    rw [only, StandsAt]
    obtain ⟨line, column⟩ := p
    cases line with
    | zero => simp [isBracketed]
    | succ n =>
      cases column with
      | zero => simp [isBracketed]
      | succ k =>
        simp only [isBracketed, Nat.add_sub_cancel]
        constructor
        · intro bracketed
          split at bracketed
          · cases bracketed
          · rename_i rest known
            obtain ⟨line, found, after⟩ := Option.bind_eq_some_iff.mp known
            obtain ⟨earlier, rfl, rfl⟩ := Text.afterBytes?_eq_some_iff.mp after
            obtain ⟨later, rfl⟩ := List.isPrefixOf_iff_prefix.mp bracketed
            exact ⟨n, earlier, later, rfl, found⟩
        · rintro ⟨_, earlier, later, same, found⟩
          cases same
          have after : Text.afterBytes? (Text.byteLength earlier)
              (earlier ++ ('[' :: shown ++ [']'] ++ later)) =
                some ('[' :: shown ++ [']'] ++ later) :=
            Text.afterBytes?_eq_some_iff.mpr ⟨earlier, rfl, rfl⟩
          rw [found, Option.bind_some, after]
          exact List.isPrefixOf_iff_prefix.mpr (List.prefix_append ..)

/-- Nothing is in brackets in a source that has none. -/
theorem isBracketed_eq_false {source : Text} (noBracket : '[' ∉ source) (start : Option Position)
    (shown : Text) : isBracketed source start shown = false := by
  rw [Bool.eq_false_iff, ne_eq, isBracketed_iff_standsAt]
  rintro ⟨_, _, n, earlier, later, _, found⟩
  have inLine : '[' ∈ earlier ++ ('[' :: shown ++ [']'] ++ later) := by simp
  exact noBracket ((mem_of_mem_sourceLines (List.mem_of_getElem? found) inLine).resolve_left
    List.not_mem_nil)

variable (find? : Text → Option Manager) {s t : Text}

private theorem isAutolink_congr (lines : sourceLines [] s = sourceLines [] t) :
    isAutolink s = isAutolink t := by
  funext url start children
  simp only [isAutolink, isBracketed, lines]

mutual

private theorem inline_congr (same : isAutolink s = isAutolink t) :
    ∀ i : Inline, inline find? s i = inline find? t i
  | .text _ => rfl
  | .softBreak => rfl
  | .hardBreak => rfl
  | .code _ => rfl
  | .html _ => rfl
  | .emphasis _ => rfl
  | .strong _ => rfl
  | .strikethrough children => inlines_congr same [] children
  | .link url start children => by
    rw [inline, inline, same]
  | .image _ children => inlines_congr same [] children

private theorem inlines_congr (same : isAutolink s = isAutolink t) :
    ∀ (pending : Text) (is : List Inline), inlines find? s pending is = inlines find? t pending is
  | _, [] => rfl
  | pending, i :: is => by
    have head := inline_congr same i
    cases i with
    | text literal => exact inlines_congr same (pending ++ literal) is
    | _ => simp only [inlines, head, inlines_congr same [] is]

end

mutual

private theorem block_congr (same : isAutolink s = isAutolink t) :
    ∀ b : Block (List Inline), block find? s b = block find? t b
  | .paragraph content => inlines_congr find? same [] content
  | .heading _ _ => rfl
  | .code _ => rfl
  | .html _ => rfl
  | .thematicBreak => rfl
  | .quote children => blocks_congr same children
  | .list _ children => items_congr same children
  | .table rows => by
    have cell : inlines find? s [] = inlines find? t [] := funext (inlines_congr find? same [])
    rw [block, block, cell]

private theorem blocks_congr (same : isAutolink s = isAutolink t) :
    ∀ bs : List (Block (List Inline)), blocks find? s bs = blocks find? t bs
  | [] => rfl
  | b :: bs => by
    rw [blocks, blocks, block_congr same b, blocks_congr same bs]

private theorem item_congr (same : isAutolink s = isAutolink t) :
    ∀ i : Item (List Inline), item find? s i = item find? t i
  | .plain _ children => blocks_congr same children
  | .task children => blocks_congr same children

private theorem items_congr (same : isAutolink s = isAutolink t) :
    ∀ is : List (Item (List Inline)), items find? s is = items find? t is
  | [] => rfl
  | i :: is => by
    rw [items, items, item_congr same i, items_congr same is]

end

mutual

private theorem nested_congr (same : isAutolink s = isAutolink t) (offset : Nat) :
    ∀ b : Block (List Inline), nested find? s offset b = nested find? t offset b
  | .list style children => nestedItems_congr same style offset children
  | .paragraph content => block_congr find? same (.paragraph content)
  | .heading _ _ => rfl
  | .code _ => rfl
  | .html _ => rfl
  | .thematicBreak => rfl
  | .quote children => block_congr find? same (.quote children)
  | .table rows => block_congr find? same (.table rows)

private theorem nestedItems_congr (same : isAutolink s = isAutolink t) (style : ListStyle)
    (offset : Nat) :
    ∀ is : List (Item (List Inline)),
      nestedItems find? s style offset is = nestedItems find? t style offset is
  | [] => rfl
  | [i] => by
    rw [nestedItems, nestedItems, itemLines_congr same style offset i]
  | i :: j :: is => by
    simp only [nestedItems, itemLines_congr same style offset i,
      nestedItems_congr same style offset (j :: is)]

private theorem itemLines_congr (same : isAutolink s = isAutolink t) (style : ListStyle)
    (offset : Nat) :
    ∀ i : Item (List Inline), itemLines find? s style offset i = itemLines find? t style offset i
  | .plain padding children => by
    rw [itemLines, itemLines, blocks_congr find? same children]
    exact childLines_congr same _ (offset + padding) children
  | .task children => by
    rw [itemLines, itemLines, blocks_congr find? same children]
    exact childLines_congr same _ (offset + style.padding) children

private theorem childLines_congr (same : isAutolink s = isAutolink t) (whole : Text)
    (offset : Nat) :
    ∀ bs : List (Block (List Inline)),
      childLines find? s whole offset bs = childLines find? t whole offset bs
  | [] => rfl
  | [b] => by
    rw [childLines, childLines, nested_congr same offset b]
  | b :: c :: bs => by
    simp only [childLines, nested_congr same offset b, childLines_congr same whole offset (c :: bs)]

end

private theorem messageBlock_congr (same : isAutolink s = isAutolink t) (b : Block (List Inline)) :
    messageBlock find? s b = messageBlock find? t b := by
  cases b with
  | list style children => simp only [messageBlock, itemLines_congr find? same style 0]
  | code literal => rfl
  | _ => exact congrArg MessageBlock.text (block_congr find? same _)

/-- Of its source, the message of a document shows the lines alone. -/
theorem messageBlocks_congr (lines : sourceLines [] s = sourceLines [] t) (document : Document) :
    messageBlocks find? s document = messageBlocks find? t document :=
  List.map_congr_left fun b _ => messageBlock_congr find? (isAutolink_congr lines) b

end Chatdown.Rendering
