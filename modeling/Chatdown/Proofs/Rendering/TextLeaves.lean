import Chatdown.Directory
import Chatdown.Rendering
import Mathlib.Data.List.Forall2

/-! # How texts are cut into leaves

A reader of Markdown cuts running text into leaves wherever something else could have begun, and
what a leaf ends with says nothing. Rendering joins neighbouring texts before it escapes them and
looks for tokens, and so documents that differ in their leaves alone become the same message.
-/

namespace Chatdown

/-- Contents that differ at most in how texts are cut into leaves: a run of neighbouring texts may
be one text, and one text may be a run of them, at any depth. -/
inductive Inline.SameTexts : List Inline → List Inline → Prop where
  | refl (is : List Inline) : SameTexts is is
  | symm {is js : List Inline} (same : SameTexts is js) : SameTexts js is
  | trans {is js ks : List Inline} (first : SameTexts is js) (second : SameTexts js ks) :
      SameTexts is ks
  | join (texts : List Text) : SameTexts (texts.map .text) [.text texts.flatten]
  | append {is js ks ls : List Inline} (first : SameTexts is js) (second : SameTexts ks ls) :
      SameTexts (is ++ ks) (js ++ ls)
  | emphasis {is js : List Inline} (same : SameTexts is js) :
      SameTexts [.emphasis is] [.emphasis js]
  | strong {is js : List Inline} (same : SameTexts is js) : SameTexts [.strong is] [.strong js]
  | strikethrough {is js : List Inline} (same : SameTexts is js) :
      SameTexts [.strikethrough is] [.strikethrough js]
  | link (url : Text) (start : Option Position) {is js : List Inline} (same : SameTexts is js) :
      SameTexts [.link url start is] [.link url start js]
  | image (url : Text) {is js : List Inline} (same : SameTexts is js) :
      SameTexts [.image url is] [.image url js]

mutual

/-- Blocks that are alike but for the contents in them, which are related by `R`. -/
inductive Block.Alike {α : Type} (R : α → α → Prop) : Block α → Block α → Prop where
  | paragraph {p q : α} (related : R p q) : Block.Alike R (.paragraph p) (.paragraph q)
  | heading (level : Nat) {p q : α} (related : R p q) :
      Block.Alike R (.heading level p) (.heading level q)
  | code (literal : Text) : Block.Alike R (.code literal) (.code literal)
  | html (literal : Text) : Block.Alike R (.html literal) (.html literal)
  | thematicBreak : Block.Alike R .thematicBreak .thematicBreak
  | quote {bs cs : List (Block α)} (alike : List.Forall₂ (Block.Alike R) bs cs) :
      Block.Alike R (.quote bs) (.quote cs)
  | list (style : ListStyle) {is js : List (Item α)} (alike : List.Forall₂ (Item.Alike R) is js) :
      Block.Alike R (.list style is) (.list style js)
  | table {rows others : List (List α)} (related : List.Forall₂ (List.Forall₂ R) rows others) :
      Block.Alike R (.table rows) (.table others)

/-- Items that are alike but for the contents in them. -/
inductive Item.Alike {α : Type} (R : α → α → Prop) : Item α → Item α → Prop where
  | plain (padding : Nat) {bs cs : List (Block α)} (alike : List.Forall₂ (Block.Alike R) bs cs) :
      Item.Alike R (.plain padding bs) (.plain padding cs)
  | task {bs cs : List (Block α)} (alike : List.Forall₂ (Block.Alike R) bs cs) :
      Item.Alike R (.task bs) (.task cs)

end

namespace Inline

private theorem literals_append (is js : List Inline) :
    literals (is ++ js) = literals is ++ literals js := by
  induction is with
  | nil => rfl
  | cons i is ih => rw [List.cons_append, literals, ih, literals, List.append_assoc]

theorem literals_texts (texts : List Text) : literals (texts.map .text) = texts.flatten := by
  induction texts with
  | nil => rfl
  | cons t texts ih => rw [List.map_cons, literals, literal, ih, List.flatten_cons]

theorem SameTexts.literals_eq {is js : List Inline} (same : SameTexts is js) :
    literals is = literals js := by
  induction same with
  | refl is => rfl
  | symm _ ih => exact ih.symm
  | trans _ _ ih ih' => exact ih.trans ih'
  | join texts => rw [literals_texts, literals, literals, literal, List.append_nil]
  | append _ _ ih ih' => rw [literals_append, literals_append, ih, ih']
  | emphasis _ ih | strong _ ih | strikethrough _ ih | link _ _ _ ih | image _ _ ih =>
    simp only [literals, literal, ih]

end Inline

namespace Rendering

open Inline (SameTexts)

variable (find? : Text → Option Manager) (source : Text)

private theorem inlines_texts (pending : Text) (texts : List Text) (is : List Inline) :
    inlines find? source pending (texts.map .text ++ is) =
      inlines find? source (pending ++ texts.flatten) is := by
  induction texts generalizing pending with
  | nil => rw [List.map_nil, List.nil_append, List.flatten_nil, List.append_nil]
  | cons t texts ih =>
    rw [List.map_cons, List.cons_append, inlines, ih, List.flatten_cons, List.append_assoc]

/-- Contents that are rendered alike after any text are so after any content. -/
theorem inlines_append_congr {is js : List Inline}
    (alike : ∀ pending, inlines find? source pending is = inlines find? source pending js)
    (pending : Text) (before : List Inline) :
    inlines find? source pending (before ++ is) = inlines find? source pending (before ++ js) := by
  induction before generalizing pending with
  | nil => exact alike pending
  | cons i before ih =>
    cases i with
    | text t => exact ih (pending ++ t)
    | _ => simp only [List.cons_append, inlines, ih]

/-- Between any text and any content, leaves make no difference. -/
theorem inlines_sameTexts {is js : List Inline} (same : SameTexts is js) (pending : Text)
    (rest : List Inline) :
    inlines find? source pending (is ++ rest) = inlines find? source pending (js ++ rest) := by
  induction same generalizing pending rest with
  | refl is => rfl
  | symm _ ih => exact (ih pending rest).symm
  | trans _ _ ih ih' => exact (ih pending rest).trans (ih' pending rest)
  | join texts => rw [inlines_texts, List.singleton_append, inlines]
  | @append is js ks ls _ _ ih ih' =>
    calc inlines find? source pending (is ++ ks ++ rest)
        = inlines find? source pending (js ++ (ks ++ rest)) := by rw [List.append_assoc, ih]
      _ = inlines find? source pending (js ++ (ls ++ rest)) :=
          inlines_append_congr find? source (fun before => ih' before rest) pending js
      _ = inlines find? source pending (js ++ ls ++ rest) := by rw [List.append_assoc]
  | emphasis same _ | strong same _ =>
    simp only [List.singleton_append, inlines, inline, same.literals_eq]
  | @link url start is js same _ =>
    have kind : isAutolink source url start is = isAutolink source url start js := by
      rw [isAutolink, isAutolink, same.literals_eq]
    simp only [List.singleton_append, inlines, inline, kind, same.literals_eq]
  | strikethrough _ ih | image _ _ ih =>
    have inside := ih [] []
    rw [List.append_nil, List.append_nil] at inside
    simp only [List.singleton_append, inlines, inline, inside]

private theorem inlines_eq_of_sameTexts {is js : List Inline} (same : SameTexts is js) :
    inlines find? source [] is = inlines find? source [] js := by
  have shown := inlines_sameTexts find? source same [] []
  rwa [List.append_nil, List.append_nil] at shown

private theorem flatMap_congr_of_forall₂ {α β : Type} {R : α → α → Prop} {f : α → List β}
    (each : ∀ a b, R a b → f a = f b) {as bs : List α} (related : List.Forall₂ R as bs) :
    as.flatMap f = bs.flatMap f := by
  induction related with
  | nil => rfl
  | cons head _ ih => rw [List.flatMap_cons, List.flatMap_cons, each _ _ head, ih]

mutual

private theorem block_alike : ∀ (b c : Block (List Inline)), b.Alike SameTexts c →
    block find? source b = block find? source c
  | .paragraph _, _, .paragraph same => inlines_eq_of_sameTexts find? source same
  | .heading _ _, _, .heading _ same => by rw [block, block, same.literals_eq]
  | .code _, _, .code _ => rfl
  | .html _, _, .html _ => rfl
  | .thematicBreak, _, .thematicBreak => rfl
  | .quote _, _, .quote alike => blocks_alike _ _ alike
  | .list _ _, _, .list _ alike => items_alike _ _ alike
  | .table _, _, .table related => by
    have cells {row other : List (List Inline)} (same : List.Forall₂ SameTexts row other) :
        row.flatMap (inlines find? source []) = other.flatMap (inlines find? source []) :=
      flatMap_congr_of_forall₂ (fun _ _ same => inlines_eq_of_sameTexts find? source same) same
    rw [block, block]
    exact flatMap_congr_of_forall₂ (fun _ _ same => cells same) related

private theorem blocks_alike : ∀ (bs cs : List (Block (List Inline))),
    List.Forall₂ (Block.Alike SameTexts) bs cs → blocks find? source bs = blocks find? source cs
  | [], _, .nil => rfl
  | _ :: _, _, .cons head tail => by rw [blocks, blocks, block_alike _ _ head, blocks_alike _ _ tail]

private theorem item_alike : ∀ (i j : Item (List Inline)), i.Alike SameTexts j →
    item find? source i = item find? source j
  | .plain _ _, _, .plain _ alike => blocks_alike _ _ alike
  | .task _, _, .task alike => blocks_alike _ _ alike

private theorem items_alike : ∀ (is js : List (Item (List Inline))),
    List.Forall₂ (Item.Alike SameTexts) is js → items find? source is = items find? source js
  | [], _, .nil => rfl
  | _ :: _, _, .cons head tail => by rw [items, items, item_alike _ _ head, items_alike _ _ tail]

end

private theorem isRaw_alike {α : Type} {R : α → α → Prop} {b c : Block α} (alike : b.Alike R c) :
    isRaw b = isRaw c := by
  cases alike <;> rfl

mutual

private theorem nested_alike (offset : Nat) : ∀ (b c : Block (List Inline)), b.Alike SameTexts c →
    nested find? source offset b = nested find? source offset c
  | .paragraph _, _, .paragraph same => block_alike find? source _ _ (.paragraph same)
  | .heading _ _, _, .heading level same => block_alike find? source _ _ (.heading level same)
  | .code _, _, .code _ => rfl
  | .html _, _, .html _ => rfl
  | .thematicBreak, _, .thematicBreak => rfl
  | .quote _, _, .quote alike => block_alike find? source _ _ (.quote alike)
  | .list _ _, _, .list style alike => nestedItems_alike style offset _ _ alike
  | .table _, _, .table related => block_alike find? source _ _ (.table related)
termination_by structural b => b

private theorem nestedItems_alike (style : ListStyle) (offset : Nat) :
    ∀ (is js : List (Item (List Inline))), List.Forall₂ (Item.Alike SameTexts) is js →
      nestedItems find? source style offset is = nestedItems find? source style offset js
  | [], _, .nil => rfl
  | _ :: _, _, .cons head tail => by
    have line := itemLines_alike style offset _ _ head
    have others := nestedItems_alike style offset _ _ tail
    cases tail with
    | nil => rw [nestedItems, nestedItems, line]
    | cons _ _ => simp only [nestedItems, line, others]
termination_by structural is => is

private theorem itemLines_alike (style : ListStyle) (offset : Nat) :
    ∀ (i j : Item (List Inline)), i.Alike SameTexts j →
      itemLines find? source style offset i = itemLines find? source style offset j
  | .plain _ _, _, .plain padding alike => by
    rw [itemLines, itemLines, blocks_alike find? source _ _ alike]
    exact childLines_alike _ (offset + padding) _ _ alike
  | .task _, _, .task alike => by
    rw [itemLines, itemLines, blocks_alike find? source _ _ alike]
    exact childLines_alike _ (offset + style.padding) _ _ alike
termination_by structural i => i

private theorem childLines_alike (whole : Text) (offset : Nat) :
    ∀ (bs cs : List (Block (List Inline))), List.Forall₂ (Block.Alike SameTexts) bs cs →
      childLines find? source whole offset bs = childLines find? source whole offset cs
  | [], _, .nil => rfl
  | _ :: _, _, .cons head tail => by
    have line := nested_alike offset _ _ head
    have others := childLines_alike whole offset _ _ tail
    cases tail with
    | nil => rw [childLines, childLines, line, isRaw_alike head]
    | cons _ _ => simp only [childLines, line, others, isRaw_alike head]
termination_by structural bs => bs

end

private theorem messageBlock_alike {b c : Block (List Inline)} (alike : b.Alike SameTexts c) :
    messageBlock find? source b = messageBlock find? source c := by
  have running := block_alike find? source _ _ alike
  cases alike with
  | list style alike =>
    have entries {is js : List (Item (List Inline))}
        (alike : List.Forall₂ (Item.Alike SameTexts) is js) :
        is.map (fun i => MessageBlock.text (itemLines find? source style 0 i)) =
          js.map (fun i => .text (itemLines find? source style 0 i)) := by
      induction alike with
      | nil => rfl
      | cons head _ ih =>
        rw [List.map_cons, List.map_cons, itemLines_alike find? source style 0 _ _ head, ih]
    exact congrArg MessageBlock.bullets (entries alike)
  | code literal => rfl
  | _ => exact congrArg MessageBlock.text running

end Rendering

open Rendering

/-- Documents that differ at most in how their texts are cut into leaves become the same message. -/
theorem messageBlocks_sameTexts (find? : Text → Option Manager) (source : Text)
    {first second : Document}
    (alike : List.Forall₂ (Block.Alike Inline.SameTexts) first second) :
    messageBlocks find? source first = messageBlocks find? source second := by
  induction alike with
  | nil => rfl
  | cons head _ ih =>
    rw [messageBlocks, List.map_cons, messageBlock_alike find? source head]
    exact congrArg (messageBlock find? source _ :: ·) ih

/-- A token that is cut into three leaves after a character that is escaped, in an item, in a cell and
in a heading. -/
theorem messageBlocks_sameTexts_token :
    let jo := Directory.ofList [⟨"7".toList, "Jo".toList, none, some "j_o".toList, none⟩]
    let leaves := ["&@j".toList, "_".toList, "o".toList]
    let document (content : List Inline) : Document :=
      [.list ⟨'-', 2⟩ [.task [.paragraph [.strikethrough content], .table [[content]]]],
        .heading 2 [.link [] none content]]
    List.Forall₂ (Block.Alike Inline.SameTexts) (document (leaves.map .text))
        (document [.text leaves.flatten]) ∧
      messageBlocks jo.find? [] (document (leaves.map .text)) =
        messageBlocks jo.find? [] (document [.text leaves.flatten]) := by
  intro jo leaves document
  have same : Inline.SameTexts (leaves.map .text) [.text leaves.flatten] := .join leaves
  have inItem : List.Forall₂ (Block.Alike Inline.SameTexts)
      [.paragraph [.strikethrough (leaves.map .text)], .table [[leaves.map .text]]]
      [.paragraph [.strikethrough [.text leaves.flatten]], .table [[[.text leaves.flatten]]]] :=
    .cons (.paragraph (.strikethrough same)) (.cons (.table (.cons (.cons same .nil) .nil)) .nil)
  have alike : List.Forall₂ (Block.Alike Inline.SameTexts) (document (leaves.map .text))
      (document [.text leaves.flatten]) :=
    .cons (.list _ (.cons (.task inItem) .nil)) (.cons (.heading 2 (.link [] none same)) .nil)
  exact ⟨alike, messageBlocks_sameTexts jo.find? [] alike⟩

end Chatdown
