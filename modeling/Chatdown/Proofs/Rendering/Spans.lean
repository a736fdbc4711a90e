import Chatdown.Rendering
import Chatdown.Proofs.Document.ListStyles
import Chatdown.Proofs.Markup.Grammar
import Chatdown.Proofs.Mention.Pieces

/-! # Spans of rendered markup

Rendered markup is a sequence of spans, each of which is flat text or one element around flat text.
The spans of a tree are the same whatever managers are known: names are looked up only when the
tokens in the spans are filled. `itemLines_hasSpans` and `block_hasSpans` say so for all that is
rendered, and what holds of every span therefore holds of all output.
-/

namespace Chatdown

namespace Mention

/-- What becomes of pieces when names are looked up by `find?`. -/
def fill (find? : Text → Option Manager) (pieces : List Piece) : Text :=
  pieces.flatMap (Piece.fill find?)

/-- A text as pieces that stand for themselves. -/
def verbatim (t : Text) : List Piece := t.map .char

/-- The tokens among pieces hold names. -/
def HasNames (pieces : List Piece) : Prop := ∀ name, .token name ∈ pieces → IsName name

private theorem hasNames_pieces (t : Text) : HasNames (pieces t) :=
  fun _ member => isName_of_token_mem_pieces member

theorem hasNames_verbatim (t : Text) : HasNames (verbatim t) := by
  intro name member
  obtain ⟨c, _, same⟩ := List.mem_map.mp member
  cases same

variable (find? : Text → Option Manager)

@[simp] theorem fill_append (first second : List Piece) :
    fill find? (first ++ second) = fill find? first ++ fill find? second :=
  List.flatMap_append

@[simp] theorem fill_verbatim (t : Text) : fill find? (verbatim t) = t := by
  induction t with
  | nil => rfl
  | cons c t ih => exact congrArg (c :: ·) ih

/-- Names are looked up in a text exactly where its own tokens are. -/
theorem substitute_escape (t : Text) :
    substitute find? (Markup.escape t) = fill find? ((pieces t).flatMap Piece.escaped) := by
  rw [substitute, pieces_escape, fill]

end Mention

namespace Rendering

open Mention

/-- A part of rendered markup, with the literal text that it shows cut into pieces. -/
inductive Span where
  | flat (content : List Piece)
  | bold (content : List Piece)
  | italic (content : List Piece)
  | link (url : Text) (content : List Piece)

namespace Span

/-- The pieces of the literal text that a span shows. -/
def content : Span → List Piece
  | flat content => content
  | bold content => content
  | italic content => content
  | link _ content => content

/-- A span as it is written, up to the tokens in it. -/
def written : Span → List Piece
  | flat content => content.flatMap Piece.escaped
  | bold content =>
    verbatim "<b>".toList ++ content.flatMap Piece.escaped ++ verbatim "</b>".toList
  | italic content =>
    verbatim "<i>".toList ++ content.flatMap Piece.escaped ++ verbatim "</i>".toList
  | link url content =>
    verbatim ("<link type=\"url\" value=\"".toList ++ Markup.escape url ++ "\">".toList) ++
      content.flatMap Piece.escaped ++ verbatim "</link>".toList

end Span

/-- Markup that consists of the same spans whatever managers are known. -/
def HasSpans (markup : (Text → Option Manager) → Text) : Prop :=
  ∃ spans : List Span, (∀ s ∈ spans, HasNames s.content) ∧
    ∀ find?, markup find? = fill find? (spans.flatMap Span.written)

theorem HasSpans.nil : HasSpans fun _ => [] := ⟨[], by simp, fun _ => rfl⟩

theorem HasSpans.append {f g : (Text → Option Manager) → Text} (first : HasSpans f)
    (second : HasSpans g) : HasSpans fun find? => f find? ++ g find? := by
  obtain ⟨spans, names, same⟩ := first
  obtain ⟨others, otherNames, otherSame⟩ := second
  refine ⟨spans ++ others, ?_, ?_⟩
  · intro s member
    rcases List.mem_append.mp member with member | member
    · exact names s member
    · exact otherNames s member
  · intro find?
    change f find? ++ g find? = _
    rw [same, otherSame, List.flatMap_append, fill_append]

private theorem hasSpans_singleton {markup : (Text → Option Manager) → Text} (s : Span)
    (names : HasNames s.content) (same : ∀ find?, markup find? = fill find? s.written) :
    HasSpans markup := by
  refine ⟨[s], ?_, ?_⟩
  · intro other member
    rw [List.mem_singleton.mp member]
    exact names
  · intro find?
    rw [same, List.flatMap_cons, List.flatMap_nil, List.append_nil]

private theorem hasSpans_literal (t : Text) : HasSpans fun find? => literal find? t :=
  hasSpans_singleton (.flat (pieces t)) (hasNames_pieces t) fun find? =>
    substitute_escape find? t

private theorem hasSpans_bold (t : Text) : HasSpans fun find? => Markup.bold (literal find? t) := by
  refine hasSpans_singleton (.bold (pieces t)) (hasNames_pieces t) fun find? => ?_
  simp only [Markup.bold, literal, substitute_escape, Span.written, fill_append, fill_verbatim]

private theorem hasSpans_italic (t : Text) :
    HasSpans fun find? => Markup.italic (literal find? t) := by
  refine hasSpans_singleton (.italic (pieces t)) (hasNames_pieces t) fun find? => ?_
  simp only [Markup.italic, literal, substitute_escape, Span.written, fill_append, fill_verbatim]

private theorem hasSpans_link (url t : Text) :
    HasSpans fun find? => Markup.inlineLink url (literal find? t) := by
  refine hasSpans_singleton (.link url (pieces t)) (hasNames_pieces t) fun find? => ?_
  simp only [Markup.inlineLink_eq, literal, substitute_escape, Span.written, fill_append,
    fill_verbatim]

theorem verbatim_escape (t : Text) :
    verbatim (Markup.escape t) = (verbatim t).flatMap Piece.escaped := by
  induction t with
  | nil => rfl
  | cons c t ih =>
    rw [Markup.escape_cons, verbatim, List.map_append]
    exact congrArg ((Markup.escapeChar c).map Piece.char ++ ·) ih

/-- The shown text of a URL holds no tokens, also where it looks as if it did. -/
theorem hasSpans_autolink (url t : Text) :
    HasSpans fun _ => Markup.inlineLink url (Markup.escape t) := by
  refine hasSpans_singleton (.link url (verbatim t)) (hasNames_verbatim t) fun find? => ?_
  simp only [Markup.inlineLink_eq, Span.written, ← verbatim_escape, fill_append, fill_verbatim]

/-- Text that no name and no document has a part in is flat if its characters are ordinary. -/
theorem hasSpans_verbatim {t : Text} (ordinary : ∀ c ∈ t, Markup.isSpecial c = false) :
    HasSpans fun _ => t := by
  refine hasSpans_singleton (.flat (verbatim t)) (hasNames_verbatim t) fun find? => ?_
  simp only [Span.written, ← verbatim_escape, fill_verbatim, Markup.escape_of_ordinary ordinary]

private theorem hasSpans_char {c : Char} (ordinary : Markup.isSpecial c = false) :
    HasSpans fun _ => [c] :=
  hasSpans_verbatim (List.forall_mem_singleton.mpr ordinary)

variable (source : Text)

mutual

private theorem inline_hasSpans : ∀ i : Inline, HasSpans fun find? => inline find? source i
  | .text t => hasSpans_literal t
  | .softBreak => hasSpans_char (by decide)
  | .hardBreak => hasSpans_char (by decide)
  | .code t =>
    ((hasSpans_char (c := '\x60') (by decide)).append (hasSpans_literal t)).append
      (hasSpans_char (by decide))
  | .html t => hasSpans_literal t
  | .emphasis children => hasSpans_italic (Inline.literals children)
  | .strong children => hasSpans_bold (Inline.literals children)
  | .strikethrough children => inlines_hasSpans [] children
  | .link url start children => by
    simp only [inline]
    split
    · exact hasSpans_autolink url (GitHub.shown url)
    · exact hasSpans_link url (Inline.literals children)
  | .image _ children => inlines_hasSpans [] children

private theorem inlines_hasSpans (pending : Text) :
    ∀ is : List Inline, HasSpans fun find? => inlines find? source pending is
  | [] => hasSpans_literal pending
  | i :: is => by
    have head := inline_hasSpans i
    cases i with
    | text t => exact inlines_hasSpans (pending ++ t) is
    | _ => exact ((hasSpans_literal pending).append head).append (inlines_hasSpans [] is)

end

private theorem hasSpans_flatMap {α : Type} {f : (Text → Option Manager) → α → Text}
    (each : ∀ a, HasSpans fun find? => f find? a) (l : List α) :
    HasSpans fun find? => l.flatMap (f find?) := by
  induction l with
  | nil => exact .nil
  | cons a l ih => exact (each a).append ih

mutual

theorem block_hasSpans :
    ∀ b : Block (List Inline), HasSpans fun find? => block find? source b
  | .paragraph content => inlines_hasSpans source [] content
  | .heading _ content => hasSpans_bold (Inline.literals content)
  | .code t => hasSpans_literal t
  | .html t => hasSpans_literal t
  | .thematicBreak => .nil
  | .quote children => blocks_hasSpans children
  | .list _ children => items_hasSpans children
  | .table rows => hasSpans_flatMap (hasSpans_flatMap (inlines_hasSpans source [])) rows

private theorem blocks_hasSpans :
    ∀ bs : List (Block (List Inline)), HasSpans fun find? => blocks find? source bs
  | [] => .nil
  | b :: bs => (block_hasSpans b).append (blocks_hasSpans bs)

private theorem item_hasSpans : ∀ i : Item (List Inline), HasSpans fun find? => item find? source i
  | .plain _ children => blocks_hasSpans children
  | .task children => blocks_hasSpans children

private theorem items_hasSpans :
    ∀ is : List (Item (List Inline)), HasSpans fun find? => items find? source is
  | [] => .nil
  | i :: is => (item_hasSpans i).append (items_hasSpans is)

end

/-- The indent and the marker in front of a nested item. -/
private theorem hasSpans_marker {marker : Char} (ordinary : Markup.isSpecial marker = false)
    (offset : Nat) : HasSpans fun _ => List.replicate offset ' ' ++ [marker] := by
  apply hasSpans_verbatim
  intro c member
  rcases List.mem_append.mp member with space | same
  · rw [List.eq_of_mem_replicate space]
    decide
  · rw [List.mem_singleton.mp same]
    exact ordinary

private theorem hasSpans_newline : HasSpans fun _ => ['\n'] := hasSpans_char (by decide)

mutual

private theorem nested_hasSpans (offset : Nat) : ∀ b : Block (List Inline),
    (∀ s ∈ ListStyle.inBlock b, Markup.isSpecial s.marker = false) →
      HasSpans fun find? => nested find? source offset b
  | .list style children, ordinary =>
    nestedItems_hasSpans style offset (ordinary style (List.mem_cons_self ..)) children
      fun s member => ordinary s (List.mem_cons_of_mem style member)
  | .paragraph content, _ => block_hasSpans source (.paragraph content)
  | .heading level content, _ => block_hasSpans source (.heading level content)
  | .code t, _ => block_hasSpans source (.code t)
  | .html t, _ => block_hasSpans source (.html t)
  | .thematicBreak, _ => .nil
  | .quote children, _ => block_hasSpans source (.quote children)
  | .table rows, _ => block_hasSpans source (.table rows)

private theorem nestedItems_hasSpans (style : ListStyle) (offset : Nat)
    (marker : Markup.isSpecial style.marker = false) : ∀ is : List (Item (List Inline)),
    (∀ s ∈ ListStyle.inItems is, Markup.isSpecial s.marker = false) →
      HasSpans fun find? => nestedItems find? source style offset is
  | [], _ => .nil
  | i :: is, ordinary => by
    have head := itemLines_hasSpans style offset i fun s member =>
      ordinary s (List.mem_append_left _ member)
    have tail := nestedItems_hasSpans style offset marker is fun s member =>
      ordinary s (List.mem_append_right _ member)
    have line := (hasSpans_marker marker offset).append head
    cases is with
    | nil => simpa only [nestedItems, List.append_assoc, List.singleton_append] using line
    | cons j js =>
      simpa only [nestedItems, List.append_assoc, List.cons_append, List.nil_append]
        using line.append (hasSpans_newline.append tail)

theorem itemLines_hasSpans (style : ListStyle) (offset : Nat) : ∀ i : Item (List Inline),
    (∀ s ∈ ListStyle.inItem i, Markup.isSpecial s.marker = false) →
      HasSpans fun find? => itemLines find? source style offset i
  | .plain padding children, ordinary =>
    childLines_hasSpans (blocks_hasSpans source children) (offset + padding) children ordinary
  | .task children, ordinary =>
    childLines_hasSpans (blocks_hasSpans source children) (offset + style.padding) children
      ordinary

private theorem childLines_hasSpans {whole : (Text → Option Manager) → Text}
    (spans : HasSpans whole)
    (offset : Nat) : ∀ bs : List (Block (List Inline)),
    (∀ s ∈ ListStyle.inBlocks bs, Markup.isSpecial s.marker = false) →
      HasSpans fun find? => childLines find? source (whole find?) offset bs
  | [], _ => .nil
  | b :: bs, ordinary => by
    have inside := nested_hasSpans offset b fun s member =>
      ordinary s (List.mem_append_left _ member)
    have tail := childLines_hasSpans spans offset bs fun s member =>
      ordinary s (List.mem_append_right _ member)
    have head : HasSpans fun find? =>
        if isRaw b then whole find? else nested find? source offset b := by
      split
      · exact spans
      · exact inside
    cases bs with
    | nil => exact head
    | cons c cs => exact head.append (hasSpans_newline.append tail)

end

end Rendering

end Chatdown
