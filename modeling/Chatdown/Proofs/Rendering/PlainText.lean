import Chatdown.Proofs.Markup.Visible
import Chatdown.Proofs.Rendering.SourceLines
import Chatdown.Proofs.Rendering.Spans

/-! # What a reader of rendered markup sees

Every node has a plain form, which is defined on the tree with no escaping and no tags: formatting
that is dropped leaves what the descendants of a node hold themselves, and all literal text is read
with names in the place of its tokens. A reader who sees no tags and sees characters for entities
sees exactly the plain form of what was rendered. The two are compared part by part: each part of
rendered markup shows its own text wherever it stands, so that nothing can be lost or doubled where
parts meet.
-/

namespace Chatdown

namespace Inline

mutual

/-- A node and its descendants, in the order of the document. -/
def subtree : Inline → List Inline
  | .text t => [.text t]
  | .softBreak => [.softBreak]
  | .hardBreak => [.hardBreak]
  | .code t => [.code t]
  | .html t => [.html t]
  | .emphasis children => .emphasis children :: subtrees children
  | .strong children => .strong children :: subtrees children
  | .strikethrough children => .strikethrough children :: subtrees children
  | .link url start children => .link url start children :: subtrees children
  | .image url children => .image url children :: subtrees children

def subtrees : List Inline → List Inline
  | [] => []
  | i :: is => subtree i ++ subtrees is

end

/-- The text that a node holds itself. -/
def ownText : Inline → Text
  | .text t | .code t | .html t => t
  | .softBreak | .hardBreak => ['\n']
  | .emphasis _ | .strong _ | .strikethrough _ | .link .. | .image .. => []

/-- The text that nodes and their descendants hold. -/
def heldText (is : List Inline) : Text := (subtrees is).flatMap ownText

mutual

private theorem literal_eq_flatMap : ∀ i : Inline, i.literal = i.subtree.flatMap ownText
  | .text t => (List.append_nil t).symm
  | .softBreak => rfl
  | .hardBreak => rfl
  | .code t => (List.append_nil t).symm
  | .html t => (List.append_nil t).symm
  | .emphasis children => literals_eq_heldText children
  | .strong children => literals_eq_heldText children
  | .strikethrough children => literals_eq_heldText children
  | .link _ _ children => literals_eq_heldText children
  | .image _ children => literals_eq_heldText children

/-- What rendering collects of nodes is what they and their descendants hold. -/
theorem literals_eq_heldText : ∀ is : List Inline, literals is = heldText is
  | [] => rfl
  | i :: is => by
    rw [literals, literal_eq_flatMap i, literals_eq_heldText is, heldText, heldText, subtrees,
      List.flatMap_append]

end

/-- Puts a node in front of others; a text joins the text that it meets. -/
def before : Inline → List Inline → List Inline
  | .text s, .text t :: is => .text (s ++ t) :: is
  | i, is => i :: is

mutual

/-- A node with neighbouring texts joined wherever its children are shown one by one. -/
def joined : Inline → Inline
  | .text t => .text t
  | .softBreak => .softBreak
  | .hardBreak => .hardBreak
  | .code t => .code t
  | .html t => .html t
  | .emphasis children => .emphasis children
  | .strong children => .strong children
  | .strikethrough children => .strikethrough (joinedAll children)
  | .link url start children => .link url start children
  | .image url children => .image url (joinedAll children)

/-- Nodes with neighbouring texts joined, among them and inside them. -/
def joinedAll : List Inline → List Inline
  | [] => []
  | i :: is => (joined i).before (joinedAll is)

end

private theorem before_before (s t : Text) (is : List Inline) :
    (Inline.text s).before ((Inline.text t).before is) = (Inline.text (s ++ t)).before is := by
  cases is with
  | nil => rfl
  | cons i is => cases i <;> simp only [before, List.append_assoc]

end Inline

namespace PlainText

open Mention

/-- A link that shows its own URL, which may have gained a scheme, and that was not written in
brackets where it starts. -/
def IsAutolink (source url : Text) (start : Option Position) (children : List Inline) : Prop :=
  (url = Inline.heldText children ∨ url = "http://".toList ++ Inline.heldText children ∨
      url = "mailto:".toList ++ Inline.heldText children) ∧
    ¬ ∃ p ∈ start, Rendering.StandsAt source p ('[' :: Inline.heldText children ++ [']'])

theorem isAutolink_iff {source url : Text} {start : Option Position} {children : List Inline} :
    Rendering.isAutolink source url start children = true ↔
      IsAutolink source url start children := by
  rw [IsAutolink, ← Rendering.isBracketed_iff_standsAt, ← Inline.literals_eq_heldText]
  simp only [Rendering.isAutolink, Rendering.showsItself, Bool.and_eq_true, Bool.or_eq_true,
    decide_eq_true_eq, Text.after?_eq_some_iff, or_assoc, Bool.not_eq_true', Bool.not_eq_true]

instance (source url : Text) (start : Option Position) (children : List Inline) :
    Decidable (IsAutolink source url start children) :=
  decidable_of_iff _ isAutolink_iff

section

variable (find? : Text → Option Manager)

/-- How a token is read: as the name of the manager that it is known by, if there is one. -/
def tokenName (name : Text) : Text :=
  match find? name.lower with
  | some m => m.name
  | none => '@' :: name

/-- A text with its tokens read: an `@` is one with all the name characters that follow it, if there
are any. -/
def named : Text → Text
  | [] => []
  | c :: rest =>
    if c = '@' ∧ rest.takeWhile isNameChar ≠ [] then
      tokenName find? (rest.takeWhile isNameChar) ++ named (rest.dropWhile isNameChar)
    else c :: named rest
termination_by t => t.length
decreasing_by
  all_goals simp only [List.length_cons]
  · exact Nat.lt_succ_of_le (List.dropWhile_sublist isNameChar).length_le
  · exact Nat.lt_succ_self _

private theorem named_at {rest : Text} (known : rest.takeWhile isNameChar ≠ []) :
    named find? ('@' :: rest) =
      tokenName find? (rest.takeWhile isNameChar) ++ named find? (rest.dropWhile isNameChar) := by
  rw [named, if_pos ⟨rfl, known⟩]

private theorem named_char {c : Char} {rest : Text}
    (bare : c = '@' → rest.takeWhile isNameChar = []) :
    named find? (c :: rest) = c :: named find? rest := by
  rw [named, if_neg fun token => token.2 (bare token.1)]

variable (source : Text)

mutual

/-- The plain form of a node in which neighbouring texts are joined. -/
def inline : Inline → Text
  | .text t => named find? t
  | .softBreak => ['\n']
  | .hardBreak => ['\n']
  | .code t => '\x60' :: named find? t ++ ['\x60']
  | .html t => named find? t
  | .emphasis children => named find? (Inline.heldText children)
  | .strong children => named find? (Inline.heldText children)
  | .strikethrough children => inlines children
  | .link url start children =>
    if IsAutolink source url start children then GitHub.shown url
    else named find? (Inline.heldText children)
  | .image _ children => inlines children

def inlines : List Inline → Text
  | [] => []
  | i :: is => inline i ++ inlines is

end

/-- The plain form of the content of a paragraph or a table cell. -/
def content (is : List Inline) : Text := inlines find? source (Inline.joinedAll is)

mutual

/-- The plain form of a block. -/
def block : Block (List Inline) → Text
  | .paragraph is => content find? source is
  | .heading _ is => named find? (Inline.heldText is)
  | .code t => named find? t
  | .html t => named find? t
  | .thematicBreak => []
  | .quote children => blocks children
  | .list _ children => items children
  | .table rows => rows.flatMap fun cells => cells.flatMap (content find? source)

def blocks : List (Block (List Inline)) → Text
  | [] => []
  | b :: bs => block b ++ blocks bs

def item : Item (List Inline) → Text
  | .plain _ children => blocks children
  | .task children => blocks children

def items : List (Item (List Inline)) → Text
  | [] => []
  | i :: is => item i ++ items is

end

end

end PlainText

/-- A node of the tree of a document. -/
inductive Node where
  | document (blocks : Document)
  | block (b : Block (List Inline))
  | item (i : Item (List Inline))
  | row (cells : List (List Inline))
  | cell (content : List Inline)
  | inline (i : Inline)

namespace Node

variable (find? : Text → Option Manager) (source : Text)

/-- The markup of a node as running text. -/
def markup : Node → Text
  | document blocks => Rendering.blocks find? source blocks
  | block b => Rendering.block find? source b
  | item i => Rendering.item find? source i
  | row cells => cells.flatMap (Rendering.inlines find? source [])
  | cell content => Rendering.inlines find? source [] content
  | inline i => Rendering.inline find? source i

def plainText : Node → Text
  | document blocks => PlainText.blocks find? source blocks
  | block b => PlainText.block find? source b
  | item i => PlainText.item find? source i
  | row cells => cells.flatMap (PlainText.content find? source)
  | cell content => PlainText.content find? source content
  | inline i => PlainText.inline find? source i.joined

end Node

namespace Rendering

open Markup Mention PlainText

variable {find? : Text → Option Manager}

private theorem shows_fill_token (ordinary : NamesOrdinary find?) {name : Text}
    (known : IsName name) :
    Shows (Piece.fill find? (.token name)) (tokenName find? name) := by
  cases found : find? name.lower with
  | some m =>
    simp only [Piece.fill, tokenName, found]
    exact (shows_of_ordinary (ordinary _ m found)).link (by decide) m.id
  | none =>
    simp only [Piece.fill, tokenName, found]
    refine shows_of_ordinary fun c member => ?_
    rcases List.mem_cons.mp member with rfl | member
    · decide
    · exact isSpecial_of_isNameChar (known.2 c member)

/-- Escaped text with its mentions shows the text with the names that it mentions. -/
theorem shows_literal (ordinary : NamesOrdinary find?) (t : Text) :
    Shows (literal find? t) (named find? t) := by
  rw [literal, substitute_escape]
  induction t using pieces_induction with
  | nil =>
    rw [pieces_nil, named]
    exact .nil
  | token rest known ih =>
    have isName : IsName (rest.takeWhile isNameChar) :=
      ⟨known, List.all_eq_true.mp List.all_takeWhile⟩
    rw [pieces_at known, named_at find? known, List.flatMap_cons, fill_append, Piece.escaped, fill,
      List.flatMap_cons, List.flatMap_nil, List.append_nil]
    exact (shows_fill_token ordinary isName).append ih
  | char c rest bare ih =>
    have char : Shows (escapeChar c) [c] := by
      simpa only [escape, List.flatMap_cons, List.flatMap_nil, List.append_nil]
        using shows_escape [c]
    rw [pieces_char bare, named_char find? bare, List.flatMap_cons, fill_append]
    rw [← fill_verbatim find? (escapeChar c)] at char
    exact char.append ih

private theorem shows_literals (ordinary : NamesOrdinary find?) (is : List Inline) :
    Shows (literal find? (Inline.literals is)) (named find? (Inline.heldText is)) := by
  rw [Inline.literals_eq_heldText]
  exact shows_literal ordinary (Inline.heldText is)

variable (source : Text)

/-- An empty text in front of nodes cannot be seen. -/
private theorem inlines_text_nil_before (is : List Inline) :
    PlainText.inlines find? source ((Inline.text []).before is) =
      PlainText.inlines find? source is := by
  have empty : named find? [] = [] := by rw [named]
  cases is with
  | nil => simp only [Inline.before, PlainText.inlines, PlainText.inline, empty, List.nil_append]
  | cons i is =>
    cases i <;>
      simp only [Inline.before, PlainText.inlines, PlainText.inline, empty, List.nil_append]

mutual

private theorem inline_shows (ordinary : NamesOrdinary find?) : ∀ i : Inline,
    Shows (inline find? source i) (PlainText.inline find? source i.joined)
  | .text t => shows_literal ordinary t
  | .softBreak => shows_char (by decide)
  | .hardBreak => shows_char (by decide)
  | .code t =>
    have tick : Shows ['\x60'] ['\x60'] := shows_char (by decide)
    (tick.append (shows_literal ordinary t)).append tick
  | .html t => shows_literal ordinary t
  | .emphasis children => (shows_literals ordinary children).italic
  | .strong children => (shows_literals ordinary children).bold
  | .strikethrough children => content_shows ordinary children
  | .link url start children => by
    simp only [inline, Inline.joined, PlainText.inline, isAutolink_iff]
    split
    · exact (shows_escape (GitHub.shown url)).link (by decide) url
    · exact (shows_literals ordinary children).link (by decide) url
  | .image _ children => content_shows ordinary children

private theorem inlines_shows (ordinary : NamesOrdinary find?) (pending : Text) :
    ∀ is : List Inline,
    Shows (inlines find? source pending is)
      (PlainText.inlines find? source ((Inline.text pending).before (Inline.joinedAll is)))
  | [] => by
    simpa only [Inline.joinedAll, Inline.before, PlainText.inlines, PlainText.inline, inlines,
      List.append_nil] using shows_literal ordinary pending
  | i :: is => by
    have head := inline_shows ordinary i
    have tail := content_shows ordinary is
    cases i with
    | text t =>
      rw [Inline.joinedAll, Inline.joined, Inline.before_before]
      exact inlines_shows ordinary (pending ++ t) is
    | _ =>
      have whole := (shows_literal ordinary pending).append (head.append tail)
      rw [← List.append_assoc (literal find? pending)] at whole
      exact whole

private theorem content_shows (ordinary : NamesOrdinary find?) (is : List Inline) :
    Shows (inlines find? source [] is) (PlainText.content find? source is) := by
  have shown := inlines_shows ordinary [] is
  rwa [inlines_text_nil_before] at shown

end

mutual

private theorem block_shows (ordinary : NamesOrdinary find?) : ∀ b : Block (List Inline),
    Shows (block find? source b) (PlainText.block find? source b)
  | .paragraph content => content_shows source ordinary content
  | .heading _ content => (shows_literals ordinary content).bold
  | .code t => shows_literal ordinary t
  | .html t => shows_literal ordinary t
  | .thematicBreak => .nil
  | .quote children => blocks_shows ordinary children
  | .list _ children => items_shows ordinary children
  | .table _ => .flatMap fun _ _ => .flatMap fun cell _ => content_shows source ordinary cell

private theorem blocks_shows (ordinary : NamesOrdinary find?) : ∀ bs : List (Block (List Inline)),
    Shows (blocks find? source bs) (PlainText.blocks find? source bs)
  | [] => .nil
  | b :: bs => (block_shows ordinary b).append (blocks_shows ordinary bs)

private theorem item_shows (ordinary : NamesOrdinary find?) : ∀ i : Item (List Inline),
    Shows (item find? source i) (PlainText.item find? source i)
  | .plain _ children => blocks_shows ordinary children
  | .task children => blocks_shows ordinary children

private theorem items_shows (ordinary : NamesOrdinary find?) : ∀ is : List (Item (List Inline)),
    Shows (items find? source is) (PlainText.items find? source is)
  | [] => .nil
  | i :: is => (item_shows ordinary i).append (items_shows ordinary is)

end

end Rendering

open Markup Mention Rendering

/-- A reader of the markup of a node sees its plain form: all of it, once and unescaped. -/
theorem visible_markup {find? : Text → Option Manager} (ordinary : NamesOrdinary find?)
    (source : Text) (n : Node) :
    visible (n.markup find? source) = n.plainText find? source := by
  have shows : Shows (n.markup find? source) (n.plainText find? source) := by
    cases n with
    | document bs => exact blocks_shows source ordinary bs
    | block b => exact block_shows source ordinary b
    | item i => exact item_shows source ordinary i
    | row cells => exact .flatMap fun cell _ => content_shows source ordinary cell
    | cell content => exact content_shows source ordinary content
    | inline i => exact inline_shows source ordinary i
  exact shows.visible_eq

/-- A token that two text nodes make together, next to text that looks like an entity. -/
theorem visible_markup_joined :
    let jo := Directory.ofList [⟨"7>".toList, "Jo".toList, none, some "j_o".toList, none⟩]
    let n := Node.inline (.strikethrough [.text "&amp; @j".toList, .text "_o<".toList,
      .strong [.code "\"@J_O".toList], .link "http://a/@j_o".toList none
        [.text "http://a/@j_o".toList]])
    NamesOrdinary jo.find? ∧ visible (n.markup jo.find? []) = n.plainText jo.find? [] := by
  intro jo n
  have ordinary : NamesOrdinary jo.find? := namesOrdinary_of_entries (by decide)
  exact ⟨ordinary, visible_markup ordinary [] n⟩

end Chatdown
