import Chatdown.Conversion
import Chatdown.Proofs.Rendering.WellFormed

/-! # Mentions in URLs

A URL that is shown as a link keeps what looks like a mention in it. Emphasis, strong emphasis,
headings and links with a text of their own show all that is inside them as one text, URLs included,
and names are looked up in that text. `IsSettled` says of markup that nobody's being known has a part
in it; it holds of a document if there is no `@` where names are looked up.
-/

namespace Chatdown

namespace Rendering

/-- What stands around a literal. -/
structure Surroundings where
  /-- Whether it is in a link that was written as a URL. -/
  inUrl : Bool
  /-- Whether it is in emphasis, strong emphasis, a heading or a link with a text of its own, and so
  is the URL that it is in, if it is in one. -/
  inElement : Bool
  deriving DecidableEq, Repr

namespace Surroundings

/-- Nothing that changes how a literal is shown. -/
def running : Surroundings := ⟨false, false⟩

/-- What stands around the children of an element. A URL is shown as it is, whatever is in it. -/
def element (s : Surroundings) : Surroundings := { s with inElement := s.inElement || !s.inUrl }

/-- What stands around the text of a link that was written as a URL. -/
def url (s : Surroundings) : Surroundings := { s with inUrl := true }

/-- Tests for a place where names are looked up. -/
def isSearched (s : Surroundings) : Bool := !s.inUrl || s.inElement

end Surroundings

/-- A literal of a document and what stands around it. -/
structure Leaf where
  literal : Text
  around : Surroundings
  deriving DecidableEq, Repr

namespace Leaf

section

variable (source : Text)

mutual

def inInline (s : Surroundings) : Inline → List Leaf
  | .text t => [⟨t, s⟩]
  | .softBreak => []
  | .hardBreak => []
  | .code t => [⟨t, s⟩]
  | .html t => [⟨t, s⟩]
  | .emphasis children => inInlines s.element children
  | .strong children => inInlines s.element children
  | .strikethrough children => inInlines s children
  | .link url start children =>
    inInlines (if isAutolink source url start children then s.url else s.element) children
  | .image _ children => inInlines s children

def inInlines (s : Surroundings) : List Inline → List Leaf
  | [] => []
  | i :: is => inInline s i ++ inInlines s is

end

mutual

def inBlock : Block (List Inline) → List Leaf
  | .paragraph content => inInlines source .running content
  | .heading _ content => inInlines source Surroundings.running.element content
  | .code t => [⟨t, .running⟩]
  | .html t => [⟨t, .running⟩]
  | .thematicBreak => []
  | .quote children => inBlocks children
  | .list _ children => inItems children
  | .table rows => rows.flatMap fun cells => cells.flatMap (inInlines source .running)

def inBlocks : List (Block (List Inline)) → List Leaf
  | [] => []
  | b :: bs => inBlock b ++ inBlocks bs

def inItem : Item (List Inline) → List Leaf
  | .plain _ children => inBlocks children
  | .task children => inBlocks children

def inItems : List (Item (List Inline)) → List Leaf
  | [] => []
  | i :: is => inItem i ++ inItems is

end

private theorem inBlocks_eq_flatMap (bs : List (Block (List Inline))) :
    inBlocks source bs = bs.flatMap (inBlock source) := by
  induction bs with
  | nil => rfl
  | cons b bs ih => rw [inBlocks, ih, List.flatMap_cons]

private theorem inItems_eq_flatMap (is : List (Item (List Inline))) :
    inItems source is = is.flatMap (inItem source) := by
  induction is with
  | nil => rfl
  | cons i is ih => rw [inItems, ih, List.flatMap_cons]

end

/-- Literals without an `@` where names are looked up. -/
def AreQuiet (leaves : List Leaf) : Prop :=
  ∀ leaf ∈ leaves, leaf.around.isSearched = true → '@' ∉ leaf.literal

private theorem areQuiet_append {first second : List Leaf} :
    AreQuiet (first ++ second) ↔ AreQuiet first ∧ AreQuiet second :=
  List.forall_mem_append

private theorem areQuiet_singleton {t : Text} {s : Surroundings} (quiet : AreQuiet [⟨t, s⟩])
    (searched : s.isSearched = true) : '@' ∉ t :=
  quiet _ (List.mem_cons_self ..) searched

theorem AreQuiet.of_mem_flatMap {α : Type} {f : α → List Leaf} {l : List α}
    (quiet : AreQuiet (l.flatMap f)) {a : α} (member : a ∈ l) : AreQuiet (f a) :=
  fun leaf inside => quiet leaf (List.mem_flatMap.mpr ⟨a, member, inside⟩)

end Leaf

open Leaf Mention

section Elements

variable (source : Text)

mutual

/-- The text that an element shows consists of the literals in it and line breaks. -/
theorem at_not_mem_literal : ∀ (i : Inline) (s : Surroundings), s.inElement = true →
    AreQuiet (inInline source s i) → '@' ∉ Inline.literal i
  | .text _, s, inside, quiet => areQuiet_singleton quiet (by simp [Surroundings.isSearched, inside])
  | .softBreak, _, _, _ => by decide
  | .hardBreak, _, _, _ => by decide
  | .code _, s, inside, quiet => areQuiet_singleton quiet (by simp [Surroundings.isSearched, inside])
  | .html _, s, inside, quiet => areQuiet_singleton quiet (by simp [Surroundings.isSearched, inside])
  | .emphasis children, s, inside, quiet =>
    at_not_mem_literals children s.element (by simp [Surroundings.element, inside]) quiet
  | .strong children, s, inside, quiet =>
    at_not_mem_literals children s.element (by simp [Surroundings.element, inside]) quiet
  | .strikethrough children, s, inside, quiet => at_not_mem_literals children s inside quiet
  | .link url start children, s, inside, quiet => by
    refine at_not_mem_literals children _ ?_ quiet
    split
    · exact inside
    · simp [Surroundings.element, inside]
  | .image _ children, s, inside, quiet => at_not_mem_literals children s inside quiet

private theorem at_not_mem_literals : ∀ (is : List Inline) (s : Surroundings), s.inElement = true →
    AreQuiet (inInlines source s is) → '@' ∉ Inline.literals is
  | [], _, _, _ => List.not_mem_nil
  | i :: is, s, inside, quiet => by
    obtain ⟨head, tail⟩ := areQuiet_append.mp quiet
    intro member
    rcases List.mem_append.mp member with member | member
    · exact at_not_mem_literal i s inside head member
    · exact at_not_mem_literals is s inside tail member

end

end Elements

/-- Markup that is the same whoever is known. -/
def IsSettled (markup : (Text → Option Manager) → Text) : Prop :=
  ∀ first second, markup first = markup second

private theorem isSettled_const (t : Text) : IsSettled fun _ => t := fun _ _ => rfl

theorem IsSettled.append {f g : (Text → Option Manager) → Text} (head : IsSettled f)
    (tail : IsSettled g) : IsSettled fun find? => f find? ++ g find? := by
  intro first second
  change f first ++ g first = f second ++ g second
  rw [head first second, tail first second]

theorem IsSettled.map {f : (Text → Option Manager) → Text} (settled : IsSettled f)
    (g : Text → Text) : IsSettled fun find? => g (f find?) :=
  fun first second => congrArg g (settled first second)

private theorem isSettled_flatMap {α : Type} {f : (Text → Option Manager) → α → Text} {l : List α}
    (each : ∀ a ∈ l, IsSettled fun find? => f find? a) :
    IsSettled fun find? => l.flatMap (f find?) := by
  induction l with
  | nil => exact isSettled_const []
  | cons a l ih =>
    have tail := ih fun b member => each b (List.mem_cons_of_mem a member)
    exact (each a (List.mem_cons_self ..)).append tail

/-- A text without an `@` is only escaped. -/
theorem literal_of_no_at (find? : Text → Option Manager) {t : Text} (absent : '@' ∉ t) :
    literal find? t = Markup.escape t := by
  have cut : pieces t = verbatim t := by
    simpa [verbatim] using pieces_append_of_no_at absent []
  rw [literal, substitute_escape, cut, ← verbatim_escape, fill_verbatim]

private theorem isSettled_literal {t : Text} (absent : '@' ∉ t) :
    IsSettled fun find? => literal find? t := by
  intro first second
  change literal first t = literal second t
  rw [literal_of_no_at first absent, literal_of_no_at second absent]

variable (source : Text)

/-- The text that an element shows is settled with the literals in it. -/
theorem isSettled_literals {children : List Inline}
    (quiet : AreQuiet (inInlines source Surroundings.running.element children)) :
    IsSettled fun find? => literal find? (Inline.literals children) :=
  isSettled_literal (at_not_mem_literals source children _ rfl quiet)

mutual

private theorem inline_isSettled : ∀ i : Inline, AreQuiet (inInline source .running i) →
    IsSettled fun find? => inline find? source i
  | .text _, quiet => isSettled_literal (areQuiet_singleton quiet rfl)
  | .softBreak, _ => isSettled_const ['\n']
  | .hardBreak, _ => isSettled_const ['\n']
  | .code _, quiet =>
    (isSettled_literal (areQuiet_singleton quiet rfl)).map fun t => '\x60' :: t ++ ['\x60']
  | .html _, quiet => isSettled_literal (areQuiet_singleton quiet rfl)
  | .emphasis _, quiet => (isSettled_literals source quiet).map Markup.italic
  | .strong _, quiet => (isSettled_literals source quiet).map Markup.bold
  | .strikethrough children, quiet => inlines_isSettled children [] List.not_mem_nil quiet
  | .link url start children, quiet => by
    simp only [inline]
    split
    · exact isSettled_const _
    · rename_i explicit
      rw [inInline, if_neg explicit] at quiet
      exact (isSettled_literals source quiet).map (Markup.inlineLink url)
  | .image _ children, quiet => inlines_isSettled children [] List.not_mem_nil quiet

private theorem inlines_isSettled : ∀ (is : List Inline) (pending : Text), '@' ∉ pending →
    AreQuiet (inInlines source .running is) →
      IsSettled fun find? => inlines find? source pending is
  | [], _, absent, _ => isSettled_literal absent
  | i :: is, pending, absent, quiet => by
    obtain ⟨here, later⟩ := areQuiet_append.mp quiet
    have head := inline_isSettled i here
    have tail := inlines_isSettled is
    cases i with
    | text t =>
      have joined : '@' ∉ pending ++ t := by
        rw [List.mem_append, not_or]
        exact ⟨absent, areQuiet_singleton here rfl⟩
      exact tail (pending ++ t) joined later
    | _ => exact ((isSettled_literal absent).append head).append (tail [] List.not_mem_nil later)

end

mutual

private theorem block_isSettled : ∀ b : Block (List Inline), AreQuiet (inBlock source b) →
    IsSettled fun find? => block find? source b
  | .paragraph content, quiet => inlines_isSettled source content [] List.not_mem_nil quiet
  | .heading _ _, quiet => (isSettled_literals source quiet).map Markup.bold
  | .code _, quiet => isSettled_literal (areQuiet_singleton quiet rfl)
  | .html _, quiet => isSettled_literal (areQuiet_singleton quiet rfl)
  | .thematicBreak, _ => isSettled_const []
  | .quote children, quiet => blocks_isSettled children quiet
  | .list _ children, quiet => items_isSettled children quiet
  | .table _, quiet => isSettled_flatMap fun _ row => isSettled_flatMap fun cell member =>
    inlines_isSettled source cell [] List.not_mem_nil
      ((quiet.of_mem_flatMap row).of_mem_flatMap member)

private theorem blocks_isSettled :
    ∀ bs : List (Block (List Inline)), AreQuiet (inBlocks source bs) →
    IsSettled fun find? => blocks find? source bs
  | [], _ => isSettled_const []
  | b :: bs, quiet =>
    (block_isSettled b (areQuiet_append.mp quiet).1).append
      (blocks_isSettled bs (areQuiet_append.mp quiet).2)

private theorem item_isSettled : ∀ i : Item (List Inline), AreQuiet (inItem source i) →
    IsSettled fun find? => item find? source i
  | .plain _ children, quiet => blocks_isSettled children quiet
  | .task children, quiet => blocks_isSettled children quiet

private theorem items_isSettled : ∀ is : List (Item (List Inline)), AreQuiet (inItems source is) →
    IsSettled fun find? => items find? source is
  | [], _ => isSettled_const []
  | i :: is, quiet =>
    (item_isSettled i (areQuiet_append.mp quiet).1).append
      (items_isSettled is (areQuiet_append.mp quiet).2)

end

mutual

private theorem nested_isSettled (offset : Nat) : ∀ b : Block (List Inline),
    AreQuiet (inBlock source b) → IsSettled fun find? => nested find? source offset b
  | .list style children, quiet => nestedItems_isSettled style offset children quiet
  | .paragraph content, quiet => block_isSettled source (.paragraph content) quiet
  | .heading level content, quiet => block_isSettled source (.heading level content) quiet
  | .code t, quiet => block_isSettled source (.code t) quiet
  | .html t, quiet => block_isSettled source (.html t) quiet
  | .thematicBreak, _ => isSettled_const []
  | .quote children, quiet => block_isSettled source (.quote children) quiet
  | .table rows, quiet => block_isSettled source (.table rows) quiet

private theorem nestedItems_isSettled (style : ListStyle) (offset : Nat) :
    ∀ is : List (Item (List Inline)), AreQuiet (inItems source is) →
      IsSettled fun find? => nestedItems find? source style offset is
  | [], _ => isSettled_const []
  | i :: is, quiet => by
    obtain ⟨here, later⟩ := areQuiet_append.mp quiet
    have head := itemLines_isSettled style offset i here
    have tail := nestedItems_isSettled style offset is later
    have line := head.map (List.replicate offset ' ' ++ style.marker :: ·)
    cases is with
    | nil => exact line
    | cons j js => exact line.append (tail.map ('\n' :: ·))

private theorem itemLines_isSettled (style : ListStyle) (offset : Nat) : ∀ i : Item (List Inline),
    AreQuiet (inItem source i) → IsSettled fun find? => itemLines find? source style offset i
  | .plain padding children, quiet =>
    childLines_isSettled (blocks_isSettled source children quiet) (offset + padding) children quiet
  | .task children, quiet =>
    childLines_isSettled (blocks_isSettled source children quiet) (offset + style.padding) children
      quiet

private theorem childLines_isSettled {whole : (Text → Option Manager) → Text}
    (settled : IsSettled whole)
    (offset : Nat) : ∀ bs : List (Block (List Inline)), AreQuiet (inBlocks source bs) →
      IsSettled fun find? => childLines find? source (whole find?) offset bs
  | [], _ => isSettled_const []
  | b :: bs, quiet => by
    obtain ⟨here, later⟩ := areQuiet_append.mp quiet
    have inside := nested_isSettled offset b here
    have tail := childLines_isSettled settled offset bs later
    have head : IsSettled fun find? =>
        if isRaw b then whole find? else nested find? source offset b := by
      split
      · exact settled
      · exact inside
    cases bs with
    | nil => exact head
    | cons c cs => exact head.append (tail.map ('\n' :: ·))

end

/-- A block of a message is the same whoever is known if the block of the document is quiet. -/
theorem messageBlock_eq_of_areQuiet {b : Block (List Inline)} (quiet : AreQuiet (inBlock source b))
    (first second : Text → Option Manager) :
    messageBlock first source b = messageBlock second source b := by
  have running := block_isSettled source b quiet first second
  cases b with
  | list style children =>
    rw [inBlock, inItems_eq_flatMap] at quiet
    refine congrArg MessageBlock.bullets (List.map_congr_left fun i member => ?_)
    have entry := itemLines_isSettled source style 0 i (quiet.of_mem_flatMap member)
    exact congrArg MessageBlock.text (entry first second)
  | code t => rfl
  | _ => exact congrArg MessageBlock.text running

end Rendering

open Rendering Leaf

/-- Who is known has no part in a message if there is no `@` in the document but in URLs that are
shown as links: those that stand in no emphasis, strong emphasis, heading or link with a text of its
own. -/
theorem convert_autolinks (find? : Text → Option Manager) {source : Text}
    (quiet : ∀ leaf ∈ inBlocks source (Markdown.read source),
      (leaf.around.inUrl = false ∨ leaf.around.inElement = true) → '@' ∉ leaf.literal) :
    convert find? source = convert Directory.empty.find? source := by
  have areQuiet : AreQuiet (inBlocks source (Markdown.read source)) := by
    intro leaf member searched
    apply quiet leaf member
    simpa [Surroundings.isSearched] using searched
  rw [inBlocks_eq_flatMap] at areQuiet
  refine List.map_congr_left fun b member => ?_
  exact messageBlock_eq_of_areQuiet source (areQuiet.of_mem_flatMap member) find? _

/-- URLs in struck text, a quote, an item and the cell of a table, next to elements. -/
theorem convert_autolinks_enclosed :
    let jo := Directory.ofList [⟨"7".toList, "Jo".toList, none, some "jo".toList, none⟩]
    let source := "- > ~~http://a.io/@jo~~ **b**\n\n|www.a.io/@jo|*c*|\n|-|-|".toList
    (∀ leaf ∈ inBlocks source (Markdown.read source),
      (leaf.around.inUrl = false ∨ leaf.around.inElement = true) → '@' ∉ leaf.literal) ∧
    convert jo.find? source = convert Directory.empty.find? source := by
  intro jo source
  have quiet : ∀ leaf ∈ inBlocks source (Markdown.read source),
      (leaf.around.inUrl = false ∨ leaf.around.inElement = true) → '@' ∉ leaf.literal := by
    decide +kernel
  exact ⟨quiet, convert_autolinks jo.find? quiet⟩

/-- A heading shows a URL as text, and the mention in it is one. -/
theorem convert_autolink_inHeading :
    let jo := Directory.ofList [⟨"7".toList, "Jo".toList, none, some "jo".toList, none⟩]
    let source := "# https://m.io/@jo".toList
    (∀ leaf ∈ inBlocks source (Markdown.read source),
      leaf.around.inUrl = false → '@' ∉ leaf.literal) ∧
    convert jo.find? source ≠ convert Directory.empty.find? source := by
  intro jo source
  have known : MessageBlock.textsOf (convert jo.find? source) =
      ["<b>https://m.io/<link type=\"manager\" value=\"7\">Jo</link></b>".toList] := by
    decide +kernel
  have unknown : MessageBlock.textsOf (convert Directory.empty.find? source) =
      ["<b>https://m.io/@jo</b>".toList] := by
    decide +kernel
  refine ⟨by decide +kernel, fun same => ?_⟩
  rw [same, unknown] at known
  exact absurd known (by decide)

end Chatdown
