import Chatdown.Conversion
import Chatdown.Proofs.Markdown.ListMarkers
import Chatdown.Proofs.Markup.Visible
import Chatdown.Proofs.Mention.LowerNames
import Chatdown.Proofs.Rendering.Spans

/-! # What a directory has a part in

A source fixes a template of its message, in which some tokens are left open. Filling them is all
that managers are needed for: no tag holds a token, so that neither links nor the shape of the
message depend on who is known, and what is filled in is not read again. Two directories that
answer alike for all names that can be asked for are therefore one and the same.
-/

namespace Chatdown

namespace Mention

open Markup

/-- Tests whether no token stands inside a tag, and no tag is left open; `inTag` says whether the
pieces begin inside a tag. -/
def tokensOutsideTags (inTag : Bool) : List Piece → Bool
  | [] => !inTag
  | .char c :: pieces => tokensOutsideTags (if inTag then c != '>' else c == '<') pieces
  | .token _ :: pieces => !inTag && tokensOutsideTags inTag pieces

private theorem tokensOutsideTags_append {inTag : Bool} {first second : List Piece}
    (head : tokensOutsideTags inTag first = true) (tail : tokensOutsideTags false second = true) :
    tokensOutsideTags inTag (first ++ second) = true := by
  induction first generalizing inTag with
  | nil =>
    cases inTag with
    | false => exact tail
    | true => cases head
  | cons piece first ih =>
    cases piece with
    | char c => exact ih head
    | token name =>
      simp only [tokensOutsideTags, Bool.and_eq_true] at head
      simp only [List.cons_append, tokensOutsideTags, Bool.and_eq_true]
      exact ⟨head.1, ih head.2⟩

/-- A tag is no place for tokens, whatever is written in it. -/
theorem tokensOutsideTags_tag (tag : Text) (inside : '>' ∉ tag) :
    tokensOutsideTags false (verbatim ('<' :: tag ++ ['>'])) = true := by
  have closed : tokensOutsideTags true (verbatim (tag ++ ['>'])) = true := by
    induction tag with
    | nil => rfl
    | cons c tag ih =>
      simp only [List.mem_cons, not_or] at inside
      have more : (c != '>') = true := bne_iff_ne.mpr fun same => inside.1 same.symm
      change tokensOutsideTags (c != '>') (verbatim (tag ++ ['>'])) = true
      rw [more]
      exact ih inside.2
  exact closed

private theorem tokensOutsideTags_escaped (piece : Piece) :
    tokensOutsideTags false piece.escaped = true := by
  cases piece with
  | token name => rfl
  | char c =>
    rw [Piece.escaped]
    cases special : isSpecial c with
    | true => rcases isSpecial_iff.mp special with rfl | rfl | rfl | rfl <;> decide
    | false =>
      have notLess : (c == '<') = false := by
        rw [beq_eq_false_iff_ne]
        rintro rfl
        exact absurd special (by decide)
      rw [escapeChar_of_ordinary special]
      simp only [List.map_cons, List.map_nil, tokensOutsideTags, notLess, Bool.false_eq_true,
        if_false, Bool.not_false]

theorem HasNames.append {first second : List Piece} (head : HasNames first)
    (tail : HasNames second) : HasNames (first ++ second) := by
  intro name member
  rcases List.mem_append.mp member with member | member
  · exact head name member
  · exact tail name member

theorem HasNames.escaped {content : List Piece} (names : HasNames content) :
    HasNames (content.flatMap Piece.escaped) := by
  intro name member
  obtain ⟨piece, inside, written⟩ := List.mem_flatMap.mp member
  cases piece with
  | char c => exact hasNames_verbatim (escapeChar c) name written
  | token other =>
    rw [Piece.escaped, List.mem_singleton] at written
    cases written
    exact names name inside

/-- Pieces that may be left open in a message: names to look up, and none of them in a tag. -/
def IsOpen (pieces : List Piece) : Prop :=
  HasNames pieces ∧ tokensOutsideTags false pieces = true

theorem IsOpen.append {first second : List Piece} (head : IsOpen first) (tail : IsOpen second) :
    IsOpen (first ++ second) :=
  ⟨head.1.append tail.1, tokensOutsideTags_append head.2 tail.2⟩

theorem IsOpen.flatMap {α : Type} {f : α → List Piece} {l : List α}
    (each : ∀ a ∈ l, IsOpen (f a)) : IsOpen (l.flatMap f) :=
  closed_flatMap ⟨hasNames_verbatim [], rfl⟩ .append each

private theorem isOpen_tag (tag : Text) (inside : '>' ∉ tag) :
    IsOpen (verbatim ('<' :: tag ++ ['>'])) :=
  ⟨hasNames_verbatim _, tokensOutsideTags_tag tag inside⟩

private theorem isOpen_escaped {content : List Piece} (names : HasNames content) :
    IsOpen (content.flatMap Piece.escaped) := by
  have outside : tokensOutsideTags false (content.flatMap Piece.escaped) = true :=
    closed_flatMap (P := (tokensOutsideTags false · = true)) rfl tokensOutsideTags_append
      fun piece _ => tokensOutsideTags_escaped piece
  exact ⟨names.escaped, outside⟩

end Mention

namespace Rendering

open Mention

theorem Span.isOpen_written {s : Span} (names : HasNames s.content) : IsOpen s.written := by
  have content := isOpen_escaped names
  cases s with
  | flat pieces => exact content
  | bold pieces =>
    have opening : IsOpen (verbatim "<b>".toList) := isOpen_tag ['b'] (by decide)
    have closing : IsOpen (verbatim "</b>".toList) := isOpen_tag ['/', 'b'] (by decide)
    exact (opening.append content).append closing
  | italic pieces =>
    have opening : IsOpen (verbatim "<i>".toList) := isOpen_tag ['i'] (by decide)
    have closing : IsOpen (verbatim "</i>".toList) := isOpen_tag ['/', 'i'] (by decide)
    exact (opening.append content).append closing
  | link url pieces =>
    have noGreater : '>' ∉ Markup.escape url := Markup.not_mem_escape rfl (by decide) url
    have opening : IsOpen (verbatim ("<link type=\"url\" value=\"".toList ++ Markup.escape url ++
        "\">".toList)) := by
      have tag := isOpen_tag ("link type=\"url\" value=\"".toList ++ Markup.escape url ++ ['"'])
        (by simp [noGreater])
      simpa using tag
    have closing : IsOpen (verbatim "</link>".toList) := isOpen_tag "/link".toList (by decide)
    exact (opening.append content).append closing

/-- A block of a message in which tokens are left open. -/
inductive Template where
  | text (markup : List Piece)
  | code (language : Option Text) (value : Text)
  | bullets (entries : List (List Piece))
  deriving DecidableEq, Repr

namespace Template

/-- Markup with its characters as they are, and with links to managers in the place of the tokens
whose names are known in lower case. -/
def filled (find? : Text → Option Manager) : List Piece → Text
  | [] => []
  | .char c :: markup => c :: filled find? markup
  | .token name :: markup =>
    (match find? name.lower with
      | some m =>
        "<link type=\"manager\" value=\"".toList ++ Markup.escape m.id ++ "\">".toList ++ m.name ++
          "</link>".toList
      | none => '@' :: name) ++ filled find? markup

/-- The block that a template becomes when names are looked up by `find?`. -/
def fill (find? : Text → Option Manager) : Template → MessageBlock
  | text markup => .text (filled find? markup)
  | code language value => .code language value
  | bullets entries => .bullets (entries.map fun markup => .text (filled find? markup))

def texts : Template → List (List Piece)
  | text markup => [markup]
  | code _ _ => []
  | bullets entries => entries

/-- Templates that are open for names, and for them outside of tags only. -/
def IsOpen (template : Template) : Prop := ∀ pieces ∈ template.texts, Mention.IsOpen pieces

private theorem filled_eq_fill (find? : Text → Option Manager) (markup : List Piece) :
    filled find? markup = Mention.fill find? markup := by
  induction markup with
  | nil => rfl
  | cons piece markup ih =>
    rw [Mention.fill, List.flatMap_cons, ← Mention.fill, ← ih]
    cases piece with
    | char c => rfl
    | token name =>
      cases found : find? name.lower with
      | none => simp only [filled, Piece.fill, found]
      | some m => simp only [filled, Piece.fill, found, Markup.mention_manager_eq]

/-- Markup becomes the same text for all who agree on lower-case names. -/
theorem filled_congr {first second : Text → Option Manager}
    (agree : ∀ name, IsLowerName name → first name = second name) {markup : List Piece}
    (names : HasNames markup) : filled first markup = filled second markup := by
  induction markup with
  | nil => rfl
  | cons piece markup ih =>
    have rest := ih fun name member => names name (List.mem_cons_of_mem piece member)
    cases piece with
    | char c => exact congrArg (c :: ·) rest
    | token name =>
      have known := names name (List.mem_cons_self ..)
      rw [filled, filled, rest, agree name.lower known.isLowerName_lower]

private theorem fill_congr {first second : Text → Option Manager}
    (agree : ∀ name, IsLowerName name → first name = second name) {template : Template}
    (isOpen : template.IsOpen) : template.fill first = template.fill second := by
  cases template with
  | text markup =>
    rw [fill, fill, filled_congr agree (isOpen markup (List.mem_cons_self ..)).1]
  | code language value => rfl
  | bullets entries =>
    have each : ∀ markup ∈ entries,
        MessageBlock.text (filled first markup) = .text (filled second markup) :=
      fun markup member => congrArg MessageBlock.text (filled_congr agree (isOpen markup member).1)
    rw [fill, fill, List.map_congr_left each]

end Template

/-- Markup with tokens left open is the same for all who look names up. -/
theorem HasSpans.exists_open {markup : (Text → Option Manager) → Text} (spans : HasSpans markup) :
    ∃ pieces, IsOpen pieces ∧ ∀ find?, markup find? = Template.filled find? pieces := by
  obtain ⟨spans, names, same⟩ := spans
  have isOpen : IsOpen (spans.flatMap Span.written) :=
    .flatMap fun s member => s.isOpen_written (names s member)
  refine ⟨spans.flatMap Span.written, isOpen, fun find? => ?_⟩
  rw [same, Template.filled_eq_fill]

/-- What can be chosen for each element before a parameter is known can be chosen for all. -/
private theorem exists_uniform_map {α β γ κ : Type} {f : κ → α → γ} {g : κ → β → γ}
    {P : β → Prop} {l : List α} (each : ∀ a ∈ l, ∃ b, P b ∧ ∀ k, f k a = g k b) :
    ∃ bs : List β, (∀ b ∈ bs, P b) ∧ ∀ k, l.map (f k) = bs.map (g k) := by
  induction l with
  | nil => exact ⟨[], by simp, fun _ => rfl⟩
  | cons a l ih =>
    obtain ⟨b, good, same⟩ := each a (List.mem_cons_self ..)
    obtain ⟨bs, goods, sames⟩ := ih fun other member => each other (List.mem_cons_of_mem a member)
    refine ⟨b :: bs, List.forall_mem_cons.mpr ⟨good, goods⟩, ?_⟩
    intro k
    rw [List.map_cons, List.map_cons, same, sames]

/-- Neither the kind of a block nor the number of its bullets depends on who is known. -/
theorem messageBlock_template (source : Text) (b : Block (List Inline))
    (ordinary : ∀ s ∈ ListStyle.inBlock b, Markup.isSpecial s.marker = false) :
    ∃ template : Template, template.IsOpen ∧
      ∀ find?, messageBlock find? source b = template.fill find? := by
  obtain ⟨running, isOpen, same⟩ := (block_hasSpans source b).exists_open
  have onlyRunning : (Template.text running).IsOpen := by
    intro pieces member
    rw [List.mem_singleton.mp member]
    exact isOpen
  cases b with
  | list style children =>
    -- Markers are ordinary, so that an entry has spans whatever list it comes from.
    have each : ∀ i ∈ children, ∃ pieces, Mention.IsOpen pieces ∧ ∀ find?,
        MessageBlock.text (itemLines find? source style 0 i) =
          .text (Template.filled find? pieces) := by
      intro i member
      have spans := itemLines_hasSpans source style 0 i fun s inside =>
        ordinary s (List.mem_cons_of_mem style (ListStyle.mem_inItems.mpr ⟨i, member, inside⟩))
      obtain ⟨pieces, isOpen, same⟩ := spans.exists_open
      exact ⟨pieces, isOpen, fun find? => congrArg MessageBlock.text (same find?)⟩
    obtain ⟨entries, isOpen, same⟩ := exists_uniform_map each
    exact ⟨.bullets entries, isOpen, fun find? => congrArg MessageBlock.bullets (same find?)⟩
  | code literal =>
    exact ⟨.code none literal, fun _ member => absurd member (List.not_mem_nil), fun _ => rfl⟩
  | _ => exact ⟨.text running, onlyRunning, fun find? => congrArg MessageBlock.text (same find?)⟩

private theorem messageBlocks_template (source : Text) (document : Document)
    (ordinary : ∀ s ∈ ListStyle.inBlocks document, Markup.isSpecial s.marker = false) :
    ∃ templates : List Template, (∀ t ∈ templates, t.IsOpen) ∧
      ∀ find?, messageBlocks find? source document = templates.map (Template.fill find?) :=
  exists_uniform_map fun b member => messageBlock_template source b fun s inside =>
    ordinary s (ListStyle.mem_inBlocks.mpr ⟨b, member, inside⟩)

end Rendering

open Mention Rendering

/-- A source fixes all of its message but the tokens that are left open in a template, and so
directories that agree on lower-case names give the same message. Nobody is known to a directory
that is empty or absent. -/
theorem convert_template (source : Text) :
    (∃ templates : List Template, (∀ t ∈ templates, t.IsOpen) ∧
      ∀ find?, convert find? source = templates.map (Template.fill find?)) ∧
    (∀ first second : Text → Option Manager,
      (∀ name, IsLowerName name → first name = second name) →
        convert first source = convert second source) ∧
    ∀ d? : Option Directory, (∀ d ∈ d?, d.isEmpty) →
      convert (fun name => d?.bind (·.find? name)) source = convert (fun _ => none) source := by
  have ordinary : ∀ s ∈ ListStyle.inBlocks (Markdown.read source),
      Markup.isSpecial s.marker = false := fun s member =>
    Markdown.isSpecial_of_listMarker (Markdown.read_listMarkers source s member)
  obtain ⟨templates, isOpen, filled⟩ := messageBlocks_template source _ ordinary
  refine ⟨⟨templates, isOpen, filled⟩, ?_, ?_⟩
  · intro first second agree
    rw [convert, convert, filled, filled]
    exact List.map_congr_left fun t member => t.fill_congr agree (isOpen t member)
  · intro d? nobody
    have unknown : (fun name => d?.bind (·.find? name)) = fun _ => none := by
      funext name
      cases d? with
      | none => rfl
      | some d =>
        have empty : d.entries = [] := List.isEmpty_iff.mp (nobody d rfl)
        simp only [Option.bind_some, Directory.find?, empty, List.lookup_nil]
    rw [unknown]

/-- A key that is not in lower case is never asked for, and nobody is listed in no directory. -/
theorem convert_template_capital :
    let jo := Manager.ofIdentity "7".toList "Jo".toList
    let small : Directory := ⟨[("jo".toList, jo)], by decide⟩
    let both : Directory :=
      ⟨[("jo".toList, jo), ("Jo".toList, Manager.ofIdentity [] "@jo".toList)], by decide⟩
    let source := "- [@JO](/@jo)\n\n`@Jo`".toList
    ((∀ name, IsLowerName name → small.find? name = both.find? name) ∧
      convert small.find? source = convert both.find? source) ∧
    (∀ d ∈ some Directory.empty, d.isEmpty) ∧
      convert (fun name => (some Directory.empty).bind (·.find? name)) source =
        convert (fun _ => none) source := by
  intro jo small both source
  have agree : ∀ name, IsLowerName name → small.find? name = both.find? name := by
    intro name lower
    have notCapital : (name == "Jo".toList) = false := by
      rw [beq_eq_false_iff_ne]
      rintro rfl
      exact absurd (lower.2 'J' (by decide)) (by decide)
    simp only [small, both, Directory.find?, List.lookup_cons, List.lookup_nil, notCapital]
  have empty : ∀ d ∈ some Directory.empty, d.isEmpty := by decide
  have known := convert_template source
  exact ⟨⟨agree, known.2.1 _ _ agree⟩, empty, known.2.2 _ empty⟩

end Chatdown
