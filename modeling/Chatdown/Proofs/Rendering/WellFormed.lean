import Chatdown.Conversion
import Chatdown.Proofs.Markdown.ListMarkers
import Chatdown.Proofs.Rendering.Spans

/-! # Rendered markup is well formed

Every span of rendered markup is an element or flat text of the grammar, whatever the document
holds. Only the names of managers go into markup as they are, and so they have to be ordinary text;
the same is asked of the markers that a tree gives to its lists, and a document that has been read
has no others.
-/

namespace Chatdown

namespace MessageBlock

mutual

/-- The markup in a block and, for bullets, in the blocks inside. -/
def texts : MessageBlock → List Text
  | .text value => [value]
  | .code _ _ => []
  | .bullets blocks => textsOf blocks

def textsOf : List MessageBlock → List Text
  | [] => []
  | b :: bs => texts b ++ textsOf bs

end

private theorem mem_textsOf {t : Text} {bs : List MessageBlock} :
    t ∈ textsOf bs ↔ ∃ b ∈ bs, t ∈ b.texts := by
  induction bs with
  | nil => simp [textsOf]
  | cons b bs ih => simp [textsOf, ih]

end MessageBlock

namespace Mention

open Markup

variable {find? : Text → Option Manager}

/-- A token that nobody is known by stays, and its characters are ordinary. -/
theorem isFlat_fill_token (ordinary : NamesOrdinary find?) {name : Text} (known : IsName name) :
    IsFlat (Piece.fill find? (.token name)) := by
  simp only [Piece.fill]
  split
  · rename_i m found
    have plainName := IsPlain.of_ordinary (ordinary _ m found)
    rw [mention_manager_eq, ← List.append_nil (_ ++ "</link>".toList)]
    exact .mention (isPlain_escape m.id) plainName .nil
  · refine (IsPlain.char (by decide) (.of_ordinary fun c member => ?_)).isFlat
    exact isSpecial_of_isNameChar (known.2 c member)

/-- Literal text is flat once it has been escaped and its tokens have been filled. -/
theorem isFlat_fill_escaped (ordinary : NamesOrdinary find?) {content : List Piece}
    (names : HasNames content) : IsFlat (fill find? (content.flatMap Piece.escaped)) := by
  rw [fill, List.flatMap_assoc]
  apply IsFlat.flatMap
  intro piece member
  cases piece with
  | char c =>
    change IsFlat (fill find? (verbatim (escapeChar c)))
    rw [fill_verbatim, ← List.append_nil (escapeChar c)]
    exact (isPlain_escape [c]).isFlat
  | token name =>
    simpa only [Piece.escaped, List.flatMap_cons, List.flatMap_nil, List.append_nil]
      using isFlat_fill_token ordinary (names name member)

end Mention

namespace Rendering

open Markup Mention

variable {find? : Text → Option Manager}

private theorem isWellFormed_fill_written (ordinary : NamesOrdinary find?) {s : Span}
    (names : HasNames s.content) : IsWellFormed (fill find? s.written) := by
  have content := isFlat_fill_escaped ordinary names
  cases s with
  | flat pieces => exact content.isWellFormed
  | bold pieces =>
    simpa only [Span.written, Span.content, fill_append, fill_verbatim, List.append_nil]
      using IsWellFormed.bold content .nil
  | italic pieces =>
    simpa only [Span.written, Span.content, fill_append, fill_verbatim, List.append_nil]
      using IsWellFormed.italic content .nil
  | link url pieces =>
    simpa only [Span.written, Span.content, fill_append, fill_verbatim, List.append_nil]
      using IsWellFormed.link (isPlain_escape url) content .nil

theorem HasSpans.isWellFormed {markup : (Text → Option Manager) → Text} (spans : HasSpans markup)
    (ordinary : NamesOrdinary find?) : IsWellFormed (markup find?) := by
  obtain ⟨spans, names, same⟩ := spans
  rw [same, fill, List.flatMap_assoc]
  exact .flatMap fun s member => isWellFormed_fill_written ordinary (names s member)

/-- The markup of a block at the top is well formed, and so is that of each of its bullets. -/
theorem messageBlock_isWellFormed (ordinary : NamesOrdinary find?) (source : Text)
    (b : Block (List Inline))
    (markers : ∀ s ∈ ListStyle.inBlock b, isSpecial s.marker = false) :
    ∀ t ∈ (messageBlock find? source b).texts, IsWellFormed t := by
  intro t member
  have running := (block_hasSpans source b).isWellFormed ordinary
  cases b with
  | list style children =>
    obtain ⟨entry, isEntry, inEntry⟩ := MessageBlock.mem_textsOf.mp member
    obtain ⟨i, isItem, rfl⟩ := List.mem_map.mp isEntry
    rw [List.mem_singleton.mp inEntry]
    refine (itemLines_hasSpans source style 0 i fun s inside => ?_).isWellFormed ordinary
    exact markers s (List.mem_cons_of_mem style (ListStyle.mem_inItems.mpr ⟨i, isItem, inside⟩))
  | code literal => exact absurd member (List.not_mem_nil)
  | _ =>
    rw [List.mem_singleton.mp member]
    exact running

end Rendering

open Markup Mention Rendering

/-- All markup of a message is well formed, for any tree and, with no condition on its lists, for
any source that is converted. -/
theorem texts_isWellFormed {find? : Text → Option Manager} (ordinary : NamesOrdinary find?)
    (source : Text) :
    (∀ document : Document, (∀ s ∈ ListStyle.inBlocks document, isSpecial s.marker = false) →
      ∀ b ∈ messageBlocks find? source document, ∀ t ∈ b.texts, IsWellFormed t) ∧
    ∀ b ∈ convert find? source, ∀ t ∈ b.texts, IsWellFormed t := by
  have rendered : ∀ document : Document,
      (∀ s ∈ ListStyle.inBlocks document, isSpecial s.marker = false) →
        ∀ b ∈ messageBlocks find? source document, ∀ t ∈ b.texts, IsWellFormed t := by
    intro document markers b member
    obtain ⟨node, isNode, rfl⟩ := List.mem_map.mp member
    refine messageBlock_isWellFormed ordinary source node fun s inside => ?_
    exact markers s (ListStyle.mem_inBlocks.mpr ⟨node, isNode, inside⟩)
  refine ⟨rendered, rendered (Markdown.read source) fun s member => ?_⟩
  exact Markdown.isSpecial_of_listMarker (Markdown.read_listMarkers source s member)

/-- An item whose text looks like markup, in a list inside another item. -/
theorem texts_isWellFormed_nested :
    let jo := Directory.ofList [⟨"7\"".toList, "Jo".toList, none, some "Jo".toList, none⟩]
    let document : Document := [.list ⟨'-', 2⟩ [.plain 2
      [.paragraph [.text "<b>@jo".toList],
        .list ⟨'.', 3⟩ [.task [.paragraph [.link "\">".toList none [.code "&".toList]]]]]]]
    NamesOrdinary jo.find? ∧
      (∀ s ∈ ListStyle.inBlocks document, isSpecial s.marker = false) ∧
      ∀ b ∈ messageBlocks jo.find? [] document, ∀ t ∈ b.texts, IsWellFormed t := by
  intro jo document
  have ordinary : NamesOrdinary jo.find? := namesOrdinary_of_entries (by decide)
  have markers : ∀ s ∈ ListStyle.inBlocks document, isSpecial s.marker = false := by decide
  exact ⟨ordinary, markers, (texts_isWellFormed ordinary []).1 document markers⟩

end Chatdown
