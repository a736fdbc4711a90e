import Chatdown.Conversion
import Chatdown.Proofs.GitHub.IssuePages
import Chatdown.Proofs.Markdown.InlineLinks
import Chatdown.Proofs.Markdown.Lines
import Chatdown.Proofs.Markdown.OpenBlocks
import Chatdown.Proofs.Rendering.SourceLines
import Chatdown.Proofs.Rendering.Spans
import Chatdown.Proofs.Rendering.TextLeaves

/-! # Explicit links to themselves

A link that shows its own URL may have been written as a bare URL or in brackets, and only a bare
URL is shown by a short name. The two are told apart by the source: brackets are found if the URL
stands between them as it is, and they are missed if there are backslashes in it.
-/

namespace Chatdown

namespace Rendering

open Markdown

/-- A line is the only line of its source. -/
theorem sourceLines_line {l : Text} (isLine : IsLine l) (start : Text)
    (nonempty : start ≠ [] ∨ l ≠ []) : sourceLines start l = [start.reverse ++ l] := by
  have within : ∀ c ∈ l, c ≠ '\n' ∧ c ≠ '\r' := fun c member =>
    ⟨(isLine c member).1, (isLine c member).2.1⟩
  have whole := isLineReader_sourceLines.append within start []
  have begun : l.reverse ++ start ≠ [] := by
    intro same
    obtain ⟨none, first⟩ := List.append_eq_nil_iff.mp same
    exact nonempty.elim (absurd first) (absurd (List.reverse_eq_nil_iff.mp none))
  rw [List.append_nil, List.map_id, isLineReader_sourceLines.ending, if_neg begun,
    List.reverse_append, List.reverse_reverse] at whole
  exact whole

/-- Brackets are found around a URL if no backslash is between them. -/
theorem isBracketed_iff {s url after : Text} (isUrl : IsUrl url) (spelled : Spells s url)
    (isLine : IsLine ('[' :: (s ++ ']' :: after))) :
    isBracketed ('[' :: (s ++ ']' :: after)) (some ⟨1, 1⟩) url = true ↔ s = url := by
  have noBracket : ']' ∉ url := isUrl.not_mem (by decide)
  have noBracketBetween : ']' ∉ s := spelled.not_mem (by decide) noBracket
  have stops (rest : Text) : ∀ c ∈ (']' :: rest).head?, (c != ']') = false := by simp
  have between {t : Text} (none : ']' ∉ t) (rest : Text) :
      (t ++ ']' :: rest).takeWhile (· != ']') = t :=
    Text.takeWhile_run (fun c member => bne_iff_ne.mpr fun same => none (same ▸ member))
      (stops rest)
  have lines := sourceLines_line isLine [] (.inr (List.cons_ne_nil _ _))
  simp only [isBracketed, lines, List.reverse_nil, List.nil_append]
  change (('[' :: url) ++ [']']).isPrefixOf ('[' :: (s ++ ']' :: after)) = true ↔ s = url
  rw [List.isPrefixOf_iff_prefix]
  constructor
  · rintro ⟨rest, same⟩
    have inside : url ++ ']' :: rest = s ++ ']' :: after := by simpa using same
    rw [← between noBracketBetween after, ← inside, between noBracket rest]
  · rintro rfl
    exact ⟨after, by simp⟩

section

variable (find? : Text → Option Manager)

theorem literal_nil : literal find? [] = [] := by
  rw [literal, Markup.escape_nil, Mention.substitute, Mention.pieces_nil, List.flatMap_nil]

private theorem literal_url {url : Text} (isUrl : IsUrl url) : literal find? url = url := by
  have cut := Mention.pieces_append_of_no_at (isUrl.not_mem (by decide)) []
  rw [List.append_nil, Mention.pieces_nil, List.append_nil] at cut
  rw [literal, Markup.escape_of_class isUrl.2 (by decide), Mention.substitute, cut]
  exact Mention.fill_verbatim find? url

/-- A link that shows its own URL is shortened if the URL is not in brackets. -/
theorem inline_ownUrl {source url : Text} {start : Option Position} {children : List Inline}
    (shown : Inline.literals children = url) :
    inline find? source (.link url start children) =
      Markup.inlineLink url (if isBracketed source start url then literal find? url
        else Markup.escape (GitHub.shown url)) := by
  have itself : showsItself url url = true := by simp [showsItself]
  rw [inline, isAutolink, shown, itself, Bool.true_and]
  cases isBracketed source start url with
  | true => rfl
  | false => rfl

/-- A link in brackets that shows its own URL. -/
theorem inline_link {s url after : Text} (isUrl : IsUrl url) (spelled : Spells s url)
    (isLine : IsLine ('[' :: (s ++ ']' :: after))) {texts : List Text}
    (shown : texts.flatten = url) :
    inline find? ('[' :: (s ++ ']' :: after)) (.link url (some ⟨1, 1⟩) (texts.map .text)) =
      Markup.inlineLink url (if s = url then url else Markup.escape (GitHub.shown url)) := by
  have bracketed := isBracketed_iff isUrl spelled isLine
  rw [inline_ownUrl find? ((Inline.literals_texts texts).trans shown)]
  by_cases plain : s = url
  · rw [if_pos (bracketed.mpr plain), if_pos plain, literal_url find? isUrl]
  · rw [if_neg (mt bracketed.mp plain), if_neg plain]

/-- A link that is a paragraph of its own, between texts that are empty. -/
theorem messageBlocks_link (source url : Text) (start : Option Position) (children : List Inline) :
    messageBlocks find? source [.paragraph [.text [], .link url start children, .text []]] =
      [.text (inline find? source (.link url start children))] := by
  have running : inlines find? source [] [.text [], .link url start children, .text []] =
      literal find? [] ++ inline find? source (.link url start children) ++ literal find? [] := rfl
  rw [literal_nil, List.nil_append, List.append_nil] at running
  exact congrArg (fun markup => [MessageBlock.text markup]) running

end

end Rendering

open Markdown

private theorem isLine_spelled {s url : Text} (isUrl : IsUrl url) (spelled : Spells s url) :
    IsLine s := by
  intro c member
  refine ⟨?_, ?_, ?_⟩ <;> rintro rfl <;>
    exact spelled.not_mem (by decide) (isUrl.not_mem (by decide)) member

/-- The source of a link is one paragraph. -/
theorem ofLines_link {s url : Text} (isUrl : IsUrl url) (spelled : Spells s url) :
    Outline.ofLines ['[' :: (s ++ ']' :: '(' :: (url ++ [')']))] =
      ⟨[.paragraph ⟨'[' :: (s ++ ']' :: '(' :: (url ++ [')'])) ++ ['\n'], 1, [0]⟩], [], none,
        .empty, 1⟩ := by
  have inert : IsInert ('[' :: (s ++ ']' :: '(' :: (url ++ [')']))) := by
    constructor
    · rintro c ⟨⟩
      decide
    · rintro c ⟨⟩
      decide
  have noDefinition := LinkDefinition.readAll_link .empty spelled isUrl.2 (url ++ [')'] ++ ['\n'])
  refine Outline.ofLines_paragraph inert (List.cons_ne_nil _ _) (by simp) ?_
  simpa using noDefinition

/-- A link in brackets to the URL that it shows, which has backslashes before some symbols: without
backslashes the whole URL is shown, and with them its short name. -/
theorem convert_link (find? : Text → Option Manager) {s url : Text} (isUrl : IsUrl url)
    (spelled : Spells s url) :
    convert find? ("[".toList ++ s ++ "](".toList ++ url ++ ")".toList) =
      [.text (Markup.inlineLink url
        (if s = url then url else Markup.escape (GitHub.shown url)))] := by
  have source : "[".toList ++ s ++ "](".toList ++ url ++ ")".toList =
      '[' :: (s ++ ']' :: '(' :: (url ++ [')'])) := by simp
  have isLine : IsLine ('[' :: (s ++ ']' :: '(' :: (url ++ [')']))) := by
    have opening : IsLine ['['] := by decide
    have middle : IsLine "](".toList := by decide
    have closing : IsLine [')'] := by decide
    exact isLine_append opening (isLine_append (isLine_spelled isUrl spelled)
      (isLine_append middle (isLine_append (isLine_spelled isUrl (.refl url)) closing)))
  have solid : IsSolid ('[' :: (s ++ ']' :: '(' :: (url ++ [')']))) := by
    have last : IsSolid [')'] := by
      rintro c ⟨⟩
      decide
    have ended := last.append (List.cons_ne_nil _ _) ('[' :: (s ++ ']' :: '(' :: url))
    simpa using ended
  obtain ⟨texts, flat, content⟩ := exists_content_link .empty
    (p := ⟨'[' :: (s ++ ']' :: '(' :: (url ++ [')'])) ++ ['\n'], 1, [0]⟩) isUrl spelled
    (trimEnd_lineEnd solid)
  have document : Markdown.read ('[' :: (s ++ ']' :: '(' :: (url ++ [')']))) =
      [.paragraph [.text [], .link url (some ⟨1, 1⟩) (texts.map .text), .text []]] := by
    rw [Markdown.read, Line.split_line isLine (List.cons_ne_nil _ _), ofLines_link isUrl spelled]
    exact congrArg (fun content => [Block.paragraph content]) content
  rw [source, convert, document, Rendering.messageBlocks_link,
    Rendering.inline_link find? isUrl spelled isLine flat]

namespace GitHub.IssuePage

private theorem isUrlChar_of_isSlugChar {c : Char} (slug : isSlugChar c = true) :
    isUrlChar c = true := by
  rw [isSlugChar, Bool.or_eq_true, beq_iff_eq] at slug
  rcases slug with letter | rfl
  · rw [isUrlChar, letter, Bool.true_or]
  · decide

theorem isUrl_path (page : IssuePage) : IsUrl page.path := by
  have slug {t : Text} (valid : Text.IsRun isSlugChar t) : IsUrl t :=
    ⟨valid.1, fun c member => isUrlChar_of_isSlugChar (valid.2 c member)⟩
  have kind : IsUrl page.kind := by
    rw [IssuePage.kind]
    split <;> decide
  have number : IsUrl page.number := by
    refine ⟨page.number_valid.1, fun c member => ?_⟩
    rw [isUrlChar, Char.isAlphanum, page.number_valid.2 c member, Bool.or_true, Bool.true_or]
  have slash : IsUrl ['/'] := by decide
  exact (slug page.owner_valid).append (slash.append
    ((slug page.repository_valid).append (slash.append (kind.append (slash.append number)))))

private theorem isUrl_url (page : IssuePage) : IsUrl page.url :=
  IsUrl.append (s := "https://github.com/".toList) (by decide) page.isUrl_path

theorem escape_shown_urlUnder (page : IssuePage) {scheme : Text}
    (known : scheme ∈ ["http".toList, "https".toList]) :
    Markup.escape (shown (page.urlUnder scheme)) = '#' :: page.number := by
  have number := Markup.escape_of_class page.number_valid.2 (by decide)
  rw [page.shown_urlUnder known, Markup.escape_cons, Markup.escapeChar_of_ordinary (by decide),
    number]
  rfl

private theorem escape_shown_url (page : IssuePage) :
    Markup.escape (shown page.url) = '#' :: page.number := by
  rw [page.url_eq]
  exact page.escape_shown_urlUnder (by decide)

end GitHub.IssuePage

/-- A link in brackets to the page of an issue that shows the URL of that page: the whole URL is
kept if no backslash is between the brackets, and else only the number is shown. -/
theorem convert_issueLink (find? : Text → Option Manager) (page : GitHub.IssuePage) {s : Text}
    (spelled : Spells s page.url) :
    convert find? ("[".toList ++ s ++ "](".toList ++ page.url ++ ")".toList) =
      [.text (Markup.inlineLink page.url
        (if s = page.url then page.url else '#' :: page.number))] := by
  rw [← page.escape_shown_url]
  exact convert_link find? page.isUrl_url spelled

/-- Both spellings of a link, with and without backslashes. -/
theorem convert_issueLink_spellings :
    let page : GitHub.IssuePage :=
      ⟨"o-1".toList, "r".toList, true, "07".toList, by decide, by decide, by decide⟩
    let s := "https\\://github.com/o\\-1/r/pull\\/07".toList
    (Spells page.url page.url ∧ convert (fun _ => none)
        ("[".toList ++ page.url ++ "](".toList ++ page.url ++ ")".toList) =
          [.text (Markup.inlineLink page.url
            (if page.url = page.url then page.url else '#' :: page.number))]) ∧
      Spells s page.url ∧ convert (fun _ => none)
        ("[".toList ++ s ++ "](".toList ++ page.url ++ ")".toList) =
          [.text (Markup.inlineLink page.url
            (if s = page.url then page.url else '#' :: page.number))] := by
  intro page s
  have spelled : Spells s page.url := by decide
  exact ⟨⟨.refl _, convert_issueLink _ page (.refl _)⟩, spelled, convert_issueLink _ page spelled⟩

/-- A backslash before a dot is enough for the URL to be replaced. -/
theorem convert_link_escaped :
    let page : GitHub.IssuePage := ⟨['o'], ['r'], true, ['1'], by decide, by decide, by decide⟩
    let s := "https://github\\.com/o/r/pull/1".toList
    Spells s page.url ∧
      convert (fun _ => none) ("[".toList ++ s ++ "](".toList ++ page.url ++ ")".toList) =
        [.text (Markup.inlineLink page.url "#1".toList)] ∧
      Markup.inlineLink page.url "#1".toList ≠ Markup.inlineLink page.url page.url := by
  intro page s
  have spelled : Spells s page.url := by decide
  have link := convert_link (fun _ => none) page.isUrl_url spelled
  rw [if_neg (by decide), page.escape_shown_url] at link
  exact ⟨spelled, link, by decide⟩

end Chatdown
