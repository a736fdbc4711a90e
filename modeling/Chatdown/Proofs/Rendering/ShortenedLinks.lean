import Chatdown.Conversion
import Chatdown.Proofs.GitHub.IssuePages
import Chatdown.Proofs.Markdown.Autolinks
import Chatdown.Proofs.Markdown.OpenBlocks
import Chatdown.Proofs.PlainDocuments
import Chatdown.Proofs.Rendering.ExplicitLinks
import Chatdown.Proofs.Rendering.SourceLines

/-! # Shortened links

A URL that is written out in running text is shown by its short name, bare or between angle
brackets, in a paragraph or in a list. Mentions are substituted in the text before it and nowhere
in the link.
-/

namespace Chatdown

namespace Rendering

variable (find? : Text → Option Manager) {source : Text}

/-- A link that shows its URL is shortened if no bracket is in the source. -/
theorem inline_autolink (noBracket : '[' ∉ source) (url : Text) (start : Option Position) :
    inline find? source (.link url start [.text url]) =
      Markup.inlineLink url (Markup.escape (GitHub.shown url)) := by
  have shown : Inline.literals [.text url] = url := List.append_nil url
  rw [inline_ownUrl find? shown, isBracketed_eq_false noBracket, if_neg Bool.false_ne_true]

/-- The markup of a text before a link is that of the text alone. -/
theorem inlines_autolink (noBracket : '[' ∉ source) (s url : Text) (start : Option Position) :
    inlines find? source [] [.text s, .link url start [.text url], .text []] =
      literal find? s ++ Markup.inlineLink url (Markup.escape (GitHub.shown url)) := by
  have running : inlines find? source [] [.text s, .link url start [.text url], .text []] =
      literal find? s ++ inline find? source (.link url start [.text url]) ++ literal find? [] :=
    rfl
  rw [running, inline_autolink find? noBracket, literal_nil, List.append_nil]

end Rendering

namespace Markdown

section

variable (line : PlainLine) {u : WebUrl} {written : Text} (spelling : written ∈ u.spellings)

include spelling

private theorem isLine_text_url : IsLine (line.text ++ ' ' :: written) := by
  have space : IsLine [' '] := by decide
  exact isLine_append line.isLine_text (isLine_append space (WebUrl.isLine_spelling spelling))

private theorem not_mem_text_url {c : Char} (notPlain : isPlainChar c = false)
    (outside : isAutolinkChar c = false) : c ∉ line.text ++ ' ' :: written := by
  rw [List.mem_append, List.mem_cons, not_or, not_or]
  refine ⟨line.not_mem_text notPlain, ?_,
    Text.not_mem_of_class (WebUrl.spellings_chars spelling).2 outside⟩
  rintro rfl
  exact absurd notPlain (by decide)

private theorem trimEnd_text_url :
    trimEnd isSpacing (line.text ++ ' ' :: written ++ ['\n']) = line.text ++ [' '] ++ written := by
  have solid := (WebUrl.isSolid_spelling spelling).append (WebUrl.spellings_chars spelling).1
    (line.text ++ [' '])
  have joined : line.text ++ ' ' :: written = line.text ++ [' '] ++ written := by simp
  rw [joined, trimEnd_lineEnd solid]

omit spelling in
private theorem readAll_text_url :
    LinkDefinition.readAll .empty (line.text ++ ' ' :: written ++ ['\n']) =
    (.empty, line.text ++ ' ' :: written ++ ['\n']) := by
  refine LinkDefinition.readAll_of_head (fun bracket => ?_) .empty
  rw [List.append_assoc] at bracket
  exact absurd (line.head_text_append bracket) (by decide)

/-- A line with a URL at its end is a paragraph of a text and a link. -/
theorem exists_read_text_url : ∃ start, read (line.text ++ ' ' :: written) =
    [.paragraph [.text (line.text ++ [' ']), .link u.text start [.text u.text], .text []]] := by
  have nonempty := List.append_ne_nil_of_left_ne_nil line.text_ne_nil (' ' :: written)
  have outline := Outline.ofLines_paragraph
    (line.isInert_text.append_space line.text_ne_nil written) nonempty
    (fun mark => absurd (line.head_text_append mark) (by decide)) (readAll_text_url line)
  obtain ⟨start, shown⟩ := exists_content_url .empty
    (p := ⟨line.text ++ ' ' :: written ++ ['\n'], 1, [0]⟩) line.isLeading spelling
    (trimEnd_text_url line spelling)
  refine ⟨start, ?_⟩
  rw [read, Line.split_line (isLine_text_url line spelling) nonempty, outline]
  exact congrArg (fun content => [Block.paragraph content]) shown

/-- With a hyphen before it, such a line is a list of one item. -/
theorem exists_read_item_url : ∃ start, read ("- ".toList ++ (line.text ++ ' ' :: written)) =
    [.list ⟨'-', 2⟩ [.plain 2 [.paragraph
      [.text (line.text ++ [' ']), .link u.text start [.text u.text], .text []]]]] := by
  have marker : IsLine "- ".toList := by decide
  have nonempty := List.append_ne_nil_of_left_ne_nil line.text_ne_nil (' ' :: written)
  have outline : Outline.ofLines ["- ".toList ++ (line.text ++ ' ' :: written)] = _ :=
    Outline.ofLines_item (l := line.text ++ ' ' :: written)
      (line.isInert_text.append_space line.text_ne_nil written) nonempty (readAll_text_url line)
  obtain ⟨start, shown⟩ := exists_content_url .empty
    (p := ⟨line.text ++ ' ' :: written ++ ['\n'], 1, [2]⟩) line.isLeading spelling
    (trimEnd_text_url line spelling)
  have noTask := contentAfter?_url .empty
    (p := ⟨line.text ++ ' ' :: written ++ ['\n'], 1, [2]⟩) line.isLeading spelling
    (trimEnd_text_url line spelling)
    fun _ first => isGap_of_isWordStart (line.head_text_append first)
  refine ⟨start, ?_⟩
  rw [read, Line.split_line (isLine_append marker (isLine_text_url line spelling))
    (List.cons_ne_nil _ _), outline]
  simp only [List.reverse_singleton, finishBlocks, finishBlock, finishItems, finishItem, noTask,
    shown]

end

end Markdown

open Markdown

/-- A line of words with a URL at its end: the URL is a link that shows its short name, and mentions
are substituted in the words. -/
theorem convert_text_url (find? : Text → Option Manager) (line : PlainLine) {u : WebUrl}
    {written : Text} (spelling : written ∈ u.spellings) :
    let shown := Mention.substitute find? (line.text ++ [' ']) ++
      Markup.inlineLink u.text (Markup.escape (GitHub.shown u.text))
    convert find? (line.text ++ ' ' :: written) = [.text shown] ∧
      convert find? ("- ".toList ++ (line.text ++ ' ' :: written)) = [.bullets [.text shown]] := by
  intro shown
  have words : Rendering.literal find? (line.text ++ [' ']) =
      Mention.substitute find? (line.text ++ [' ']) :=
    Rendering.literal_of_plain find? fun c member => by
      rw [line.text_space_chars c member, Bool.true_or]
  have noBracket : '[' ∉ line.text ++ ' ' :: written :=
    not_mem_text_url line spelling (by decide) (by decide)
  have rendered (source : Text) (none : '[' ∉ source) (start : Option Position) :
      Rendering.inlines find? source []
        [.text (line.text ++ [' ']), .link u.text start [.text u.text], .text []] = shown := by
    rw [Rendering.inlines_autolink find? none, words]
  constructor
  · obtain ⟨start, document⟩ := exists_read_text_url line spelling
    rw [convert, document]
    exact congrArg (fun markup => [MessageBlock.text markup]) (rendered _ noBracket start)
  · obtain ⟨start, document⟩ := exists_read_item_url line spelling
    have none : '[' ∉ "- ".toList ++ (line.text ++ ' ' :: written) := by
      rw [List.mem_append, not_or]
      exact ⟨by decide, noBracket⟩
    rw [convert, document]
    exact congrArg (fun markup => [MessageBlock.bullets [.text markup]]) (rendered _ none start)

namespace GitHub.IssuePage

variable (page : IssuePage) {scheme : Text}

/-- A URL ends with the number of its page. -/
theorem isAlphanum_of_getLast?_path (host : Text) :
    ∀ c ∈ (host ++ page.path).getLast?, c.isAlphanum = true := by
  have ended : host ++ page.path =
      host ++ (page.owner ++ '/' :: (page.repository ++ '/' :: (page.kind ++ ['/']))) ++
        page.number := by
    simp [path]
  rw [ended, List.getLast?_append, List.getLast?_eq_some_getLast page.number_valid.1]
  rintro c ⟨⟩
  rw [Char.isAlphanum, page.number_valid.2 _ (List.getLast_mem page.number_valid.1), Bool.or_true]

def webUrl (known : scheme ∈ ["http".toList, "https".toList]) : WebUrl where
  scheme := scheme
  body := "github.com/".toList ++ page.path
  known := List.mem_append_left ["ftp".toList] known
  isUrl := IsUrl.append (by decide) page.isUrl_path
  solid := page.isAlphanum_of_getLast?_path _

private theorem text_webUrl (known : scheme ∈ ["http".toList, "https".toList]) :
    (page.webUrl known).text = page.urlUnder scheme := rfl

end GitHub.IssuePage

/-- A line of words with the URL of an issue or a pull request at its end, bare or between angle
brackets: the link shows a hash and the number, in a paragraph and in an entry of a list. -/
theorem convert_issueAutolink (find? : Text → Option Manager) (line : PlainLine)
    (page : GitHub.IssuePage) {scheme : Text} (known : scheme ∈ ["http".toList, "https".toList]) :
    let url := page.urlUnder scheme
    let shown := Mention.substitute find? (line.text ++ [' ']) ++
      Markup.inlineLink url ('#' :: page.number)
    ∀ written ∈ [url, '<' :: (url ++ ['>'])],
      convert find? (line.text ++ ' ' :: written) = [.text shown] ∧
        convert find? ("- ".toList ++ (line.text ++ ' ' :: written)) =
          [.bullets [.text shown]] := by
  intro url shown written spelling
  have converted := convert_text_url find? line (u := page.webUrl known) spelling
  rwa [page.text_webUrl known, page.escape_shown_urlUnder known] at converted

/-- A mention in the words and one that is no name, before both spellings of a URL. -/
theorem convert_issueAutolink_mention :
    let jo := Directory.ofList [⟨"7".toList, "Jo".toList, none, some "jo".toList, none⟩]
    let line : PlainLine := ⟨[['@', 'J', 'o'], "a-b".toList, ['@']], by decide, by decide⟩
    let page : GitHub.IssuePage :=
      ⟨"o-1".toList, "r".toList, true, "07".toList, by decide, by decide, by decide⟩
    let url := page.urlUnder "http".toList
    let shown := "<link type=\"manager\" value=\"7\">Jo</link> a-b @ ".toList ++
      Markup.inlineLink url "#07".toList
    "http".toList ∈ ["http".toList, "https".toList] ∧
    url ∈ [url, '<' :: (url ++ ['>'])] ∧ '<' :: (url ++ ['>']) ∈ [url, '<' :: (url ++ ['>'])] ∧
    convert jo.find? (line.text ++ ' ' :: url) = [.text shown] ∧
    convert jo.find? ("- ".toList ++ (line.text ++ ' ' :: '<' :: (url ++ ['>']))) =
      [.bullets [.text shown]] := by
  intro jo line page url shown
  have known : "http".toList ∈ ["http".toList, "https".toList] := by decide
  have bare : url ∈ [url, '<' :: (url ++ ['>'])] := List.mem_cons_self ..
  have angled : '<' :: (url ++ ['>']) ∈ [url, '<' :: (url ++ ['>'])] :=
    List.mem_cons_of_mem _ (List.mem_cons_self ..)
  have words : Mention.substitute jo.find? (line.text ++ [' ']) =
      "<link type=\"manager\" value=\"7\">Jo</link> a-b @ ".toList := by decide +kernel
  have each := convert_issueAutolink jo.find? line page known
  simp only [words] at each
  exact ⟨known, bare, angled, (each url bare).1, (each _ angled).2⟩

end Chatdown
