import Chatdown.Markdown
import Chatdown.Proofs.Markdown.InlineLinks
import Chatdown.Proofs.Markdown.PlainLines
import Chatdown.Proofs.Markdown.RunningText

/-! # URLs at the end of running text

A URL of plain characters is a link as it stands, with and without angle brackets around it. A bare
URL is found at its colon, when its scheme has been read as text already: the scheme is then taken
away from the end of that text, which is possible because nothing in it could begin something else.
-/

namespace Chatdown.Markdown

/-- A URL of plain characters under a known scheme, no end of which belongs to the text around. -/
structure WebUrl where
  scheme : Text
  body : Text
  known : scheme ∈ Autolink.schemes
  isUrl : IsUrl body
  solid : ∀ c ∈ body.getLast?, c.isAlphanum = true

namespace WebUrl

/-- What follows the scheme. -/
def tail (u : WebUrl) : Text := '/' :: '/' :: u.body

def text (u : WebUrl) : Text := u.scheme ++ ':' :: u.tail

variable (u : WebUrl)

private theorem scheme_chars :
    ∀ c ∈ u.scheme, c.isAlpha = true ∧ InlineReader.isSpecial c = false := by
  have each : ∀ scheme ∈ Autolink.schemes,
      scheme.all (fun c => c.isAlpha && !InlineReader.isSpecial c) = true := by decide
  simpa using each u.scheme u.known

private theorem scheme_ne_nil : u.scheme ≠ [] := by
  have each : ∀ scheme ∈ Autolink.schemes, scheme ≠ [] := by decide
  exact each u.scheme u.known

private theorem tail_chars : ∀ c ∈ u.tail, isUrlChar c = true := by
  have slash : isUrlChar '/' = true := by decide
  rw [tail, List.forall_mem_cons, List.forall_mem_cons]
  exact ⟨slash, slash, u.isUrl.2⟩

private theorem isUrl_text : IsUrl u.text := by
  refine ⟨List.append_ne_nil_of_left_ne_nil u.scheme_ne_nil _, fun c member => ?_⟩
  rcases List.mem_append.mp member with inside | after
  · rw [isUrlChar, Char.isAlphanum, (u.scheme_chars c inside).1, Bool.true_or, Bool.true_or]
  · rcases List.mem_cons.mp after with rfl | inside
    · decide
    · exact u.tail_chars c inside

end WebUrl

namespace Autolink

/-- Only underscores may keep a text from beginning with a host. -/
theorem startsHost_of_no_underscore {t : Text} (none : '_' ∉ t) (dots : Nat) :
    startsHost false dots 0 0 t = true := by
  induction t generalizing dots with
  | nil => rfl
  | cons c t ih =>
    rw [List.mem_cons, not_or] at none
    simp [startsHost, Ne.symm none.1, ih none.2]

/-- Letters and digits at the end of a URL belong to it. -/
theorem tighten_of_isAlphanum {c : Char} (solid : c.isAlphanum = true) (r : Text) :
    tighten 0 (c :: r) = c :: r := by
  have other : c ∉ "?!.,:*_~'\";)".toList := Text.not_mem_of_outside (by decide) solid
  simp only [String.reduceToList, List.mem_cons, List.not_mem_nil, or_false, not_or] at other
  have tight : isLoose c = false := by simp [isLoose, other]
  simp [tighten, tight, other]

private theorem extent_eq_self {t : Text} (inside : ∀ c ∈ t, isUrlChar c = true)
    (solid : ∀ c ∈ t.getLast?, c.isAlphanum = true) : extent t = t := by
  have within : ∀ c ∈ t, (!isSpacing c && c != '<') = true := by
    intro c member
    have notAngle : c ≠ '<' := by
      rintro rfl
      exact absurd (inside '<' member) (by decide)
    simp [isSpacing_of_isGap (isGap_of_isUrlChar (inside c member)), notAngle]
  have run := Text.takeWhile_run (t := []) within (by simp)
  rw [List.append_nil] at run
  rw [extent, run]
  cases backwards : t.reverse with
  | nil => rw [List.reverse_eq_nil_iff.mp backwards]; rfl
  | cons c r =>
    have last : t.getLast? = some c := by rw [List.getLast?_eq_head?_reverse, backwards]; rfl
    rw [tighten_of_isAlphanum (solid c last), ← backwards, List.reverse_reverse]

variable (u : WebUrl)

/-- A bare URL is found at its colon if no letter stands before its scheme. -/
theorem atColon?_text {before : Text} (apart : ∀ c ∈ before.head?, c.isAlpha = false) :
    atColon? (u.scheme.reverse ++ before) (':' :: u.tail) =
      some (⟨u.text, u.text⟩, u.scheme.length) := by
  have letters : ∀ c ∈ u.scheme.reverse, c.isAlpha = true := fun c member =>
    (u.scheme_chars c (List.mem_reverse.mp member)).1
  have scheme := Text.takeWhile_run letters apart
  have whole : extent (':' :: u.tail) = ':' :: u.tail := by
    refine extent_eq_self (List.forall_mem_cons.mpr ⟨by decide, u.tail_chars⟩) ?_
    intro c last
    obtain ⟨d, body, same⟩ := List.exists_cons_of_ne_nil u.isUrl.1
    refine u.solid c ?_
    rwa [WebUrl.tail, same, List.getLast?_cons_cons, List.getLast?_cons_cons,
      List.getLast?_cons_cons, ← same] at last
  have host : startsHost false 0 0 0 u.body = true :=
    startsHost_of_no_underscore (u.isUrl.not_mem (by decide)) 0
  have isScheme : schemes.contains u.scheme = true := List.contains_iff_mem.mpr u.known
  obtain ⟨c, rest, same⟩ := List.exists_cons_of_ne_nil u.isUrl.1
  rw [WebUrl.tail, same] at whole ⊢
  rw [same] at host
  rw [atColon?, scheme, List.reverse_reverse, isScheme, host, whole, if_pos (by decide), WebUrl.text,
    WebUrl.tail, same]

/-- A URL is a link between angle brackets. -/
theorem angled?_text (rest : Text) :
    angled? (u.text ++ '>' :: rest) = some (⟨u.text, u.text⟩, u.text.length + 1) := by
  have chars : ∀ scheme ∈ schemes, scheme.all isSchemeChar = true := by decide
  have fits : ∀ scheme ∈ schemes,
      (scheme.head?.any Char.isAlpha && 2 ≤ scheme.length && scheme.length ≤ 32) = true := by
    decide
  have stops : ∀ c ∈ (':' :: (u.tail ++ '>' :: rest)).head?, isSchemeChar c = false := by
    rintro c ⟨⟩
    decide
  have scheme := Text.takeWhile_run (List.all_eq_true.mp (chars u.scheme u.known)) stops
  have within : ∀ c ∈ u.tail, isUriChar c = true := by
    intro c member
    have inside := u.tail_chars c member
    have other : c ∉ " <>".toList := Text.not_mem_of_outside (by decide) inside
    simp only [String.reduceToList, List.mem_cons, List.not_mem_nil, or_false, not_or] at other
    have notControl := (Bool.or_eq_false_iff.mp (isControl_of_isUrlChar inside)).1
    have above : ' ' < c := Char.not_le.mp fun low =>
      other.1 (Char.le_antisymm low (Char.not_lt.mp (of_decide_eq_false notControl)))
    simp [isUriChar, above, other]
  have body : (u.tail ++ '>' :: rest).takeWhile isUriChar = u.tail :=
    Text.takeWhile_run within (by rintro c ⟨⟩; decide)
  have uri : uri? (u.text ++ '>' :: rest) = some u.text := by
    rw [WebUrl.text, List.append_assoc, List.cons_append]
    simp only [uri?, scheme, List.drop_left, body, fits u.scheme u.known, Bool.true_and]
    rfl
  have kept : CharacterReference.resolve u.text = u.text :=
    Destination.resolve_of_no_ampersand (u.isUrl_text.not_mem (by decide))
  rw [angled?, uri]
  simp only [kept]

end Autolink

/-- Running text after which a URL may begin. -/
structure IsLeading (s : Text) : Prop where
  quiet : ∀ c ∈ s, isQuiet c = true
  noDot : '.' ∉ s
  noColon : ':' ∉ s
  apart : ∀ c ∈ s.getLast?, c.isAlpha = false

namespace InlineReader

variable (links : LinkTable) (p : Passage) {r : InlineReader}

/-- The first item of a text with a special character in it ends before such a character or is
one, whatever ordinary characters follow the text. -/
theorem exists_readItem_quiet {s tail t : Text} (quiet : ∀ c ∈ s, isQuiet c = true)
    (noDot : '.' ∉ s ++ tail) (noColon : ':' ∉ s ++ tail)
    (special : ¬ ∀ c ∈ s, isSpecial c = false) (text : r.isAfterBreak = false) :
    ∃ (c : Char) (taken more : Text), s = c :: (taken ++ more) ∧ c ≠ '\n' ∧
      r.readItem links p c (taken ++ (more ++ (tail ++ ':' :: t))) =
        (r.putText (c :: taken), taken.length) := by
  cases s with
  | nil => exact absurd (by simp) special
  | cons c s =>
    obtain ⟨first, others⟩ := List.forall_mem_cons.mp quiet
    cases kind : isSpecial c with
    | true =>
      have notEnd : c ≠ '\n' := by rintro rfl; exact absurd first (by decide)
      have colon : ∀ d ∈ (':' :: t).head?, isSpecial d = true ∧ d ≠ 'w' := by
        rintro d ⟨⟩
        decide
      have item : r.readItem links p c (s ++ tail ++ ':' :: t) = (r.putText [c], 0) :=
        readItem_of_quiet first kind colon (.inr ⟨noDot, noColon⟩)
      rw [List.append_assoc] at item
      exact ⟨c, [], s, rfl, notEnd, item⟩
    | false =>
      have notEnd : c ≠ '\n' := by rintro rfl; exact absurd kind (by decide)
      obtain ⟨run, more, left, rfl, _, _, ordinary, stops⟩ := (Spells.refl s).exists_run others
      refine ⟨c, run, more, rfl, notEnd, ?_⟩
      cases more with
      | nil =>
        have whole : ∀ d ∈ c :: (run ++ []), isSpecial d = false := by
          rw [List.append_nil]
          exact List.forall_mem_cons.mpr ⟨kind, ordinary⟩
        exact absurd whole special
      | cons d more =>
        obtain ⟨stop, inLine⟩ := stops d rfl
        rw [readItem_of_ordinary kind, List.cons_append,
          readText_eq text ordinary (by simpa using stop)]
        exact fun atEnd => absurd (Option.some.inj atEnd) inLine

/-- Ordinary characters before a colon are the end of one text, whatever is read before them. -/
theorem exists_run_tail {s tail t : Text} (quiet : ∀ c ∈ s, isQuiet c = true)
    (noDot : '.' ∉ s ++ tail) (noColon : ':' ∉ s ++ tail)
    (ordinary : ∀ c ∈ tail, isSpecial c = false) (nonempty : tail ≠ [])
    (text : r.isAfterBreak = false) :
    ∃ first last mid, s = first ++ last ∧ Adds r mid first first ∧
      run links p r 0 (s ++ (tail ++ ':' :: t)) =
        run links p ((mid.putText (last ++ tail)).move (last ++ tail)) 0 (':' :: t) := by
  -- An item may take several characters, so the induction is on what is left of the source.
  induction length : s.length using Nat.strongRecOn generalizing s r with
  | ind n ih =>
    by_cases plain : ∀ c ∈ s, isSpecial c = false
    · have inside : ∀ d ∈ s ++ tail, isSpecial d = false :=
        List.forall_mem_append.mpr ⟨plain, ordinary⟩
      refine ⟨[], s, r, rfl, .refl r, ?_⟩
      rw [← List.append_assoc]
      obtain ⟨c, more, same⟩ :=
        List.exists_cons_of_ne_nil (List.append_ne_nil_of_right_ne_nil s nonempty)
      rw [same] at inside ⊢
      obtain ⟨first, others⟩ := List.forall_mem_cons.mp inside
      have notEnd : c ≠ '\n' := by rintro rfl; exact absurd first (by decide)
      have colon : ∀ d ∈ (':' :: t).head?, isSpecial d = true := by
        rintro d ⟨⟩
        decide
      refine run_item notEnd ?_
      rw [readItem_of_ordinary first, readText_eq text others colon]
      rintro ⟨⟩
    · obtain ⟨c, taken, more, rfl, notEnd, item⟩ :=
        exists_readItem_quiet links p quiet noDot noColon plain text
      have shorter : more.length < n := by
        simp only [List.length_cons, List.length_append] at length
        omega
      have quietAfter : ∀ d ∈ more, isQuiet d = true := fun d member => quiet d (by simp [member])
      simp only [List.cons_append, List.append_assoc, List.mem_cons, List.mem_append, not_or]
        at noDot noColon
      obtain ⟨first, last, mid, rfl, added, ran⟩ :=
        ih more.length shorter (r := (r.putText (c :: taken)).move (c :: taken)) quietAfter
          (by simp [noDot]) (by simp [noColon]) rfl rfl
      refine ⟨c :: (taken ++ first), last, mid, by simp,
        (adds_putText r (c :: taken) (c :: taken)).trans added, ?_⟩
      rw [← ran, ← run_item notEnd item]
      simp only [List.cons_append, List.append_assoc]

/-- What has been read is a text, and a link that shows its own URL after it. -/
structure EndsWithLink (r : InlineReader) (s url : Text) : Prop where
  openings : r.openings = []
  pieces : ∃ start, ∃ texts : List Text, texts.flatten = s ∧
    r.pieces = .node (.link url start [.text url]) ::
      (texts.map fun t => Piece.node (.text t)).reverse

variable (u : WebUrl)

/-- At its colon a bare URL is read as a link, and its scheme is taken back from the text. -/
theorem readItem_bareUrl {before last : Text} {pieces : List Piece} (outside : r.inBrackets = false)
    (behind : r.before = u.scheme.reverse ++ before) (apart : ∀ c ∈ before.head?, c.isAlpha = false)
    (text : r.pieces = .node (.text (last ++ u.scheme)) :: pieces) :
    r.readItem links p ':' u.tail =
      ({ r with
        pieces := .node (.link u.text none [.text u.text]) :: .node (.text last) :: pieces },
        u.tail.length) := by
  have count : u.text.length - u.scheme.length - 1 = u.tail.length := by
    simp [WebUrl.text]
  have taken : r.takeBack u.scheme.length = { r with pieces := .node (.text last) :: pieces } := by
    simp [takeBack, text]
  have found : (if r.inBrackets then none else Autolink.atColon? r.before (':' :: u.tail)) =
      some (⟨u.text, u.text⟩, u.scheme.length) := by
    rw [outside, if_neg Bool.false_ne_true, behind, Autolink.atColon?_text u apart]
  change r.readColon u.tail = _
  rw [readColon, found]
  simp only [count, taken]
  rfl

/-- At its angle bracket a URL between brackets is read as a link. -/
theorem readItem_angledUrl : r.readItem links p '<' (u.text ++ ['>']) =
    (r.put (.link u.text (some ((r.move ['<']).position p)) [.text u.text]),
      (u.text ++ ['>']).length) := by
  change r.readAngle p (u.text ++ ['>']) = _
  rw [readAngle, Autolink.angled?_text u, List.length_append]
  rfl

private theorem endsWithLink_bareUrl {s : Text} (leading : IsLeading s) :
    EndsWithLink (run links p .fresh 0 (s ++ u.text)) s u.text := by
  have outside {c : Char} (none : c ∉ s) (other : c.isAlpha = false) : c ∉ s ++ u.scheme :=
    fun member => (List.mem_append.mp member).elim none fun inside =>
      absurd (u.scheme_chars c inside).1 (by simp [other])
  obtain ⟨first, last, mid, rfl, added, ran⟩ := exists_run_tail links p (r := .fresh)
    (t := u.tail) leading.quiet (outside leading.noDot (by decide))
    (outside leading.noColon (by decide)) (fun c member => (u.scheme_chars c member).2)
    u.scheme_ne_nil rfl
  obtain ⟨texts, rfl, pieces⟩ := added.pieces
  have behind : ((mid.putText (last ++ u.scheme)).move (last ++ u.scheme)).before =
      u.scheme.reverse ++ (texts.flatten ++ last).reverse := by
    change (last ++ u.scheme).reverse ++ mid.before = _
    rw [added.before]
    simp [fresh]
  have apart : ∀ c ∈ (texts.flatten ++ last).reverse.head?, c.isAlpha = false := by
    rw [List.head?_reverse]
    exact leading.apart
  have item := readItem_bareUrl links p u
    (r := (mid.putText (last ++ u.scheme)).move (last ++ u.scheme)) added.inBrackets behind apart rfl
  have ended : run links p .fresh 0 (texts.flatten ++ last ++ u.text) = _ :=
    ran.trans (run_lastItem (by decide) item)
  rw [ended]
  refine ⟨added.openings, none, texts ++ [last], by simp, ?_⟩
  change _ :: Piece.node (.text last) :: mid.pieces = _
  rw [pieces]
  simp [fresh]

private theorem endsWithLink_angledUrl {s : Text} (leading : IsLeading s) :
    EndsWithLink (run links p .fresh 0 (s ++ '<' :: (u.text ++ ['>']))) s u.text := by
  have angle : ∀ c ∈ ('<' :: (u.text ++ ['>'])).head?, isSpecial c = true ∧ c ≠ 'w' := by
    rintro c ⟨⟩
    decide
  obtain ⟨mid, ran, added⟩ : ∃ mid, run links p .fresh 0 (s ++ '<' :: (u.text ++ ['>'])) =
      run links p mid 0 ('<' :: (u.text ++ ['>'])) ∧ Adds .fresh mid s s :=
    exists_run_spelled (.refl s) leading.quiet angle (fun same => nomatch same) rfl
      (.inr ⟨leading.noDot, leading.noColon⟩)
  obtain ⟨texts, flat, pieces⟩ := added.pieces
  rw [ran, run_lastItem (by decide) (readItem_angledUrl links p u)]
  refine ⟨added.openings, some ((mid.move ['<']).position p), texts, flat, ?_⟩
  change _ :: mid.pieces = _
  rw [pieces]
  simp [fresh]

end InlineReader

/-- A URL as it can be written so that it is a link: bare, and between angle brackets. -/
def WebUrl.spellings (u : WebUrl) : List Text := [u.text, '<' :: (u.text ++ ['>'])]

/-- Tests for a character of a URL or of the angle brackets around it. -/
def isAutolinkChar (c : Char) : Bool := isUrlChar c || "<>".toList.contains c

namespace WebUrl

variable {u : WebUrl} {written : Text}

theorem spellings_chars (spelling : written ∈ u.spellings) :
    written ≠ [] ∧ ∀ c ∈ written, isAutolinkChar c = true := by
  have url : ∀ c ∈ u.text, isAutolinkChar c = true := fun c member => by
    rw [isAutolinkChar, u.isUrl_text.2 c member, Bool.true_or]
  have bracket : isAutolinkChar '<' = true ∧ isAutolinkChar '>' = true := by decide
  simp only [spellings, List.mem_cons, List.not_mem_nil, or_false] at spelling
  rcases spelling with rfl | rfl
  · exact ⟨u.isUrl_text.1, url⟩
  · refine ⟨List.cons_ne_nil _ _, List.forall_mem_cons.mpr ⟨bracket.1, ?_⟩⟩
    exact List.forall_mem_append.mpr ⟨url, List.forall_mem_singleton.mpr bracket.2⟩

theorem isLine_spelling (spelling : written ∈ u.spellings) : IsLine written := by
  have none {c : Char} (outside : isAutolinkChar c = false) : c ∉ written :=
    Text.not_mem_of_class (spellings_chars spelling).2 outside
  intro c member
  refine ⟨?_, ?_, ?_⟩ <;> rintro rfl <;> exact none (by decide) member

theorem isSolid_spelling (spelling : written ∈ u.spellings) : IsSolid written := fun c last =>
  isSpacing_of_class ((spellings_chars spelling).2 c (List.mem_of_getLast? last)) (by decide)

end WebUrl

/-- A plain line with a space after it may have a URL after that. -/
theorem PlainLine.isLeading (l : PlainLine) : IsLeading (l.text ++ [' ']) := by
  have chars := l.text_space_chars
  refine ⟨fun c member => isQuiet_of_class (chars c member) (by decide),
    Text.not_mem_of_class chars (by decide), Text.not_mem_of_class chars (by decide), ?_⟩
  rw [List.getLast?_concat]
  rintro c ⟨⟩
  decide

section

variable (links : LinkTable) {p : Passage} {s written : Text} {u : WebUrl}

/-- Running text with a URL at its end is read as texts and a link. -/
theorem Passage.exists_inlines_url (leading : IsLeading s) (spelling : written ∈ u.spellings)
    (source : trimEnd isSpacing p.text = s ++ written) :
    ∃ start, ∃ texts : List Text, texts.flatten = s ∧
      p.inlines links = texts.map .text ++ [.link u.text start [.text u.text]] := by
  have ended : InlineReader.EndsWithLink (.run links p .fresh 0 (s ++ written)) s u.text := by
    simp only [WebUrl.spellings, List.mem_cons, List.not_mem_nil, or_false] at spelling
    rcases spelling with rfl | rfl
    · exact InlineReader.endsWithLink_bareUrl links p u leading
    · exact InlineReader.endsWithLink_angledUrl links p u leading
  obtain ⟨start, texts, flat, pieces⟩ := ended.pieces
  refine ⟨start, texts, flat, ?_⟩
  have nodes := Emphasis.resolve_nodes (texts.map .text ++ [.link u.text start [.text u.text]])
  rw [Passage.inlines, source, ended.openings, InlineReader.close, pieces, List.reverse_cons,
    List.reverse_reverse, ← nodes]
  simp [Function.comp_def]

/-- A passage that ends with a URL has a text before the link and an empty one after it. -/
theorem exists_content_url (leading : IsLeading s) (spelling : written ∈ u.spellings)
    (source : trimEnd isSpacing p.text = s ++ written) :
    ∃ start, content links p = [.text s, .link u.text start [.text u.text], .text []] := by
  obtain ⟨start, texts, flat, inlines⟩ :=
    Passage.exists_inlines_url links leading spelling source
  refine ⟨start, ?_⟩
  have joined := Address.inNodes_texts [] texts [.link u.text start [.text u.text]]
  rw [flat, List.append_nil] at joined
  rw [content, inlines, joined, Address.inNodes, List.reverse_reverse,
    Address.split_of_no_dot 0 [] leading.noDot]
  · rfl
  · rintro _ ⟨⟩

/-- Running text with a URL at its end does not begin with a task marker. -/
theorem contentAfter?_url (leading : IsLeading s) (spelling : written ∈ u.spellings)
    (source : trimEnd isSpacing p.text = s ++ written) (bare : ∀ c ∈ s.head?, isGap c = false) :
    TaskMarker.contentAfter? (p.inlines links) = none := by
  obtain ⟨start, texts, flat, inlines⟩ :=
    Passage.exists_inlines_url links leading spelling source
  have none := TaskMarker.after?_eq_none leading.quiet bare
  rw [TaskMarker.contentAfter?, inlines, TaskMarker.leadingText_texts, flat]
  simp [TaskMarker.leadingText, none]

end

end Chatdown.Markdown
