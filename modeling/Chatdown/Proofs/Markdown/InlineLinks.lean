import Chatdown.Markdown
import Chatdown.Proofs.Markdown.RunningText
import Chatdown.Proofs.Markdown.TextLines

/-! # Inline links

A URL in brackets with the same URL in parentheses after it is a link that shows its own URL, also
if some symbols between the brackets have backslashes before them.
-/

namespace Chatdown.Markdown

/-- Tests for a character of URLs that has no meaning of its own in text and in links. -/
def isUrlChar (c : Char) : Bool := c.isAlphanum || "-./:".toList.contains c

def IsUrl (t : Text) : Prop := Text.IsRun isUrlChar t

instance (t : Text) : Decidable (IsUrl t) := inferInstanceAs (Decidable (Text.IsRun isUrlChar t))

theorem IsUrl.not_mem {t : Text} (isUrl : IsUrl t) {c : Char} (outside : isUrlChar c = false) :
    c ∉ t := Text.not_mem_of_class isUrl.2 outside

theorem IsUrl.append {s t : Text} (first : IsUrl s) (second : IsUrl t) : IsUrl (s ++ t) :=
  ⟨List.append_ne_nil_of_left_ne_nil first.1 t, List.forall_mem_append.mpr ⟨first.2, second.2⟩⟩

section

variable {c : Char}

theorem isControl_of_isUrlChar (inside : isUrlChar c = true) : isControl c = false := by
  rw [Bool.eq_false_iff]
  intro control
  simp only [isControl, Bool.or_eq_true, decide_eq_true_eq, beq_iff_eq] at control
  rcases control with low | rfl
  · have each : ∀ n, n < 32 → isUrlChar (Char.ofNat n) = false := by decide
    have outside := each c.toNat (UInt32.lt_iff_toNat_lt.mp low)
    rw [Char.ofNat_toNat, inside] at outside
    cases outside
  · exact absurd inside (by decide)

theorem isGap_of_isUrlChar (inside : isUrlChar c = true) : isGap c = false := by
  have other : c ∉ " \t\n\x0c\r\x0b".toList := Text.not_mem_of_outside (by decide) inside
  simp only [String.reduceToList, List.mem_cons, List.not_mem_nil, or_false, not_or] at other
  simp [isGap, isSpacing, other]

end

namespace Label

/-- A label ends at the first bracket that has no backslash before it. -/
theorem inside?_spelled {s t : Text} (spelled : Spells s t) (inside : ∀ c ∈ t, isUrlChar c = true)
    (rest : Text) : inside? (s ++ ']' :: rest) = some s := by
  induction spelled with
  | nil => rfl
  | @char c s t _ ih =>
    obtain ⟨first, others⟩ := List.forall_mem_cons.mp inside
    have other : c ∉ "\\[]".toList := Text.not_mem_of_outside (by decide) first
    simp only [String.reduceToList, List.mem_cons, List.not_mem_nil, or_false, not_or] at other
    rw [List.cons_append, inside?, if_neg other.2.2, if_neg other.2.1, ih others]
    · rfl
    · exact fun _ _ same _ => other.1 same
  | @escaped c s t symbol _ ih =>
    rw [List.cons_append, List.cons_append, inside?, if_pos symbol,
      ih (List.forall_mem_cons.mp inside).2]
    rfl

end Label

namespace Destination

private theorem bare?_url {url : Text} (inside : ∀ c ∈ url, isUrlChar c = true) (rest : Text) :
    bare? 0 (url ++ ')' :: rest) = some url := by
  induction url with
  | nil => rfl
  | cons c url ih =>
    obtain ⟨first, others⟩ := List.forall_mem_cons.mp inside
    have other : c ∉ "\\()".toList := Text.not_mem_of_outside (by decide) first
    simp only [String.reduceToList, List.mem_cons, List.not_mem_nil, or_false, not_or] at other
    have kept : (isSpacing c || isControl c) = false := by
      rw [isSpacing_of_isGap (isGap_of_isUrlChar first), isControl_of_isUrlChar first,
        Bool.or_false]
    rw [List.cons_append, bare?, if_neg other.2.1, if_neg other.2.2, kept,
      if_neg Bool.false_ne_true, ih others]
    · rfl
    · exact fun _ _ same _ => other.1 same

theorem resolve_of_no_ampersand {t : Text} (none : '&' ∉ t) :
    CharacterReference.resolve t = t := by
  rw [CharacterReference.resolve]
  induction t with
  | nil => rfl
  | cons c t ih =>
    rw [List.mem_cons, not_or] at none
    rw [CharacterReference.resolveFrom, if_neg (Ne.symm none.1), ih none.2]

private theorem unescape_of_no_backslash {t : Text} (none : '\\' ∉ t) : unescape t = t := by
  fun_induction unescape t with
  | case1 => rfl
  | case2 => rfl
  | case3 c d t mark _ =>
    simp only [Bool.and_eq_true, decide_eq_true_eq] at mark
    exact absurd (mark.1 ▸ List.mem_cons_self ..) none
  | case4 c d t _ ih => rw [ih fun member => none (List.mem_cons_of_mem c member)]

private theorem url_eq_self {source : Text} (isUrl : IsUrl source) : url source = source := by
  have trimmed : trim isSpacing source = source := by
    obtain ⟨c, t, rfl⟩ := List.exists_cons_of_ne_nil isUrl.1
    have bare (d : Char) (member : d ∈ c :: t) : isSpacing d = false :=
      isSpacing_of_isGap (isGap_of_isUrlChar (isUrl.2 d member))
    rw [trim, trimStart, List.dropWhile_cons_of_neg (by simp [bare c (List.mem_cons_self ..)])]
    exact trimEnd_eq_self fun d last => bare d (List.mem_of_getLast? last)
  rw [url, trimmed, resolve_of_no_ampersand (isUrl.not_mem (by decide)),
    unescape_of_no_backslash (isUrl.not_mem (by decide))]

private theorem read?_url {t : Text} (isUrl : IsUrl t) (rest : Text) :
    read? (t ++ ')' :: rest) = some (t, t.length) := by
  have bare := bare?_url isUrl.2 rest
  obtain ⟨c, u, rfl⟩ := List.exists_cons_of_ne_nil isUrl.1
  have first := isUrl.2 c (List.mem_cons_self ..)
  have kept : (isSpacing c || isControl c) = false := by
    rw [isSpacing_of_isGap (isGap_of_isUrlChar first), isControl_of_isUrlChar first, Bool.or_false]
  rw [List.cons_append] at bare ⊢
  rw [read?, kept, if_neg Bool.false_ne_true, bare]
  · rfl
  · rintro rfl
    exact absurd first (by decide)

private theorem inParentheses?_url {t : Text} (isUrl : IsUrl t) (rest : Text) :
    inParentheses? (t ++ ')' :: rest) = some (t, t.length + 1) := by
  have noSpace : (t ++ ')' :: rest).takeWhile isGap = [] := by
    obtain ⟨c, u, rfl⟩ := List.exists_cons_of_ne_nil isUrl.1
    have bare := isGap_of_isUrlChar (isUrl.2 c (List.mem_cons_self ..))
    exact List.takeWhile_cons_of_neg (by simp [bare])
  have after : (')' :: rest).takeWhile isGap = [] := rfl
  simp only [inParentheses?, noSpace, List.length_nil, List.drop_zero, read?_url isUrl,
    Nat.zero_add, Option.bind_eq_bind, Option.bind_some, List.drop_left, after, url_eq_self isUrl]
  rfl

end Destination

/-- A bracket with a parenthesis after it defines no link. -/
theorem LinkDefinition.readAll_link (links : LinkTable) {s t : Text} (spelled : Spells s t)
    (inside : ∀ c ∈ t, isUrlChar c = true) (rest : Text) :
    readAll links ('[' :: (s ++ ']' :: '(' :: rest)) =
      (links, '[' :: (s ++ ']' :: '(' :: rest)) := by
  have label := Label.inside?_spelled spelled inside ('(' :: rest)
  have afterLabel : (s ++ ']' :: '(' :: rest).drop (s.length + 1) = '(' :: rest := by
    rw [List.drop_append]
    simp
  have none : read? ('[' :: (s ++ ']' :: '(' :: rest)) = none := by
    simp only [read?, Text.after?, if_true, Option.bind_eq_bind, Option.bind_some, Label.read?,
      label]
    split
    · simp only [Option.bind_some, afterLabel]
      split
      · rfl
      · rfl
    · rfl
  rw [readAll, none]

namespace InlineReader

variable (links : LinkTable) (p : Passage) {r : InlineReader}

/-- The parentheses after a bracket give the URL of a link. -/
theorem target?_url (o : Opening) {url : Text} (isUrl : IsUrl url) (rest : Text) :
    target? links o ('(' :: (url ++ ')' :: rest)) = some (url, url.length + 2) := by
  simp only [target?, Text.after?, if_true, Option.bind_some,
    Destination.inParentheses?_url isUrl rest, Option.map_some]
  rfl

/-- A closing bracket makes a link of what it closes. -/
theorem closeBracket_link {o : Opening} {url t : Text} {n : Nat} (opened : r.openings = [o])
    (notImage : o.image = false) (first : r.afterLink = false)
    (target : target? links o t = some (url, n)) :
    r.closeBracket links t =
      ({ r with
        inBrackets := false
        pieces := .node (.link url (some o.start) (Emphasis.resolve r.pieces.reverse)) :: o.outer
        openings := []
        afterLink := true }, n) := by
  simp only [closeBracket, opened, notImage, first, Bool.false_and, Bool.false_eq_true, if_false,
    target, Bool.not_false, Bool.or_true]

private theorem exists_run_link {s url : Text} (isUrl : IsUrl url) (spelled : Spells s url) :
    ∃ last, ∃ texts : List Text, texts.flatten = url ∧
      run links p .fresh 0 ('[' :: (s ++ ']' :: '(' :: (url ++ [')']))) = last ∧
        last.openings = [] ∧
          last.pieces = [.node (.link url (some (p.position 0 0)) (texts.map .text))] := by
  have target (o : Opening) : target? links o ('(' :: (url ++ [')'])) =
      some (url, ('(' :: (url ++ [')'])).length) := by
    rw [target?_url links o isUrl [], List.length_cons, List.length_append]
    rfl
  generalize '(' :: (url ++ [')']) = after at target ⊢
  let opened : InlineReader := (fresh.openBracket p false (s ++ ']' :: after)).move ['[']
  have ranOpen : run links p .fresh 0 ('[' :: (s ++ ']' :: after)) =
      run links p opened 0 (s ++ ']' :: after) := rfl
  have quiet : ∀ c ∈ url, isQuiet c = true := fun c member =>
    isQuiet_of_class (isUrl.2 c member) (by decide)
  have stops : ∀ c ∈ (']' :: after).head?, isSpecial c = true ∧ c ≠ 'w' := by
    rintro c ⟨⟩
    decide
  obtain ⟨mid, ran, added⟩ : ∃ mid, run links p opened 0 (s ++ ']' :: after) =
      run links p mid 0 (']' :: after) ∧ Adds opened mid s url :=
    exists_run_spelled spelled quiet stops (fun same => nomatch same) rfl (.inl rfl)
  obtain ⟨texts, flat, pieces⟩ := added.pieces
  have closed := closeBracket_link links added.openings rfl added.afterLink (target _)
  have item : mid.readItem links p ']' after = mid.closeBracket links after := rfl
  have children : Emphasis.resolve mid.pieces.reverse = texts.map .text := by
    have nodes := Emphasis.resolve_nodes (texts.map .text)
    rw [List.map_map] at nodes
    rw [pieces, List.reverse_append, List.reverse_reverse]
    exact nodes
  rw [children] at closed
  have ended : run links p .fresh 0 ('[' :: (s ++ ']' :: after)) = _ :=
    ranOpen.trans (ran.trans (run_lastItem (by decide) (item.trans closed)))
  exact ⟨_, texts, flat, ended, rfl, rfl⟩

end InlineReader

/-- A URL in brackets before the same URL in parentheses is a link from the opening bracket on. -/
theorem exists_content_link (links : LinkTable) {p : Passage} {s url : Text} (isUrl : IsUrl url)
    (spelled : Spells s url)
    (source : trimEnd isSpacing p.text = '[' :: (s ++ ']' :: '(' :: (url ++ [')']))) :
    ∃ texts : List Text, texts.flatten = url ∧ content links p =
      [.text [], .link url (some (p.position 0 0)) (texts.map .text), .text []] := by
  obtain ⟨last, texts, flat, ran, noneOpen, pieces⟩ :=
    InlineReader.exists_run_link links p isUrl spelled
  refine ⟨texts, flat, ?_⟩
  rw [content, Passage.inlines, source, ran, noneOpen]
  change Address.inNodes [] (Emphasis.resolve last.pieces.reverse) = _
  rw [pieces]
  rfl

end Chatdown.Markdown
