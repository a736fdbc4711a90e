import Chatdown.Proofs.Markup.Grammar

/-! # What markup shows

A reader of markup sees no tags, and sees characters where entities stand. Escaped text shows the
text itself and an element shows its content, wherever they stand in a longer markup: `Shows` says
this of a part of markup without looking at what follows it.
-/

namespace Chatdown.Markup

/-- A text without its tags, each of which goes from a `<` to the next `>`; `inTag` says whether
the text begins inside a tag. -/
def withoutTags (inTag : Bool) : Text → Text
  | [] => []
  | c :: t =>
    if inTag then withoutTags (c != '>') t
    else if c = '<' then withoutTags true t
    else c :: withoutTags false t

/-- A text with characters in the place of entities, read once from left to right. -/
def unescape : Text → Text
  | '&' :: 'q' :: 'u' :: 'o' :: 't' :: ';' :: t => '"' :: unescape t
  | '&' :: 'a' :: 'm' :: 'p' :: ';' :: t => '&' :: unescape t
  | '&' :: 'l' :: 't' :: ';' :: t => '<' :: unescape t
  | '&' :: 'g' :: 't' :: ';' :: t => '>' :: unescape t
  | c :: t => c :: unescape t
  | [] => []

/-- What a reader of markup sees. -/
def visible (t : Text) : Text := unescape (withoutTags false t)

private theorem unescape_cons {c : Char} (ordinary : c ≠ '&') (t : Text) :
    unescape (c :: t) = c :: unescape t := by
  rw [unescape] <;> simp_all

/-- Whatever follows the written form of a character, it is read as that character. -/
theorem unescape_escapeChar (c : Char) (t : Text) :
    unescape (escapeChar c ++ t) = c :: unescape t := by
  cases special : isSpecial c with
  | true => rcases isSpecial_iff.mp special with rfl | rfl | rfl | rfl <;> rfl
  | false =>
    have notAmpersand : c ≠ '&' := by
      rintro rfl
      contradiction
    rw [escapeChar_of_ordinary special, List.singleton_append, unescape_cons notAmpersand]

theorem unescape_escape_append (s t : Text) : unescape (escape s ++ t) = s ++ unescape t := by
  induction s with
  | nil => rfl
  | cons c s ih => rw [escape_cons, List.append_assoc, unescape_escapeChar, ih, List.cons_append]

/-- Markup that shows a text, whatever follows it. -/
def Shows (s shown : Text) : Prop := ∀ t, visible (s ++ t) = shown ++ visible t

theorem Shows.visible_eq {s shown : Text} (shows : Shows s shown) : visible s = shown := by
  simpa [visible, withoutTags, unescape] using shows []

theorem Shows.nil : Shows [] [] := fun _ => rfl

theorem Shows.append {s t first second : Text} (head : Shows s first) (tail : Shows t second) :
    Shows (s ++ t) (first ++ second) := by
  intro rest
  rw [List.append_assoc, head, tail, List.append_assoc]

theorem Shows.flatMap {α : Type} {f g : α → Text} {l : List α} (each : ∀ a ∈ l, Shows (f a) (g a)) :
    Shows (l.flatMap f) (l.flatMap g) := by
  induction l with
  | nil => exact .nil
  | cons a l ih =>
    exact (each a (List.mem_cons_self ..)).append
      (ih fun b member => each b (List.mem_cons_of_mem a member))

theorem withoutTags_append {s : Text} (untagged : '<' ∉ s) (t : Text) :
    withoutTags false (s ++ t) = s ++ withoutTags false t := by
  induction s with
  | nil => rfl
  | cons c s ih =>
    simp only [List.mem_cons, not_or] at untagged
    rw [List.cons_append, withoutTags, if_neg Bool.false_ne_true, if_neg (Ne.symm untagged.1),
      ih untagged.2, List.cons_append]

theorem shows_escape (t : Text) : Shows (escape t) t := by
  intro rest
  rw [visible, withoutTags_append (not_mem_escape rfl (by decide) t),
    unescape_escape_append]
  rfl

theorem shows_of_ordinary {t : Text} (ordinary : ∀ c ∈ t, isSpecial c = false) : Shows t t := by
  simpa only [escape_of_ordinary ordinary] using shows_escape t

theorem shows_char {c : Char} (ordinary : isSpecial c = false) : Shows [c] [c] :=
  shows_of_ordinary (List.forall_mem_singleton.mpr ordinary)

private theorem withoutTags_inside {tag : Text} (inside : '>' ∉ tag) (t : Text) :
    withoutTags true (tag ++ '>' :: t) = withoutTags false t := by
  induction tag with
  | nil => rfl
  | cons c tag ih =>
    simp only [List.mem_cons, not_or] at inside
    have more : (c != '>') = true := bne_iff_ne.mpr fun same => inside.1 same.symm
    simpa only [List.cons_append, withoutTags, more, if_true] using ih inside.2

/-- A tag shows nothing. -/
theorem shows_tag (tag : Text) (inside : '>' ∉ tag) : Shows ('<' :: tag ++ ['>']) [] := by
  intro t
  have skipped := withoutTags_inside inside t
  rw [List.append_assoc, List.singleton_append, List.cons_append, visible, withoutTags]
  simp only [Bool.false_eq_true, if_false, if_true, skipped]
  rfl

variable {content shown : Text}

/-- Content between tags shows what it shows without them. -/
theorem Shows.between {opening closing : Text} (opens : Shows opening [])
    (shows : Shows content shown) (closes : Shows closing []) :
    Shows (opening ++ content ++ closing) shown := by
  have whole := (opens.append shows).append closes
  rwa [List.nil_append, List.append_nil] at whole

theorem Shows.bold (shows : Shows content shown) : Shows (bold content) shown := by
  have opens : Shows "<b>".toList [] := shows_tag ['b'] (by decide)
  have closes : Shows "</b>".toList [] := shows_tag ['/', 'b'] (by decide)
  exact .between opens shows closes

theorem Shows.italic (shows : Shows content shown) : Shows (italic content) shown := by
  have opens : Shows "<i>".toList [] := shows_tag ['i'] (by decide)
  have closes : Shows "</i>".toList [] := shows_tag ['/', 'i'] (by decide)
  exact .between opens shows closes

/-- A link shows its content, whatever its value is. -/
theorem Shows.link (shows : Shows content shown) {type : Text} (inside : '>' ∉ type)
    (value : Text) : Shows (link type value content) shown := by
  have noGreater : '>' ∉ escape value := not_mem_escape rfl (by decide) value
  have opens : Shows ("<link type=\"".toList ++ type ++ "\" value=\"".toList ++ escape value ++
      "\">".toList) [] := by
    have tag := shows_tag ("link type=\"".toList ++ type ++ "\" value=\"".toList ++
      escape value ++ ['"']) (by simp [inside, noGreater])
    simpa using tag
  have closes : Shows "</link>".toList [] := shows_tag "/link".toList (by decide)
  exact .between opens shows closes

end Chatdown.Markup
