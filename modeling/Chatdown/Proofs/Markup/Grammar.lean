import Chatdown.Proofs.Markup.Escape

/-! # Well-formed markup

The markup that a chat client accepts, in three layers. Plain text opens no tag and ends no
attribute, flat text may also mention managers by a plain name, and an element holds flat text only,
so that no element stands inside another. All three are closed under writing one text after another.
-/

namespace Chatdown.Markup

/-- What holds of nothing and of two parts together holds of all that is made of such parts. -/
theorem closed_flatMap {α β : Type} {P : List β → Prop} (nil : P [])
    (append : ∀ {s t}, P s → P t → P (s ++ t)) {f : α → List β} {l : List α}
    (each : ∀ a ∈ l, P (f a)) : P (l.flatMap f) := by
  induction l with
  | nil => exact nil
  | cons a l ih =>
    have head := each a (List.mem_cons_self ..)
    have tail := ih fun b member => each b (List.mem_cons_of_mem a member)
    exact append head tail

/-- Ordinary characters and entities. -/
inductive IsPlain : Text → Prop where
  | nil : IsPlain []
  | char {c : Char} {t : Text} (ordinary : isSpecial c = false) (rest : IsPlain t) :
      IsPlain (c :: t)
  | entity {e t : Text} (known : e ∈ entities) (rest : IsPlain t) : IsPlain (e ++ t)

/-- Ordinary characters, entities and mentions of managers. -/
inductive IsFlat : Text → Prop where
  | nil : IsFlat []
  | char {c : Char} {t : Text} (ordinary : isSpecial c = false) (rest : IsFlat t) : IsFlat (c :: t)
  | entity {e t : Text} (known : e ∈ entities) (rest : IsFlat t) : IsFlat (e ++ t)
  | mention {id name t : Text} (plainId : IsPlain id) (plainName : IsPlain name)
      (rest : IsFlat t) :
      IsFlat ("<link type=\"manager\" value=\"".toList ++ id ++ "\">".toList ++ name ++
        "</link>".toList ++ t)

/-- Flat text, and bold, italic and URL elements around flat text. -/
inductive IsWellFormed : Text → Prop where
  | nil : IsWellFormed []
  | flat {s t : Text} (content : IsFlat s) (rest : IsWellFormed t) : IsWellFormed (s ++ t)
  | bold {s t : Text} (content : IsFlat s) (rest : IsWellFormed t) :
      IsWellFormed ("<b>".toList ++ s ++ "</b>".toList ++ t)
  | italic {s t : Text} (content : IsFlat s) (rest : IsWellFormed t) :
      IsWellFormed ("<i>".toList ++ s ++ "</i>".toList ++ t)
  | link {url s t : Text} (plainUrl : IsPlain url) (content : IsFlat s) (rest : IsWellFormed t) :
      IsWellFormed ("<link type=\"url\" value=\"".toList ++ url ++ "\">".toList ++ s ++
        "</link>".toList ++ t)

theorem inlineLink_eq (url content : Text) :
    inlineLink url content =
      "<link type=\"url\" value=\"".toList ++ escape url ++ "\">".toList ++ content ++
        "</link>".toList := by
  have tag : "<link type=\"".toList ++ "url".toList ++ "\" value=\"".toList =
      "<link type=\"url\" value=\"".toList := by decide
  unfold inlineLink link
  rw [tag]

theorem mention_manager_eq (id name : Text) :
    mention .manager id name =
      "<link type=\"manager\" value=\"".toList ++ escape id ++ "\">".toList ++ name ++
        "</link>".toList := by
  have tag : "<link type=\"".toList ++ MentionKind.manager.name ++ "\" value=\"".toList =
      "<link type=\"manager\" value=\"".toList := by decide
  unfold mention link
  rw [tag]

theorem IsPlain.of_ordinary {t : Text} (ordinary : ∀ c ∈ t, isSpecial c = false) :
    IsPlain t := by
  induction t with
  | nil => exact .nil
  | cons c t ih =>
    exact .char (ordinary c (List.mem_cons_self ..))
      (ih fun d member => ordinary d (List.mem_cons_of_mem c member))

/-- Whatever a text holds, its escaped form is plain. -/
theorem isPlain_escape (t : Text) : IsPlain (escape t) := by
  induction t with
  | nil => exact .nil
  | cons c t ih =>
    rw [escape_cons]
    cases special : isSpecial c with
    | false =>
      rw [escapeChar_of_ordinary special]
      exact .char special ih
    | true => exact .entity (escapeChar_mem_entities special) ih

theorem IsPlain.isFlat {t : Text} (plain : IsPlain t) : IsFlat t := by
  induction plain with
  | nil => exact .nil
  | char ordinary _ ih => exact .char ordinary ih
  | entity known _ ih => exact .entity known ih

theorem IsFlat.append {s t : Text} (first : IsFlat s) (second : IsFlat t) : IsFlat (s ++ t) := by
  induction first with
  | nil => exact second
  | char ordinary _ ih => exact .char ordinary ih
  | entity known _ ih =>
    rw [List.append_assoc]
    exact .entity known ih
  | mention plainId plainName _ ih =>
    simp only [List.append_assoc] at ih ⊢
    simpa only [List.append_assoc] using IsFlat.mention plainId plainName ih

theorem IsFlat.flatMap {α : Type} {f : α → Text} {l : List α} (each : ∀ a ∈ l, IsFlat (f a)) :
    IsFlat (l.flatMap f) :=
  closed_flatMap .nil .append each

theorem IsWellFormed.append {s t : Text} (first : IsWellFormed s) (second : IsWellFormed t) :
    IsWellFormed (s ++ t) := by
  induction first with
  | nil => exact second
  | flat content _ ih =>
    rw [List.append_assoc]
    exact .flat content ih
  | bold content _ ih =>
    rw [List.append_assoc]
    exact .bold content ih
  | italic content _ ih =>
    rw [List.append_assoc]
    exact .italic content ih
  | link plainUrl content _ ih =>
    rw [List.append_assoc]
    exact .link plainUrl content ih

theorem IsWellFormed.flatMap {α : Type} {f : α → Text} {l : List α}
    (each : ∀ a ∈ l, IsWellFormed (f a)) : IsWellFormed (l.flatMap f) :=
  closed_flatMap .nil .append each

/-- Flat text stands for itself. -/
theorem IsFlat.isWellFormed {t : Text} (flat : IsFlat t) : IsWellFormed t := by
  simpa only [List.append_nil] using IsWellFormed.flat flat .nil

end Chatdown.Markup
