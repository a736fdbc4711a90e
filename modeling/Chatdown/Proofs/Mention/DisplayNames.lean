import Chatdown.Proofs.Markup.Entities
import Chatdown.Proofs.Rendering.Spans

/-! # Display names in mentions

A mention shows the name of its manager as content, and content is written as given: a name is not
escaped on its way there, and a reader takes it for markup. It comes out as it is recorded exactly
if it holds nothing that looks like a tag or like an entity.
-/

namespace Chatdown

namespace Markup

private theorem length_withoutTags_le (inTag : Bool) (t : Text) :
    (withoutTags inTag t).length ≤ t.length := by
  induction t generalizing inTag with
  | nil => exact Nat.le_refl 0
  | cons c t ih =>
    unfold withoutTags
    split
    · exact Nat.le_succ_of_le (ih _)
    · split
      · exact Nat.le_succ_of_le (ih _)
      · exact Nat.succ_le_succ (ih _)

private theorem length_withoutTags_lt {t : Text} (tagged : '<' ∈ t) :
    (withoutTags false t).length < t.length := by
  induction t with
  | nil => exact absurd tagged List.not_mem_nil
  | cons c t ih =>
    unfold withoutTags
    rw [if_neg Bool.false_ne_true]
    split
    · exact Nat.lt_succ_of_le (length_withoutTags_le true t)
    · rename_i other
      have later := (List.mem_cons.mp tagged).resolve_left fun same => other same.symm
      exact Nat.succ_lt_succ (ih later)

private theorem withoutTags_of_not_mem {t : Text} (untagged : '<' ∉ t) :
    withoutTags false t = t := by
  simpa [withoutTags] using withoutTags_append untagged []

/-- Markup that reads as it is written has no tag and no entity in it. -/
theorem visible_eq_self_iff {t : Text} :
    visible t = t ↔ '<' ∉ t ∧ ∀ e ∈ entities, ¬ e <:+: t := by
  constructor
  · intro same
    have untagged : '<' ∉ t := by
      intro tagged
      have tags := length_withoutTags_lt tagged
      have more := length_unescape_le (withoutTags false t)
      have whole := congrArg List.length same
      rw [visible] at whole
      omega
    rw [visible, withoutTags_of_not_mem untagged] at same
    exact ⟨untagged, unescape_eq_self_iff.mp same⟩
  · rintro ⟨untagged, none⟩
    rw [visible, withoutTags_of_not_mem untagged]
    exact unescape_eq_self_iff.mpr none

end Markup

namespace Mention

open Markup

variable {find? : Text → Option Manager} {s name : Text} {m : Manager} {before after : List Piece}

/-- The mention of a manager stands where the token does, with the name as content. -/
theorem substitute_escape_token (cut : pieces s = before ++ .token name :: after)
    (known : find? name.lower = some m) :
    substitute find? (escape s) =
      fill find? (before.flatMap Piece.escaped) ++
        ("<link type=\"manager\" value=\"".toList ++ escape m.id ++ "\">".toList ++ m.name ++
          "</link>".toList) ++
        fill find? (after.flatMap Piece.escaped) := by
  have written : fill find? [.token name] = mention .manager m.id m.name := by
    rw [fill, List.flatMap_singleton, Piece.fill, known]
  rw [substitute_escape, cut, List.flatMap_append, List.flatMap_cons, Piece.escaped,
    fill_append, fill_append, written, mention_manager_eq]
  simp only [List.append_assoc]

end Mention

open Markup Mention

/-- Wherever a text mentions a manager of a list of records, the content of the mention is the name
as it is recorded. It is read as that name exactly if no tag and no entity is in it. -/
theorem mention_content (records : List Manager) {s name : Text} {m : Manager}
    {before after : List Piece} (cut : pieces s = before ++ .token name :: after)
    (known : (Directory.ofList records).find? name.lower = some m) :
    substitute (Directory.ofList records).find? (escape s) =
        fill (Directory.ofList records).find? (before.flatMap Piece.escaped) ++
          ("<link type=\"manager\" value=\"".toList ++ escape m.id ++ "\">".toList ++ m.name ++
            "</link>".toList) ++
          fill (Directory.ofList records).find? (after.flatMap Piece.escaped) ∧
      (visible m.name = m.name ↔ '<' ∉ m.name ∧ ∀ e ∈ entities, ¬ e <:+: m.name) :=
  ⟨substitute_escape_token cut known, visible_eq_self_iff⟩

/-- The last of two records with one key is mentioned, between text that is escaped. -/
theorem mention_content_recorded :
    let records := [⟨"7".toList, "Jo".toList, none, some "jo".toList, none⟩,
      ⟨"8\"".toList, "J&J".toList, some "Jo@x".toList, none, none⟩]
    let find? := (Directory.ofList records).find?
    (pieces "<@JO>".toList = [.char '<'] ++ .token "JO".toList :: [.char '>'] ∧
      find? (Text.lower "JO".toList) =
        some ⟨"8\"".toList, "J&J".toList, some "Jo@x".toList, none, none⟩) ∧
    substitute find? (escape "<@JO>".toList) =
        "&lt;<link type=\"manager\" value=\"8&quot;\">J&J</link>&gt;".toList ∧
      (visible "J&J".toList = "J&J".toList ↔
        '<' ∉ "J&J".toList ∧ ∀ e ∈ entities, ¬ e <:+: "J&J".toList) := by
  intro records find?
  have cut : pieces "<@JO>".toList = [.char '<'] ++ .token "JO".toList :: [.char '>'] := by
    simp [pieces, isNameChar]
  have known : find? (Text.lower "JO".toList) =
      some ⟨"8\"".toList, "J&J".toList, some "Jo@x".toList, none, none⟩ := by decide
  exact ⟨⟨cut, known⟩, mention_content records cut known⟩

/-- A name that holds an entity is shown as another name. -/
theorem visible_content_ne_name :
    let jo : Manager := ⟨"7".toList, "R&amp;D <b>".toList, none, some "jo".toList, none⟩
    substitute (Directory.ofList [jo]).find? (escape "@jo".toList) =
        "<link type=\"manager\" value=\"7\">".toList ++ jo.name ++ "</link>".toList ∧
      visible jo.name ≠ jo.name := by
  intro jo
  have cut : pieces "@jo".toList = [] ++ .token "jo".toList :: [] := by simp [pieces, isNameChar]
  have known : (Directory.ofList [jo]).find? (Text.lower "jo".toList) = some jo := by decide
  exact ⟨substitute_escape_token cut known, by decide⟩

end Chatdown
