import Chatdown.Proofs.Directory.LastRecord
import Chatdown.Proofs.Mention.LowerNames
import Chatdown.Proofs.Unicode.LowerCase

/-! # Spellings of names

The keys of a directory, the names of tokens and the user names that are asked for are put into lower
case where they come from, and compared as they are then. Lower case of lower case being the same, it
does not matter how often this is done, nor how a name is spelled.
-/

namespace Chatdown

namespace Mention

/-- Texts that differ at most in the case of ASCII letters. -/
def SameLetters (s t : Text) : Prop := s.map Char.toLower = t.map Char.toLower

instance (s t : Text) : Decidable (SameLetters s t) :=
  inferInstanceAs (Decidable (s.map Char.toLower = t.map Char.toLower))

private theorem isNameChar_toLower (c : Char) : isNameChar c.toLower = isNameChar c := by
  by_cases ascii : c.toNat < 128
  · have each : ∀ n, n < 128 →
        isNameChar (Char.ofNat n).toLower = isNameChar (Char.ofNat n) := by decide
    have same := each c.toNat ascii
    rwa [Char.ofNat_toNat] at same
  · have notLetter : ¬ (c.val ≥ 'A'.val ∧ c.val ≤ 'Z'.val) := by
      rintro ⟨_, high⟩
      have small : c.toNat ≤ 90 := UInt32.le_iff_toNat_le.mp high
      omega
    exact congrArg isNameChar (dif_neg notLetter)

private theorem isName_map_toLower {t : Text} : IsName (t.map Char.toLower) ↔ IsName t := by
  simp only [IsName, ne_eq, List.map_eq_nil_iff, List.forall_mem_map, isNameChar_toLower]

theorem SameLetters.isName {s t : Text} (same : SameLetters s t) (known : IsName t) : IsName s := by
  rw [← isName_map_toLower, same, isName_map_toLower]
  exact known

theorem SameLetters.lower_eq {s t : Text} (same : SameLetters s t) (known : IsName t) :
    s.lower = t.lower := by
  rw [(same.isName known).lower_eq, known.lower_eq, same]

/-- A name after an `@` is one token. -/
theorem pieces_name {name : Text} (known : IsName name) : pieces ('@' :: name) = [.token name] := by
  have whole := Text.takeWhile_run (t := []) known.2 (by simp)
  have rest := Text.dropWhile_run (t := []) known.2 (by simp)
  rw [List.append_nil] at whole rest
  rw [pieces_at (whole.symm ▸ known.1), whole, rest, pieces_nil]

end Mention

namespace Directory

private theorem findByUsername?_lower (d : Directory) (username : Text) :
    d.findByUsername? username.lower = d.findByUsername? username := by
  rw [findByUsername?, findByUsername?, Text.lower_lower]

/-- Keys are in lower case. -/
theorem lower_of_mem_entries {records : List Manager} :
    ∀ entry ∈ (ofList records).entries, entry.1.lower = entry.1 := by
  intro entry member
  obtain ⟨m, _, has⟩ := mem_keys_ofList_iff.mp (List.mem_map_of_mem member)
  obtain ⟨name, same⟩ := has.exists_eq_lower
  rw [same, Text.lower_lower]

end Directory

open Mention

/-- Whoever is found under a user name is mentioned by it, however the two are spelled. -/
theorem substitute_spelling (records : List Manager) :
    let d := Directory.ofList records
    (∀ name spelled : Text, IsName name → SameLetters spelled name →
      substitute d.find? ('@' :: spelled) =
        match d.findByUsername? name with
        | some m => Markup.mention .manager m.id m.name
        | none => '@' :: spelled) ∧
      (∀ entry ∈ d.entries, entry.1.lower = entry.1) ∧
      ∀ username : Text, d.findByUsername? username = d.findByUsername? username.lower ∧
        d.findByUsername? username = d.find? username.lower := by
  intro d
  refine ⟨?_, Directory.lower_of_mem_entries, ?_⟩
  · intro name spelled known same
    have asked : d.find? spelled.lower = d.findByUsername? name := by
      rw [same.lower_eq known, Directory.findByUsername?]
    rw [substitute, pieces_name (same.isName known), List.flatMap_singleton]
    cases found : d.findByUsername? name with
    | some m => simp only [Piece.fill, asked, found]
    | none => simp only [Piece.fill, asked, found]
  · intro username
    exact ⟨(d.findByUsername?_lower username).symm, rfl⟩

/-- A Kelvin sign is a letter of the key, and it is no letter of a token. -/
theorem substitute_spelling_kelvin :
    let kim : Manager := ⟨"7".toList, "Kim".toList, none, some "\u212Aim".toList, none⟩
    let d := Directory.ofList [kim]
    (IsName "kIM".toList ∧ SameLetters "KiM".toList "kIM".toList) ∧
      d.findByUsername? "kIM".toList = some kim ∧
      substitute d.find? "@KiM".toList = Markup.mention .manager kim.id kim.name := by
  intro kim d
  have known : IsName "kIM".toList := by decide
  have same : SameLetters "KiM".toList "kIM".toList := by decide
  have found : d.findByUsername? "kIM".toList = some kim := by decide
  have mentioned : substitute d.find? "@KiM".toList =
      match d.findByUsername? "kIM".toList with
      | some m => Markup.mention .manager m.id m.name
      | none => "@KiM".toList := (substitute_spelling [kim]).1 _ _ known same
  rw [found] at mentioned
  exact ⟨⟨known, same⟩, found, mentioned⟩

end Chatdown
