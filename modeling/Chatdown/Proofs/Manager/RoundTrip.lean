import Chatdown.Manager.Decoding
import Chatdown.Manager.Encoding
import Chatdown.Proofs.Json.Reading

/-! # Reading back managers

A record is written as its members in order, but their order does not matter to the reader: any
distinct members of a record, each read once, fill a draft with what the record has. All of them
together make the record.
-/

namespace Chatdown.Manager

open Json (Tree Element Member Error)

private theorem text_of_locates {tree : Tree} {t : Text} (located : tree.Locates (.string t)) :
    tree.text = .ok t := by
  obtain ⟨stop, rfl⟩ := located
  rfl

private theorem optionalText_of_locates {tree : Tree} {t : Option Text}
    (located : tree.Locates (optional t)) : tree.optionalText = .ok t := by
  cases t with
  | none =>
    obtain ⟨stop, rfl⟩ := located
    rfl
  | some t =>
    obtain ⟨stop, rfl⟩ := located
    rfl

def Field.value (m : Manager) : Field → Json
  | .id => .string m.id
  | .name => .string m.name
  | .email => optional m.email
  | .githubUsername => optional m.githubUsername
  | .githubOrganization => optional m.githubOrganization

def written (m : Manager) (fields : List Field) : List (Text × Json) :=
  fields.map fun f => (f.key, f.value m)

theorem toJson_eq (m : Manager) : m.toJson = .object (m.written Field.all) := rfl

theorem Field.ofKey?_key (f : Field) : Field.ofKey? f.key = some f := by
  cases f <;> decide

namespace Draft

/-- A draft with one more member of a record. -/
def take (m : Manager) (d : Draft) : Field → Draft
  | .id => { d with id := some m.id }
  | .name => { d with name := some m.name }
  | .email => { d with email := some m.email }
  | .githubUsername => { d with githubUsername := some m.githubUsername }
  | .githubOrganization => { d with githubOrganization := some m.githubOrganization }

private theorem has_take_of_ne (m : Manager) (d : Draft) {f g : Field} (distinct : f ≠ g) :
    (d.take m f).has g = d.has g := by
  cases f <;> cases g <;> first | rfl | exact absurd rfl distinct

private theorem read_of_locates {m : Manager} {f : Field} {tree : Tree}
    (located : tree.Locates (f.value m))
    (d : Draft) : d.read f tree = .ok (d.take m f) := by
  cases f with
  | id => simp only [read, text_of_locates located, Except.map, take]
  | name => simp only [read, text_of_locates located, Except.map, take]
  | email => simp only [read, optionalText_of_locates located, Except.map, take]
  | githubUsername => simp only [read, optionalText_of_locates located, Except.map, take]
  | githubOrganization => simp only [read, optionalText_of_locates located, Except.map, take]

/-- Distinct members of a record are read one after the other, in whatever order they stand. -/
theorem readMembers_written (m : Manager) (fields : List Field) :
    ∀ (d : Draft) (members : List Member), Tree.MembersLocate members (m.written fields) →
      fields.Nodup → (∀ f ∈ fields, d.has f = false) →
        d.readMembers members = .ok (fields.foldl (take m) d) := by
  induction fields with
  | nil =>
    rintro d _ rfl _ _
    rfl
  | cons f fields ih =>
    rintro d _ ⟨_, tree, members, rfl, located, locateOthers⟩ distinct unread
    rw [List.nodup_cons] at distinct
    have unreadOthers : ∀ g ∈ fields, (d.take m f).has g = false := by
      intro g member
      have other : f ≠ g := by
        rintro rfl
        exact distinct.1 member
      rw [has_take_of_ne m d other]
      exact unread g (List.mem_cons_of_mem f member)
    have first := unread f (List.mem_cons_self ..)
    have rest := ih (d.take m f) members locateOthers distinct.2 unreadOthers
    simp only [readMembers, Field.ofKey?_key, first, read_of_locates located d, rest,
      Bool.false_eq_true, if_false, List.foldl_cons]

private theorem finish_all (m : Manager) : (Field.all.foldl (take m) {}).finish = .ok m := rfl

end Draft

theorem isExact_toJson (m : Manager) : m.toJson.IsExact := by
  obtain ⟨id, name, email, username, organization⟩ := m
  cases email <;> cases username <;> cases organization <;>
    exact ⟨trivial, trivial, trivial, trivial, trivial, trivial⟩

/-- A tree of a written record gives the record. -/
theorem ofTree_of_locates {m : Manager} {tree : Tree} (located : tree.Locates m.toJson) :
    ofTree tree = .ok m := by
  rw [toJson_eq] at located
  obtain ⟨_, _, members, _, rfl, located⟩ := located
  have read := Draft.readMembers_written m Field.all {} members located (by decide)
    (fun f _ => by cases f <;> rfl)
  simp only [ofTree, read, Draft.finish_all]
  rfl

/-- A record is read back from both of its written forms. -/
theorem ofJsonText_of_written (m : Manager) {t : Text} (written : t ∈ m.toJson.writtenForms) :
    ofJsonText t = .ok m := by
  obtain ⟨tree, located, decoded⟩ := Json.decode_writtenForms m.isExact_toJson written
  rw [ofJsonText, decoded]
  exact ofTree_of_locates located

end Chatdown.Manager
