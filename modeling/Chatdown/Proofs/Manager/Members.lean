import Chatdown.Proofs.Json.Members
import Chatdown.Proofs.Manager.RoundTrip
import Chatdown.Proofs.Results

/-! # The members of a record

A record that is an object is made of the values that its five members have, each of which is there
once at most. All other members are passed over.
-/

namespace Chatdown.Manager

open Json (Tree Member Error valuesOf readInto)

def text? : Json → Option Text
  | .string t => some t
  | _ => none

def optionalText? : Json → Option (Option Text)
  | .null => some none
  | v => (text? v).map some

private theorem toOption_text {tree : Tree} {v : Json} (located : tree.Locates v) :
    tree.text.toOption = text? v := by
  cases v with
  | array vs =>
    obtain ⟨_, _, _, _, rfl, _⟩ := located
    rfl
  | object ms =>
    obtain ⟨_, _, _, _, rfl, _⟩ := located
    rfl
  | _ =>
    obtain ⟨_, rfl⟩ := located
    rfl

private theorem toOption_optionalText {tree : Tree} {v : Json} (located : tree.Locates v) :
    tree.optionalText.toOption = optionalText? v := by
  cases v with
  | array vs =>
    obtain ⟨_, _, _, _, rfl, _⟩ := located
    rfl
  | object ms =>
    obtain ⟨_, _, _, _, rfl, _⟩ := located
    rfl
  | _ =>
    obtain ⟨_, rfl⟩ := located
    rfl

theorem Field.key_eq_iff {f g : Field} : f.key = g.key ↔ f = g := by
  cases f <;> cases g <;> decide

theorem Field.eq_of_ofKey? {key : Text} {f : Field} (found : Field.ofKey? key = some f) :
    f.key = key := by
  simpa using List.find?_some found

theorem Field.key_ne_of_ofKey? {key : Text} (unknown : Field.ofKey? key = none) (f : Field) :
    key ≠ f.key := by
  rintro rfl
  rw [Field.ofKey?_key] at unknown
  cases unknown

namespace Draft

/-- A draft with what members have for the places that are left in it. -/
def filled? (d : Draft) (ms : List (Text × Json)) : Option Draft :=
  let text (place : Option Text) (f : Field) := readInto text? place (valuesOf f.key ms)
  let optional (place : Option (Option Text)) (f : Field) :=
    readInto optionalText? place (valuesOf f.key ms)
  (text d.id .id).bind fun id =>
    (text d.name .name).bind fun name =>
      (optional d.email .email).bind fun email =>
        (optional d.githubUsername .githubUsername).bind fun username =>
          (optional d.githubOrganization .githubOrganization).map fun organization =>
            ⟨id, name, email, username, organization⟩

/-- Only the values of the known keys matter. -/
theorem filled?_congr {ms others : List (Text × Json)}
    (same : ∀ f : Field, (valuesOf f.key ms).Perm (valuesOf f.key others)) (d : Draft) :
    d.filled? ms = d.filled? others := by
  simp only [filled?, fun f place => Json.readInto_perm text? (same f) place,
    fun f place => Json.readInto_perm optionalText? (same f) place]

def read? (d : Draft) (f : Field) (v : Json) : Option Draft :=
  if d.has f then none
  else
    match f with
    | .id => (text? v).map fun t => { d with id := some t }
    | .name => (text? v).map fun t => { d with name := some t }
    | .email => (optionalText? v).map fun t => { d with email := some t }
    | .githubUsername => (optionalText? v).map fun t => { d with githubUsername := some t }
    | .githubOrganization => (optionalText? v).map fun t => { d with githubOrganization := some t }

private theorem filled?_cons_known (d : Draft) (f : Field) (v : Json) (ms : List (Text × Json)) :
    d.filled? ((f.key, v) :: ms) = (d.read? f v).bind fun next => next.filled? ms := by
  obtain ⟨id, name, email, username, organization⟩ := d
  cases f with
  | id =>
    simp only [filled?, Json.readInto_members, Field.key_eq_iff, reduceCtorEq, if_true, if_false,
      read?, has]
    cases id with
    | some _ => simp
    | none => cases text? v <;> simp
  | name =>
    simp only [filled?, Json.readInto_members, Field.key_eq_iff, reduceCtorEq, if_true, if_false,
      read?, has]
    cases name with
    | some _ => simp
    | none => cases text? v <;> simp
  | email =>
    simp only [filled?, Json.readInto_members, Field.key_eq_iff, reduceCtorEq, if_true, if_false,
      read?, has]
    cases email with
    | some _ => simp
    | none => cases optionalText? v <;> simp
  | githubUsername =>
    simp only [filled?, Json.readInto_members, Field.key_eq_iff, reduceCtorEq, if_true, if_false,
      read?, has]
    cases username with
    | some _ => simp
    | none => cases optionalText? v <;> simp
  | githubOrganization =>
    simp only [filled?, Json.readInto_members, Field.key_eq_iff, reduceCtorEq, if_true, if_false,
      read?, has]
    cases organization with
    | some _ => simp
    | none => cases optionalText? v <;> simp

/-- A member that is not known is passed over. -/
theorem filled?_cons_unknown (d : Draft) {key : Text} (unknown : Field.ofKey? key = none) (v : Json)
    (ms : List (Text × Json)) : d.filled? ((key, v) :: ms) = d.filled? ms := by
  refine filled?_congr ?_ d
  intro f
  rw [Json.valuesOf_cons_of_ne (Field.key_ne_of_ofKey? unknown f)]

private theorem toOption_read {tree : Tree} {v : Json} (located : tree.Locates v) (d : Draft)
    {f : Field}
    (unread : d.has f = false) : (d.read f tree).toOption = d.read? f v := by
  unfold read?
  rw [unread, if_neg Bool.false_ne_true]
  cases f with
  | id => rw [read, Except.toOption_map, toOption_text located]
  | name => rw [read, Except.toOption_map, toOption_text located]
  | email => rw [read, Except.toOption_map, toOption_optionalText located]
  | githubUsername => rw [read, Except.toOption_map, toOption_optionalText located]
  | githubOrganization => rw [read, Except.toOption_map, toOption_optionalText located]

/-- The members of a tree fill a draft, in whatever order they stand. -/
theorem toOption_readMembers (d : Draft) {members : List Member} {ms : List (Text × Json)}
    (located : Tree.MembersLocate members ms) :
    (d.readMembers members).toOption = d.filled? ms := by
  induction ms generalizing d members with
  | nil =>
    obtain rfl := located
    rfl
  | cons m ms ih =>
    obtain ⟨key, v⟩ := m
    obtain ⟨afterKey, tree, others, rfl, locatedTree, located⟩ := located
    cases found : Field.ofKey? key with
    | none =>
      simp only [readMembers, found, Tree.skip_of_locates v tree locatedTree]
      rw [filled?_cons_unknown d found, ih d located]
    | some f =>
      obtain rfl := Field.eq_of_ofKey? found
      rw [filled?_cons_known]
      cases known : d.has f with
      | true =>
        simp only [readMembers, found, known, if_true, read?]
        rfl
      | false =>
        rw [← toOption_read locatedTree d known]
        simp only [readMembers, found, known, Bool.false_eq_true, if_false]
        cases d.read f tree with
        | error e => rfl
        | ok next => exact ih next located

end Draft

def ofMembers? (ms : List (Text × Json)) : Option Manager :=
  (Draft.filled? {} ms).bind fun d => d.finish.toOption

theorem ofMembers?_congr {ms others : List (Text × Json)}
    (same : ∀ f : Field, (valuesOf f.key ms).Perm (valuesOf f.key others)) :
    ofMembers? ms = ofMembers? others := by
  rw [ofMembers?, ofMembers?, Draft.filled?_congr same]

private theorem toOption_ofTree_object {tree : Tree} {ms : List (Text × Json)}
    (located : tree.Locates (.object ms)) : (ofTree tree).toOption = ofMembers? ms := by
  obtain ⟨start, peeked, members, stop, rfl, located⟩ := located
  rw [ofMembers?, ← Draft.toOption_readMembers {} located]
  cases read : Draft.readMembers {} members with
  | error e =>
    simp only [ofTree, read]
    rfl
  | ok d =>
    simp only [ofTree, read]
    exact Except.toOption_mapError _ _

/-- A text in which an object is written is read as the record that its members make. -/
theorem ofJsonText_object_eq_ok {ms : List (Text × Json)} (exact : (Json.object ms).IsExact)
    {t : Text} (written : t ∈ (Json.object ms).writtenForms) {m : Manager} :
    ofJsonText t = .ok m ↔ ofMembers? ms = some m := by
  obtain ⟨tree, located, decoded⟩ := Json.decode_writtenForms exact written
  rw [ofJsonText, decoded, ← toOption_ofTree_object located, Except.toOption_eq_some]

end Chatdown.Manager
