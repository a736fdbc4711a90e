import Mathlib.Data.Set.Card
import Mathlib.Logic.Relation
import Chatdown.Directory
import Chatdown.Proofs.Text.Runs

/-! # The last record with a key

A directory is made by adding one record after another, and all that is seen of the records is, for
each key, the last one that has it: `find?_ofList_eq_some_iff`. A record that has no key is never
seen, and of two neighbours with different keys it does not matter which comes first.
-/

namespace Chatdown

namespace Manager

/-- The key of a record: the GitHub user name in lower case, or what stands before the first `@` of
the e-mail address if there is no user name. -/
inductive HasKey (m : Manager) : Text → Prop where
  | username {name : Text} (given : m.githubUsername = some name) : HasKey m name.lower
  | address {start rest : Text} (unnamed : m.githubUsername = none)
      (given : m.email = some (start ++ '@' :: rest)) (first : '@' ∉ start) : HasKey m start.lower

private theorem localPart?_of_not_mem {start : Text} (first : '@' ∉ start) (rest : Text) :
    localPart? (start ++ '@' :: rest) = some start := by
  have inside : ∀ c ∈ start, decide (c ≠ '@') = true := fun c member =>
    decide_eq_true fun same => first (same ▸ member)
  rw [localPart?, if_pos (List.mem_append_right start (List.mem_cons_self ..)),
    Text.takeWhile_run inside (by simp)]

theorem localPart?_eq_some_iff {address start : Text} :
    localPart? address = some start ↔ ∃ rest, address = start ++ '@' :: rest ∧ '@' ∉ start := by
  constructor
  · intro found
    by_cases member : '@' ∈ address
    · obtain ⟨before, rest, rfl, first⟩ := List.eq_append_cons_of_mem member
      rw [localPart?_of_not_mem first] at found
      cases found
      exact ⟨rest, rfl, first⟩
    · rw [localPart?, if_neg member] at found
      cases found
  · rintro ⟨rest, rfl, first⟩
    exact localPart?_of_not_mem first rest

theorem key?_eq_some_iff {m : Manager} {key : Text} : m.key? = some key ↔ m.HasKey key := by
  obtain ⟨id, name, email, githubUsername, githubOrganization⟩ := m
  constructor
  · intro found
    cases githubUsername with
    | some username =>
      cases found
      exact .username rfl
    | none =>
      obtain ⟨start, part, rfl⟩ := Option.map_eq_some_iff.mp found
      obtain ⟨address, rfl, cut⟩ := Option.bind_eq_some_iff.mp part
      obtain ⟨rest, rfl, first⟩ := localPart?_eq_some_iff.mp cut
      exact .address rfl rfl first
  · rintro (given | ⟨unnamed, given, first⟩)
    · cases given
      rfl
    · cases unnamed
      cases given
      have found := localPart?_of_not_mem first
      simp only [key?, emailLocalPart?, Option.bind_some, found]
      rfl

theorem HasKey.exists_eq_lower {m : Manager} {key : Text} (has : m.HasKey key) :
    ∃ name : Text, key = name.lower := by
  cases has with
  | username given => exact ⟨_, rfl⟩
  | address unnamed given first => exact ⟨_, rfl⟩

instance (m : Manager) (key : Text) : Decidable (m.HasKey key) :=
  decidable_of_iff (m.key? = some key) key?_eq_some_iff

end Manager

namespace Directory

/-- A record that is the last one of a list with the given key. -/
def IsLast (records : List Manager) (key : Text) (m : Manager) : Prop :=
  m.HasKey key ∧ ∃ before after, records = before ++ m :: after ∧ ∀ r ∈ after, ¬ r.HasKey key

private theorem lookup_filter_of_ne {key other : Text} (different : key ≠ other)
    (entries : List (Text × Manager)) :
    (entries.filter (·.1 ≠ other)).lookup key = entries.lookup key := by
  induction entries with
  | nil => rfl
  | cons entry entries ih =>
    obtain ⟨listed, m⟩ := entry
    by_cases same : listed = other
    · have notThis : (key == listed) = false := by rwa [same, beq_eq_false_iff_ne]
      rw [List.filter_cons_of_neg (by simpa using same), ih, List.lookup_cons, notThis]
    · rw [List.filter_cons_of_pos (by simpa using same), List.lookup_cons, List.lookup_cons, ih]

private theorem find?_insert (d : Directory) (other : Text) (m : Manager) (key : Text) :
    (d.insert other m).find? key = if key = other then some m else d.find? key := by
  simp only [insert, find?, List.lookup_cons]
  by_cases same : key = other
  · rw [if_pos same, beq_iff_eq.mpr same]
  · rw [if_neg same, beq_eq_false_iff_ne.mpr same, lookup_filter_of_ne same]

/-- Adding a record changes what is found under its key, and nothing else. -/
theorem find?_add (d : Directory) (m : Manager) (key : Text) :
    (d.add m).find? key = if m.key? = some key then some m else d.find? key := by
  rw [add]
  cases found : m.key? with
  | none => rw [if_neg (by simp)]
  | some other =>
    simp only [find?_insert, Option.some.injEq]
    exact if_congr eq_comm rfl rfl

private theorem find?_ofList (records : List Manager) (key : Text) :
    (ofList records).find? key = records.reverse.find? (·.key? = some key) := by
  induction records using List.reverseRecOn with
  | nil => rfl
  | append_singleton records m ih =>
    have added : ofList (records ++ [m]) = (ofList records).add m := by
      rw [ofList, ofList, List.foldl_append, List.foldl_cons, List.foldl_nil]
    rw [added, find?_add, ih, List.reverse_append, List.reverse_singleton, List.singleton_append,
      List.find?_cons]
    by_cases has : m.key? = some key
    · rw [if_pos has, decide_eq_true has]
    · rw [if_neg has, decide_eq_false has]

theorem find?_ofList_eq_some_iff {records : List Manager} {key : Text} {m : Manager} :
    (ofList records).find? key = some m ↔ IsLast records key m := by
  rw [find?_ofList, List.find?_eq_some_iff_append, decide_eq_true_eq, Manager.key?_eq_some_iff]
  apply and_congr_right
  intro _
  constructor
  · rintro ⟨later, earlier, same, none⟩
    refine ⟨earlier.reverse, later.reverse, ?_, ?_⟩
    · rw [← List.reverse_reverse records, same, List.reverse_append, List.reverse_cons,
        List.append_assoc, List.singleton_append]
    · intro r member has
      have other := none r (List.mem_reverse.mp member)
      simp [Manager.key?_eq_some_iff.mpr has] at other
  · rintro ⟨before, after, rfl, none⟩
    refine ⟨after.reverse, before.reverse, ?_, ?_⟩
    · rw [List.reverse_append, List.reverse_cons, List.append_assoc, List.singleton_append]
    · intro r member
      have other := none r (List.mem_reverse.mp member)
      rw [← Manager.key?_eq_some_iff] at other
      simpa using other

theorem find?_ofList_eq_none_iff {records : List Manager} {key : Text} :
    (ofList records).find? key = none ↔ ∀ r ∈ records, ¬ r.HasKey key := by
  rw [find?_ofList, List.find?_eq_none]
  simp only [List.mem_reverse, decide_eq_true_eq, Manager.key?_eq_some_iff]

theorem find?_isSome_iff {d : Directory} {key : Text} :
    (d.find? key).isSome ↔ key ∈ d.entries.map Prod.fst := by
  simp only [find?, List.lookup_isSome_iff, List.mem_map, beq_iff_eq]
  exact exists_congr fun entry => and_congr_right fun _ => eq_comm

/-- The keys of a directory are those of its records. -/
theorem mem_keys_ofList_iff {records : List Manager} {key : Text} :
    key ∈ (ofList records).entries.map Prod.fst ↔ ∃ r ∈ records, r.HasKey key := by
  rw [← find?_isSome_iff, Option.isSome_iff_ne_none, ne_eq, find?_ofList_eq_none_iff]
  simp

theorem size_ofList (records : List Manager) :
    (ofList records).size = {key | ∃ r ∈ records, r.HasKey key}.ncard := by
  have keys : {key | ∃ r ∈ records, r.HasKey key} =
      (((ofList records).entries.map Prod.fst).toFinset : Set Text) := by
    ext key
    rw [Set.mem_ofPred_eq, Finset.mem_coe, List.mem_toFinset, mem_keys_ofList_iff]
  rw [keys, Set.ncard_coe_finset, List.toFinset_card_of_nodup (ofList records).keys_nodup,
    List.length_map, size]

theorem isEmpty_ofList_iff {records : List Manager} :
    (ofList records).isEmpty ↔ ∀ r ∈ records, ∀ key, ¬ r.HasKey key := by
  rw [isEmpty, List.isEmpty_iff, ← List.map_eq_nil_iff (f := Prod.fst),
    List.eq_nil_iff_forall_not_mem]
  simp only [mem_keys_ofList_iff]
  grind

/-- Lists of records of which the second has two neighbours without a common key the other way round,
or lacks a record without a key. -/
inductive Rearranged : List Manager → List Manager → Prop where
  | exchange (before after : List Manager) {a b : Manager}
      (apart : ∀ key, a.HasKey key → ¬ b.HasKey key) :
      Rearranged (before ++ a :: b :: after) (before ++ b :: a :: after)
  | remove (before after : List Manager) {m : Manager} (unlisted : ∀ key, ¬ m.HasKey key) :
      Rearranged (before ++ m :: after) (before ++ after)

theorem Rearranged.find?_eq {records others : List Manager} (step : Rearranged records others)
    (key : Text) : (ofList records).find? key = (ofList others).find? key := by
  rw [find?_ofList, find?_ofList]
  cases step with
  | @exchange before after a b apart =>
    have neighbours : [b, a].find? (·.key? = some key) = [a, b].find? (·.key? = some key) := by
      by_cases has : a.key? = some key
      · have other : b.key? ≠ some key := by
          rw [ne_eq, Manager.key?_eq_some_iff]
          exact apart key (Manager.key?_eq_some_iff.mp has)
        simp [has, other]
      · simp [List.find?_cons, has]
    have split (first second : Manager) : (before ++ first :: second :: after).reverse =
        after.reverse ++ ([second, first] ++ before.reverse) := by simp
    rw [split a b, split b a, List.find?_append, List.find?_append, List.find?_append,
      List.find?_append, neighbours]
  | @remove before after m unlisted =>
    have unseen : [m].find? (·.key? = some key) = none := by
      simpa using fun has => unlisted key (Manager.key?_eq_some_iff.mp has)
    rw [List.reverse_append, List.reverse_append, List.reverse_cons, List.append_assoc,
      List.find?_append, List.find?_append, List.find?_append, unseen, Option.none_or]

/-- No such changes are seen, however many there are. -/
theorem find?_eq_of_rearranged {records others : List Manager}
    (steps : Relation.ReflTransGen Rearranged records others) (key : Text) :
    (ofList records).find? key = (ofList others).find? key := by
  induction steps with
  | refl => rfl
  | tail _ step ih => rw [ih, step.find?_eq]

end Directory

end Chatdown
