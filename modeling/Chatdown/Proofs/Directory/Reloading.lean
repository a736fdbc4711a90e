import Chatdown.Loading
import Chatdown.Proofs.Directory.LastRecord
import Chatdown.Proofs.Results

/-! # Directories that are loaded again

A directory that is loaded from one source after another, and asked for managers in between, is at
any time the directory of one list of records: that of the last source that could be read. Sources
that cannot be read leave no trace, and neither do questions.
-/

namespace Chatdown.Directory

def Source.records? : Source → Option (List Manager)
  | .nothing => some []
  | .records managers => some managers
  | .json t => (Manager.listOfJsonText t).toOption
  | .file read path => (readText read path).toOption.bind fun t => (Manager.listOfJsonText t).toOption

private theorem ofJsonText_toOption (t : Text) :
    (ofJsonText t).toOption = (Manager.listOfJsonText t).toOption.map ofList := by
  rw [ofJsonText, Except.toOption_map]

/-- A source is loaded if its records can be read, and then the directory is made of them. -/
theorem load_toOption (source : Source) : (load source).toOption = source.records?.map ofList := by
  cases source with
  | nothing => rfl
  | records managers => rfl
  | json t => rw [load, Except.toOption_mapError, ofJsonText_toOption, Source.records?]
  | file read path =>
    rw [load, Source.records?]
    cases readText read path with
    | error e => rfl
    | ok t => exact (Except.toOption_mapError _ _).trans (ofJsonText_toOption t)

private theorem reload_eq (d : Directory) (source : Source) :
    d.reload source = (source.records?.map ofList).getD d := by
  rw [← load_toOption, reload]
  cases load source <;> rfl

/-- What is done with a directory: it is loaded, or it is asked for a key or a user name. -/
inductive Step where
  | load (source : Source)
  | find (key : Text)
  | findByUsername (username : Text)

namespace Step

def act (d : Directory) : Step → Directory
  | load source => d.reload source
  | find _ => d
  | findByUsername _ => d

/-- The records that a step puts in the place of those before. -/
def records? : Step → Option (List Manager)
  | load source => source.records?
  | find _ => none
  | findByUsername _ => none

private theorem act_eq (d : Directory) (step : Step) :
    step.act d = (step.records?.map ofList).getD d := by
  cases step with
  | load source => exact reload_eq d source
  | find key => rfl
  | findByUsername username => rfl

end Step

/-- The directory after some steps, which is empty at first. -/
def run (steps : List Step) : Directory := steps.foldl Step.act empty

/-- The records of the last successful load, none if there was none. -/
def lastLoaded (steps : List Step) : List Manager := (steps.reverse.findSome? Step.records?).getD []

private theorem run_eq (steps : List Step) : run steps = ofList (lastLoaded steps) := by
  induction steps using List.reverseRecOn with
  | nil => rfl
  | append_singleton steps step ih =>
    rw [run, List.foldl_append, List.foldl_cons, List.foldl_nil, Step.act_eq, ← run, ih, lastLoaded,
      lastLoaded, List.reverse_append, List.reverse_singleton, List.singleton_append,
      List.findSome?_cons]
    cases step.records? <;> rfl

/-- After any steps, what is found under a key is the last record with that key among those of the
last successful load. -/
theorem run_lastRecord (steps : List Step) :
    let d := run steps
    let records := lastLoaded steps
    (∀ key m, d.find? key = some m ↔ IsLast records key m) ∧
      (∀ key, d.find? key = none ↔ ∀ r ∈ records, ¬ r.HasKey key) ∧
      d.size = {key | ∃ r ∈ records, r.HasKey key}.ncard ∧
      (d.isEmpty ↔ ∀ r ∈ records, ∀ key, ¬ r.HasKey key) ∧
      ∀ others, Relation.ReflTransGen Rearranged records (lastLoaded others) →
        ∀ key, d.find? key = (run others).find? key := by
  intro d records
  have same : d = ofList records := run_eq steps
  rw [same]
  refine ⟨fun _ _ => find?_ofList_eq_some_iff, fun _ => find?_ofList_eq_none_iff,
    size_ofList records, isEmpty_ofList_iff, ?_⟩
  intro others rearranged key
  rw [run_eq others, find?_eq_of_rearranged rearranged]

/-- A user name hides the e-mail address beside it, a later address takes the place of a user name,
and neither a record without a key nor a load that fails is noticed. -/
theorem run_lastRecord_hidden :
    let jo : Manager := ⟨"1".toList, "Jo".toList, some "eve@x.io".toList, some "JO".toList, none⟩
    let eve : Manager := ⟨"2".toList, "Eve".toList, some "Eve@x.io@".toList, none, none⟩
    let nobody : Manager := ⟨"3".toList, "No".toList, some "jo".toList, none, none⟩
    let amy : Manager := ⟨"4".toList, "Amy".toList, some "jo@y.io".toList, none, none⟩
    let steps : List Step := [.load (.records [jo, eve, nobody, amy]), .find "jo".toList,
      .load (.json "[\x7b\x7d]".toList), .findByUsername "JO".toList]
    let others : List Step := [.load (.records [jo]), .load (.records [eve, jo, amy])]
    (lastLoaded steps = [jo, eve, nobody, amy] ∧
        (run steps).find? "jo".toList = some amy ∧ (run steps).find? "eve".toList = some eve) ∧
      Relation.ReflTransGen Rearranged (lastLoaded steps) (lastLoaded others) ∧
        ∀ key, (run steps).find? key = (run others).find? key := by
  intro jo eve nobody amy steps others
  have loaded : lastLoaded steps = [jo, eve, nobody, amy] := by decide
  have apart : ∀ key, jo.HasKey key → ¬ eve.HasKey key := by
    intro key first second
    have one : jo.key? = some "jo".toList := by decide
    have other : eve.key? = some "eve".toList := by decide
    rw [← Manager.key?_eq_some_iff, one] at first
    rw [← Manager.key?_eq_some_iff, other, ← first] at second
    exact absurd second (by decide)
  have unlisted : ∀ key, ¬ nobody.HasKey key := by
    intro key has
    have none : nobody.key? = none := by decide
    rw [← Manager.key?_eq_some_iff, none] at has
    cases has
  have rearranged : Relation.ReflTransGen Rearranged (lastLoaded steps) (lastLoaded others) := by
    rw [loaded]
    apply Relation.ReflTransGen.tail (b := [eve, jo, nobody, amy])
    · exact .single (.exchange [] [nobody, amy] apart)
    · exact .remove [eve, jo] [amy] unlisted
  obtain ⟨found, _, _, _, same⟩ := run_lastRecord steps
  refine ⟨⟨loaded, ?_, ?_⟩, rearranged, same others rearranged⟩
  · rw [found, loaded]
    exact ⟨by decide, [jo, eve, nobody], [], rfl, by decide⟩
  · rw [found, loaded]
    exact ⟨by decide, [jo], [nobody, amy], rfl, by decide⟩

end Chatdown.Directory
