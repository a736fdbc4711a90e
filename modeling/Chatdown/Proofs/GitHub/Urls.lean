import Chatdown.GitHub
import Chatdown.Proofs.Text.Runs

/-! # URLs with short names

Two kinds of URLs have short names: those of issues and pull requests, and those of comparisons.
Each kind is described by how its URLs are put together, and a URL is put together in one way only.
What is read off a URL is therefore what it was put together from, and no URL is of both kinds.
-/

namespace Chatdown.GitHub

def IsRepositoryUrl (owner repository path url : Text) : Prop :=
  ∃ scheme ∈ ["http".toList, "https".toList],
    Text.IsRun (· ≠ '/') owner ∧ Text.IsRun (· ≠ '/') repository ∧
      url = scheme ++ ("://github.com/".toList ++
        (owner ++ '/' :: (repository ++ '/' :: path)))

/-- The URL of an issue or a pull request, or of anything below its page. -/
def IsIssueUrl (owner repository number url : Text) : Prop :=
  ∃ kind ∈ ["issues".toList, "pull".toList], ∃ rest : Text,
    Text.IsRun Char.isDigit number ∧ (∀ c ∈ rest.head?, c.isDigit = false) ∧
      IsRepositoryUrl owner repository (kind ++ '/' :: (number ++ rest)) url

/-- The URL of a comparison, or of anything below its page. -/
def IsComparisonUrl (owner repository range url : Text) : Prop :=
  ∃ rest : Text, Text.IsRun (· ≠ '/') range ∧ (∀ c ∈ rest.head?, c = '/') ∧
    IsRepositoryUrl owner repository ("compare/".toList ++ (range ++ rest)) url

/-- A text begins with a run of a class of characters in one way only. -/
theorem nonempty?_takeWhile_eq_some_iff {p : Char → Bool} {t run : Text} :
    nonempty? (t.takeWhile p) = some run ↔
      Text.IsRun p run ∧ ∃ rest : Text, (∀ c ∈ rest.head?, p c = false) ∧ t = run ++ rest := by
  constructor
  · intro known
    rw [nonempty?] at known
    split at known
    · cases known
    · rename_i nonempty
      cases known
      refine ⟨⟨nonempty, List.all_eq_true.mp List.all_takeWhile⟩, t.dropWhile p, ?_,
        List.takeWhile_append_dropWhile.symm⟩
      intro c first
      have stop := List.head?_dropWhile_not p t
      rw [first] at stop
      exact stop
  · rintro ⟨⟨nonempty, inside⟩, rest, outside, rfl⟩
    rw [Text.takeWhile_run inside outside, nonempty?, if_neg nonempty]

theorem segment?_eq_some_iff {path name rest : Text} :
    segment? path = some (name, rest) ↔
      Text.IsRun (· ≠ '/') name ∧ path = name ++ '/' :: rest := by
  constructor
  · intro known
    rw [segment?] at known
    split at known
    · rename_i c run d left taken dropped
      obtain ⟨rfl, rfl⟩ := Prod.mk.inj (Option.some.inj known)
      have whole := List.takeWhile_append_dropWhile (p := (decide <| · ≠ '/')) (l := path)
      have stop := List.head?_dropWhile_not (decide <| · ≠ '/') path
      rw [dropped] at stop
      have slash : d = '/' := by simpa using stop
      refine ⟨⟨List.cons_ne_nil c run, ?_⟩, ?_⟩
      · rw [← taken]
        exact List.all_eq_true.mp List.all_takeWhile
      · rw [← whole, taken, dropped, slash]
    · cases known
  · rintro ⟨⟨nonempty, inside⟩, rfl⟩
    have outside : ∀ c ∈ ('/' :: rest).head?, decide (c ≠ '/') = false := by simp
    rw [segment?, Text.takeWhile_run inside outside, Text.dropWhile_run inside outside]
    obtain ⟨c, run, rfl⟩ := List.exists_cons_of_ne_nil nonempty
    rfl

/-- What follows the host in a URL of this host. -/
def hostPath? (url : Text) : Option Text := do
  let rest ← Text.after? "http".toList url
  Text.after? "://github.com/".toList ((Text.after? ['s'] rest).getD rest)

theorem hostPath?_eq_some_iff {url path : Text} :
    hostPath? url = some path ↔ ∃ scheme ∈ ["http".toList, "https".toList],
      url = scheme ++ ("://github.com/".toList ++ path) := by
  constructor
  · intro known
    obtain ⟨rest, afterHttp, known⟩ := Option.bind_eq_some_iff.mp known
    rw [Text.after?_eq_some_iff] at afterHttp known
    cases secure : Text.after? ['s'] rest with
    | none =>
      rw [secure, Option.getD_none] at known
      exact ⟨"http".toList, by simp, by rw [afterHttp, known]⟩
    | some after =>
      rw [secure, Option.getD_some] at known
      rw [Text.after?_eq_some_iff] at secure
      exact ⟨"https".toList, by simp, by rw [afterHttp, secure, known]; rfl⟩
  · rintro ⟨scheme, member, rfl⟩
    simp only [List.mem_cons, List.not_mem_nil, or_false] at member
    rcases member with rfl | rfl <;> simp [hostPath?, Text.after?]

theorem isRepositoryUrl_iff {owner repository path url : Text} :
    IsRepositoryUrl owner repository path url ↔ ∃ first second, hostPath? url = some first ∧
      segment? first = some (owner, second) ∧ segment? second = some (repository, path) := by
  constructor
  · rintro ⟨scheme, known, isOwner, isRepository, whole⟩
    exact ⟨_, _, hostPath?_eq_some_iff.mpr ⟨scheme, known, whole⟩,
      segment?_eq_some_iff.mpr ⟨isOwner, rfl⟩, segment?_eq_some_iff.mpr ⟨isRepository, rfl⟩⟩
  · rintro ⟨first, second, host, inOwner, inRepository⟩
    obtain ⟨isOwner, rfl⟩ := segment?_eq_some_iff.mp inOwner
    obtain ⟨isRepository, rfl⟩ := segment?_eq_some_iff.mp inRepository
    obtain ⟨scheme, known, whole⟩ := hostPath?_eq_some_iff.mp host
    exact ⟨scheme, known, isOwner, isRepository, whole⟩

theorem IsRepositoryUrl.unique {owner repository path owner' repository' path' url : Text}
    (first : IsRepositoryUrl owner repository path url)
    (second : IsRepositoryUrl owner' repository' path' url) :
    owner = owner' ∧ repository = repository' ∧ path = path' := by
  obtain ⟨p, q, host, inOwner, inRepository⟩ := isRepositoryUrl_iff.mp first
  obtain ⟨p', q', host', inOwner', inRepository'⟩ := isRepositoryUrl_iff.mp second
  obtain rfl := Option.some.inj (host.symm.trans host')
  obtain ⟨rfl, rfl⟩ := Prod.mk.inj (Option.some.inj (inOwner.symm.trans inOwner'))
  obtain ⟨rfl, rfl⟩ := Prod.mk.inj (Option.some.inj (inRepository.symm.trans inRepository'))
  exact ⟨rfl, rfl, rfl⟩

theorem repositoryPath?_eq_some_iff {url path : Text} :
    repositoryPath? url = some path ↔
      ∃ owner repository, IsRepositoryUrl owner repository path url := by
  have steps : repositoryPath? url = (hostPath? url).bind fun first =>
      (segment? first).bind fun owner => (segment? owner.2).bind fun repository =>
        some repository.2 := by
    simp only [repositoryPath?, hostPath?, Option.bind_eq_bind, Option.bind_assoc]
    rfl
  simp only [steps, isRepositoryUrl_iff, Option.bind_eq_some_iff]
  constructor
  · rintro ⟨first, host, ⟨owner, second⟩, inOwner, ⟨repository, rest⟩, inRepository, same⟩
    cases same
    exact ⟨owner, repository, first, second, host, inOwner, inRepository⟩
  · rintro ⟨owner, repository, first, second, host, inOwner, inRepository⟩
    exact ⟨first, host, (owner, second), inOwner, (repository, path), inRepository, rfl⟩

theorem after?_kind_eq_some_iff {path number : Text} :
    (Text.after? "issues/".toList path <|> Text.after? "pull/".toList path) = some number ↔
      ∃ kind ∈ ["issues".toList, "pull".toList], path = kind ++ '/' :: number := by
  constructor
  · intro known
    rw [Option.orElse_eq_orElse, Option.orElse_eq_or, Option.or_eq_some_iff] at known
    rcases known with issue | ⟨_, pull⟩
    · exact ⟨"issues".toList, by simp, (Text.after?_eq_some_iff.mp issue).trans rfl⟩
    · exact ⟨"pull".toList, by simp, (Text.after?_eq_some_iff.mp pull).trans rfl⟩
  · rintro ⟨kind, member, rfl⟩
    simp only [List.mem_cons, List.not_mem_nil, or_false] at member
    rcases member with rfl | rfl <;> simp [Text.after?]

theorem issueNumber?_eq_some_iff {url number : Text} :
    issueNumber? url = some number ↔
      ∃ owner repository, IsIssueUrl owner repository number url := by
  simp only [issueNumber?, Option.bind_eq_bind, Option.bind_eq_some_iff,
    repositoryPath?_eq_some_iff, after?_kind_eq_some_iff, nonempty?_takeWhile_eq_some_iff]
  constructor
  · rintro ⟨_, ⟨owner, repository, isUrl⟩, _, ⟨kind, known, rfl⟩, isNumber, rest, outside, rfl⟩
    exact ⟨owner, repository, kind, known, rest, isNumber, outside, isUrl⟩
  · rintro ⟨owner, repository, kind, known, rest, isNumber, outside, isUrl⟩
    exact ⟨_, ⟨owner, repository, isUrl⟩, _, ⟨kind, known, rfl⟩, isNumber, rest, outside, rfl⟩

theorem comparedRange?_eq_some_iff {url range : Text} :
    comparedRange? url = some range ↔
      ∃ owner repository, IsComparisonUrl owner repository range url := by
  simp only [comparedRange?, Option.bind_eq_bind, Option.bind_eq_some_iff,
    repositoryPath?_eq_some_iff, Text.after?_eq_some_iff, nonempty?_takeWhile_eq_some_iff]
  constructor
  · rintro ⟨_, ⟨owner, repository, isUrl⟩, _, rfl, isRange, rest, outside, rfl⟩
    exact ⟨owner, repository, rest, isRange, fun c first => by simpa using outside c first, isUrl⟩
  · rintro ⟨owner, repository, rest, isRange, slash, isUrl⟩
    exact ⟨_, ⟨owner, repository, isUrl⟩, _, rfl, isRange, rest,
      fun c first => by simpa using slash c first, rfl⟩

theorem IsIssueUrl.unique {owner repository number owner' repository' number' url : Text}
    (first : IsIssueUrl owner repository number url)
    (second : IsIssueUrl owner' repository' number' url) :
    owner = owner' ∧ repository = repository' ∧ number = number' := by
  have read := issueNumber?_eq_some_iff.mpr ⟨owner, repository, first⟩
  have readAgain := issueNumber?_eq_some_iff.mpr ⟨owner', repository', second⟩
  obtain ⟨_, _, _, _, _, isUrl⟩ := first
  obtain ⟨_, _, _, _, _, isUrl'⟩ := second
  obtain ⟨sameOwner, sameRepository, _⟩ := isUrl.unique isUrl'
  exact ⟨sameOwner, sameRepository, Option.some.inj (read.symm.trans readAgain)⟩

theorem IsComparisonUrl.unique {owner repository range owner' repository' range' url : Text}
    (first : IsComparisonUrl owner repository range url)
    (second : IsComparisonUrl owner' repository' range' url) :
    owner = owner' ∧ repository = repository' ∧ range = range' := by
  have read := comparedRange?_eq_some_iff.mpr ⟨owner, repository, first⟩
  have readAgain := comparedRange?_eq_some_iff.mpr ⟨owner', repository', second⟩
  obtain ⟨_, _, _, isUrl⟩ := first
  obtain ⟨_, _, _, isUrl'⟩ := second
  obtain ⟨sameOwner, sameRepository, _⟩ := isUrl.unique isUrl'
  exact ⟨sameOwner, sameRepository, Option.some.inj (read.symm.trans readAgain)⟩

/-- The path of an issue begins with another word than the path of a comparison. -/
theorem IsIssueUrl.not_isComparisonUrl {owner repository number owner' repository' range url : Text}
    (issue : IsIssueUrl owner repository number url) :
    ¬ IsComparisonUrl owner' repository' range url := by
  rintro ⟨_, _, _, isUrl'⟩
  obtain ⟨kind, known, _, _, _, isUrl⟩ := issue
  obtain ⟨_, _, samePath⟩ := isUrl.unique isUrl'
  simp only [List.mem_cons, List.not_mem_nil, or_false] at known
  rcases known with rfl | rfl <;> simp at samePath

theorem reference?_eq_some_iff {url shown : Text} :
    reference? url = some shown ↔
      (∃ number, issueNumber? url = some number ∧ '#' :: number = shown) ∨
        issueNumber? url = none ∧ comparedRange? url = some shown := by
  rw [reference?, Option.orElse_eq_orElse, Option.orElse_eq_or, Option.or_eq_some_iff,
    Option.map_eq_some_iff, Option.map_eq_none_iff]

theorem issueNumber?_eq_none_iff {url : Text} :
    issueNumber? url = none ↔
      ∀ owner repository number, ¬ IsIssueUrl owner repository number url := by
  simp only [Option.eq_none_iff_forall_ne_some, ne_eq, issueNumber?_eq_some_iff, not_exists]
  exact ⟨fun none owner repository number => none number owner repository,
    fun none number owner repository => none owner repository number⟩

theorem comparedRange?_eq_none_iff {url : Text} :
    comparedRange? url = none ↔
      ∀ owner repository range, ¬ IsComparisonUrl owner repository range url := by
  simp only [Option.eq_none_iff_forall_ne_some, ne_eq, comparedRange?_eq_some_iff, not_exists]
  exact ⟨fun none owner repository range => none range owner repository,
    fun none range owner repository => none owner repository range⟩

theorem reference?_issue_iff {url number : Text} :
    (reference? url = some ('#' :: number) ∧
        ∀ owner repository range, ¬ IsComparisonUrl owner repository range url) ↔
      ∃ owner repository, IsIssueUrl owner repository number url := by
  rw [← comparedRange?_eq_none_iff, ← issueNumber?_eq_some_iff, reference?_eq_some_iff]
  constructor
  · rintro ⟨⟨found, issue, same⟩ | ⟨_, compared⟩, none⟩
    · rwa [← (List.cons.inj same).2]
    · rw [none] at compared
      cases compared
  · intro issue
    refine ⟨.inl ⟨number, issue, rfl⟩, comparedRange?_eq_none_iff.mpr ?_⟩
    obtain ⟨_, _, isUrl⟩ := issueNumber?_eq_some_iff.mp issue
    exact fun _ _ _ => isUrl.not_isComparisonUrl

theorem reference?_comparison_iff {url range : Text} :
    (reference? url = some range ∧
        ∀ owner repository number, ¬ IsIssueUrl owner repository number url) ↔
      ∃ owner repository, IsComparisonUrl owner repository range url := by
  rw [← issueNumber?_eq_none_iff, ← comparedRange?_eq_some_iff, reference?_eq_some_iff]
  constructor
  · rintro ⟨⟨found, issue, same⟩ | ⟨_, compared⟩, none⟩
    · rw [none] at issue
      cases issue
    · exact compared
  · intro compared
    have none : issueNumber? url = none := by
      obtain ⟨_, _, isUrl⟩ := comparedRange?_eq_some_iff.mp compared
      exact issueNumber?_eq_none_iff.mpr fun _ _ _ issue => issue.not_isComparisonUrl isUrl
    exact ⟨.inr ⟨none, compared⟩, none⟩

theorem reference?_eq_none_iff {url : Text} :
    reference? url = none ↔
      (∀ owner repository number, ¬ IsIssueUrl owner repository number url) ∧
        ∀ owner repository range, ¬ IsComparisonUrl owner repository range url := by
  rw [← issueNumber?_eq_none_iff, ← comparedRange?_eq_none_iff, reference?,
    Option.orElse_eq_orElse, Option.orElse_eq_or, Option.or_eq_none_iff, Option.map_eq_none_iff]

/-- The URLs of issues are shown by their numbers and those of comparisons by their ranges, and no
other URL has a short name. Both kinds of URLs can be taken apart in one way only, and no URL is of
both kinds. A range may look like the number of an issue, and so it is the URL that tells what is
shown. -/
theorem reference?_forms (url : Text) :
    (∀ number, (reference? url = some ('#' :: number) ∧
        ∀ owner repository range, ¬ IsComparisonUrl owner repository range url) ↔
      ∃ owner repository, IsIssueUrl owner repository number url) ∧
    (∀ range, (reference? url = some range ∧
        ∀ owner repository number, ¬ IsIssueUrl owner repository number url) ↔
      ∃ owner repository, IsComparisonUrl owner repository range url) ∧
    (reference? url = none ↔
      (∀ owner repository number, ¬ IsIssueUrl owner repository number url) ∧
        ∀ owner repository range, ¬ IsComparisonUrl owner repository range url) ∧
    (∀ owner repository number owner' repository' range,
      ¬ (IsIssueUrl owner repository number url ∧ IsComparisonUrl owner' repository' range url)) ∧
    (∀ owner repository number owner' repository' number',
      IsIssueUrl owner repository number url → IsIssueUrl owner' repository' number' url →
        owner = owner' ∧ repository = repository' ∧ number = number') ∧
    ∀ owner repository range owner' repository' range',
      IsComparisonUrl owner repository range url → IsComparisonUrl owner' repository' range' url →
        owner = owner' ∧ repository = repository' ∧ range = range' := by
  refine ⟨fun _ => reference?_issue_iff, fun _ => reference?_comparison_iff,
    reference?_eq_none_iff, ?_, ?_, ?_⟩
  · exact fun _ _ _ _ _ _ both => both.1.not_isComparisonUrl both.2
  · exact fun _ _ _ _ _ _ first second => first.unique second
  · exact fun _ _ _ _ _ _ first second => first.unique second

/-- What is shown does not tell the two kinds apart: this is the URL of a comparison, and its range
looks like the number of an issue. -/
theorem reference?_range_like_number :
    let url := "https://github.com/o/r/compare/#12".toList
    reference? url = some ('#' :: "12".toList) ∧
      ¬ ∃ owner repository, IsIssueUrl owner repository "12".toList url := by
  intro url
  refine ⟨by decide, ?_⟩
  rw [← issueNumber?_eq_some_iff]
  decide

end Chatdown.GitHub
