import Chatdown.Proofs.GitHub.Urls

/-! # Pages of issues

The URL of an issue or a pull request has the names of an owner and a repository in it, and its
short name is the number at its end.
-/

namespace Chatdown.GitHub

/-- Tests for a character in the names of owners and repositories. -/
def isSlugChar (c : Char) : Bool := c.isAlphanum || c == '-'

/-- The page of an issue or a pull request. -/
structure IssuePage where
  owner : Text
  repository : Text
  isPull : Bool
  number : Text
  owner_valid : Text.IsRun isSlugChar owner
  repository_valid : Text.IsRun isSlugChar repository
  number_valid : Text.IsRun Char.isDigit number

namespace IssuePage

/-- The kind of a page, as it stands in its URL. -/
def kind (page : IssuePage) : Text := if page.isPull then "pull".toList else "issues".toList

def url (page : IssuePage) : Text :=
  "https://github.com/".toList ++
    (page.owner ++ '/' :: (page.repository ++ '/' :: (page.kind ++ '/' :: page.number)))

def path (page : IssuePage) : Text :=
  page.owner ++ '/' :: (page.repository ++ '/' :: (page.kind ++ '/' :: page.number))

def urlUnder (page : IssuePage) (scheme : Text) : Text :=
  scheme ++ ("://github.com/".toList ++ page.path)

end IssuePage

private theorem isRun_slug {slug : Text} (valid : Text.IsRun isSlugChar slug) :
    Text.IsRun (· ≠ '/') slug := by
  refine ⟨valid.1, fun c member => decide_eq_true ?_⟩
  rintro rfl
  exact absurd (valid.2 '/' member) (by decide)

namespace IssuePage

variable (page : IssuePage)

theorem url_eq : page.url = page.urlUnder "https".toList := rfl

/-- A page is that of the issue with its number, and nothing is below it. -/
theorem isIssueUrl_urlUnder {scheme : Text} (known : scheme ∈ ["http".toList, "https".toList]) :
    IsIssueUrl page.owner page.repository page.number (page.urlUnder scheme) := by
  refine ⟨page.kind, ?_, [], page.number_valid, by simp, scheme, known,
    isRun_slug page.owner_valid, isRun_slug page.repository_valid, ?_⟩
  · rw [kind]
    split <;> simp
  · rw [urlUnder, path, List.append_nil]

/-- The page is shown as a hash and its number. -/
theorem shown_urlUnder {scheme : Text} (known : scheme ∈ ["http".toList, "https".toList]) :
    shown (page.urlUnder scheme) = '#' :: page.number := by
  have number := issueNumber?_eq_some_iff.mpr ⟨_, _, page.isIssueUrl_urlUnder known⟩
  rw [shown, reference?_eq_some_iff.mpr (.inl ⟨_, number, rfl⟩), Option.getD_some]

end IssuePage

end Chatdown.GitHub
