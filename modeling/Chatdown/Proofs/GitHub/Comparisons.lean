import Chatdown.Proofs.GitHub.Urls
import Chatdown.Proofs.Text.Join

/-! # Comparisons of branches

The URL of a comparison ends with the names of two branches, and a branch may have slashes in its
name. What is shown ends at the first slash after the word `compare`: it is the whole range only if
neither branch has a slash.
-/

namespace Chatdown

namespace GitHub

/-- Tests for a character in the names of branches, between their slashes. -/
def isBranchChar (c : Char) : Bool := c.isAlphanum || c == '.' || c == '_' || c == '-'

/-- A branch, by the parts of its name. -/
structure Branch where
  first : Text
  more : List Text
  areParts : ∀ part ∈ first :: more, Text.IsRun isBranchChar part

/-- The name of a branch has a slash between its parts. -/
def Branch.name (b : Branch) : Text := ['/'].intercalate (b.first :: b.more)

structure Comparison where
  owner : Text
  repository : Text
  base : Branch
  head : Branch
  owner_valid : Text.IsRun (· ≠ '/') owner
  repository_valid : Text.IsRun (· ≠ '/') repository

namespace Comparison

/-- What is compared, as it stands in the URL. -/
def range (c : Comparison) : Text := c.base.name ++ ("...".toList ++ c.head.name)

def url (c : Comparison) : Text :=
  "https".toList ++ ("://github.com/".toList ++
    (c.owner ++ '/' :: (c.repository ++ '/' :: ("compare/".toList ++ c.range))))

/-- The range up to its first slash. -/
def cutRange (c : Comparison) : Text :=
  if c.base.more = [] then c.base.first ++ ("...".toList ++ c.head.first) else c.base.first

end Comparison

variable (b : Branch) (c : Comparison)

namespace Branch

/-- What comes after the first part of a name. -/
def rest (b : Branch) : Text := b.more.flatMap ('/' :: ·)

private theorem name_eq : b.name = b.first ++ b.rest :=
  Text.intercalate_cons_eq_append_flatMap ['/'] b.first b.more

private theorem head?_rest : ∀ d ∈ b.rest.head?, d = '/' := by
  rw [rest]
  cases b.more with
  | nil => simp
  | cons part parts =>
    rintro d ⟨⟩
    rfl

theorem rest_eq_nil_iff : b.rest = [] ↔ b.more = [] := by
  rw [rest]
  cases b.more with
  | nil => simp
  | cons part parts => simp

private theorem isRun_first : Text.IsRun (· ≠ '/') b.first := by
  obtain ⟨nonempty, chars⟩ := b.areParts b.first (List.mem_cons_self ..)
  refine ⟨nonempty, fun d member => decide_eq_true ?_⟩
  rintro rfl
  exact absurd (chars '/' member) (by decide)

end Branch

namespace Comparison

private theorem isRun_cutRange : Text.IsRun (· ≠ '/') c.cutRange := by
  have base := c.base.isRun_first
  have head := c.head.isRun_first
  have dots : ∀ d ∈ "...".toList, decide (d ≠ '/') = true := List.all_eq_true.mp (by decide)
  rw [cutRange]
  split
  · refine ⟨List.append_ne_nil_of_left_ne_nil base.1 _, ?_⟩
    exact List.forall_mem_append.mpr ⟨base.2, List.forall_mem_append.mpr ⟨dots, head.2⟩⟩
  · exact base

/-- The range is what it is cut to if no slash is in it; else a slash follows. -/
theorem exists_range_eq : ∃ rest : Text, c.range = c.cutRange ++ rest ∧
    (∀ d ∈ rest.head?, d = '/') ∧ (rest = [] ↔ c.base.more = [] ∧ c.head.more = []) := by
  rw [range, cutRange, c.base.name_eq, c.head.name_eq]
  split
  · rename_i single
    refine ⟨c.head.rest, ?_, c.head.head?_rest, ?_⟩
    · rw [c.base.rest_eq_nil_iff.mpr single, List.append_nil]
      simp only [List.append_assoc]
    · rw [c.head.rest_eq_nil_iff, and_iff_right single]
  · rename_i several
    have more : c.base.rest ≠ [] := mt c.base.rest_eq_nil_iff.mp several
    refine ⟨c.base.rest ++ ("...".toList ++ (c.head.first ++ c.head.rest)), ?_, ?_, ?_⟩
    · rw [List.append_assoc]
    · obtain ⟨d, t, same⟩ := List.exists_cons_of_ne_nil more
      have slash := c.base.head?_rest
      rw [same] at slash ⊢
      exact slash
    · simp [several]

private theorem isComparisonUrl_url : IsComparisonUrl c.owner c.repository c.cutRange c.url := by
  obtain ⟨rest, whole, slash, _⟩ := c.exists_range_eq
  refine ⟨rest, c.isRun_cutRange, slash, "https".toList, by simp, c.owner_valid,
    c.repository_valid, ?_⟩
  rw [url, whole]

end Comparison

/-- The URL of a comparison is shown by its range up to the first slash, and so by the whole range
exactly if both branches have names of one part. -/
theorem shown_comparison (c : Comparison) :
    shown c.url = c.cutRange ∧ (shown c.url = c.range ↔ c.base.more = [] ∧ c.head.more = []) := by
  have isUrl := c.isComparisonUrl_url
  have noIssue := issueNumber?_eq_none_iff.mpr fun _ _ _ issue => issue.not_isComparisonUrl isUrl
  have compared := comparedRange?_eq_some_iff.mpr ⟨_, _, isUrl⟩
  have cut : shown c.url = c.cutRange := by
    rw [shown, reference?_eq_some_iff.mpr (.inr ⟨noIssue, compared⟩), Option.getD_some]
  obtain ⟨rest, whole, _, all⟩ := c.exists_range_eq
  refine ⟨cut, ?_⟩
  rw [cut, whole, ← all, List.self_eq_append_right]

/-- A slash in the name of the first branch hides the second one. -/
theorem shown_comparison_slash :
    let feature : Branch := ⟨"feature".toList, ["x".toList], by decide⟩
    let main : Branch := ⟨"main".toList, [], by decide⟩
    let c : Comparison := ⟨['o'], ['r'], feature, main, by decide, by decide⟩
    c.url = "https://github.com/o/r/compare/feature/x...main".toList ∧
      shown c.url = "feature".toList ∧ shown c.url ≠ c.range := by
  decide

end GitHub

end Chatdown
