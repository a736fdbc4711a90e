import Chatdown.Conversion
import Chatdown.Proofs.Markdown.LineStarts
import Chatdown.Proofs.Markdown.Lines
import Chatdown.Proofs.Text.Runs

/-! # Fenced code

Between its fences code is taken over line by line. A line inside ends the code only if it is a
fence itself; all others are kept as they are, whatever else they could be the start of, and go into
the message untouched.
-/

namespace Chatdown

namespace Markdown

/-- A line that closes code after a fence of three backticks: up to three spaces, three or more
backticks, and only spaces and tabs after them. -/
def IsClosingFence (l : Text) : Prop :=
  ∃ indent length : Nat, ∃ padding : Text, indent ≤ 3 ∧ 3 ≤ length ∧
    (∀ c ∈ padding, c = ' ' ∨ c = '\t') ∧
      l = List.replicate indent ' ' ++ List.replicate length '\x60' ++ padding

namespace Cursor

/-- An indent that ends before the next tab stop consists of spaces. -/
theorem eq_spaces_append_of_indentFrom_lt {column : Nat} {t : Text}
    (small : indentFrom column t < toTabStop column) :
    t = List.replicate (indentFrom column t) ' ' ++ t.dropWhile isPad := by
  induction t generalizing column with
  | nil => rfl
  | cons c t ih =>
    unfold indentFrom at small ⊢
    by_cases space : c = ' '
    · subst space
      rw [if_pos rfl] at small
      have within : indentFrom (column + 1) t < toTabStop (column + 1) := by
        unfold toTabStop at small ⊢
        omega
      rw [if_pos rfl, List.replicate_succ, List.dropWhile_cons_of_pos (by decide), List.cons_append,
        ← ih within]
    · rw [if_neg space] at small ⊢
      by_cases tab : c = '\t'
      · rw [if_pos tab] at small
        omega
      · rw [if_neg tab, List.replicate_zero, List.nil_append,
          List.dropWhile_cons_of_neg (by simp [isPad, space, tab])]

end Cursor

/-- What the reader takes for a closing fence is what has the form of one. -/
theorem isClosingFence_iff {l : Text} :
    IsClosingFence l ↔ ((Cursor.atStart l).indent < codeIndent &&
      LeafStart.closesFence '\x60' 3 (Cursor.atStart l).body) = true := by
  simp only [LeafStart.closesFence, Text.drop_length_takeWhile, Bool.and_eq_true,
    decide_eq_true_eq]
  constructor
  · rintro ⟨indent, length, padding, small, long, pads, rfl⟩
    obtain ⟨more, rfl⟩ := Nat.exists_eq_add_of_le long
    have flush : IsFlush (List.replicate (3 + more) '\x60' ++ padding) := by
      rw [Nat.add_comm, List.replicate_succ]
      exact isFlush_cons _ (by decide)
    have ends : ∀ c ∈ padding.head?, decide (c = '\x60') = false := by
      intro c head
      rcases pads c (List.mem_of_head? head) with rfl | rfl <;> decide
    have indented : (Cursor.atStart (List.replicate indent ' ' ++
        List.replicate (3 + more) '\x60' ++ padding)).indent = indent := by
      rw [List.append_assoc]
      exact Cursor.indentFrom_spaces_append indent flush 0
    have body : (Cursor.atStart (List.replicate indent ' ' ++ List.replicate (3 + more) '\x60' ++
        padding)).body = List.replicate (3 + more) '\x60' ++ padding := by
      rw [List.append_assoc]
      exact Text.dropWhile_run (by simp [isPad]) flush
    rw [indented, body, Text.takeWhile_run (by simp) ends,
      Text.dropWhile_run (by simp) ends, List.length_replicate]
    refine ⟨Nat.lt_succ_of_le small, long, List.all_eq_true.mpr fun c member => ?_⟩
    rcases pads c member with rfl | rfl <;> decide
  · rintro ⟨small, long, pads⟩
    have spaces : l = List.replicate (Cursor.atStart l).indent ' ' ++ (Cursor.atStart l).body :=
      Cursor.eq_spaces_append_of_indentFrom_lt small
    generalize (Cursor.atStart l).indent = indent at small spaces
    generalize (Cursor.atStart l).body = body at long pads spaces
    refine ⟨indent, (body.takeWhile (· = '\x60')).length, body.dropWhile (· = '\x60'),
      Nat.le_of_lt_succ small, long, ?_, ?_⟩
    · intro c member
      simpa [isPad] using List.all_eq_true.mp pads c member
    · rw [← Text.takeWhile_eq_replicate, List.append_assoc, List.takeWhile_append_dropWhile]
      exact spaces

instance (l : Text) : Decidable (IsClosingFence l) := decidable_of_iff _ isClosingFence_iff.symm

namespace LeafStart

/-- Three backticks open code if there are no more backticks on the line. -/
theorem fence?_ticks {info : Text} (noTick : '\x60' ∉ info) :
    fence? ("```".toList ++ info) = some ('\x60', 3) := by
  have run : ("```".toList ++ info).takeWhile (· = '\x60') = "```".toList := by
    refine Text.takeWhile_run (by simp) fun c head => decide_eq_false ?_
    rintro rfl
    exact noTick (List.mem_of_head? head)
  have cons : "```".toList ++ info = '\x60' :: ("``".toList ++ info) := rfl
  rw [cons] at run ⊢
  simp only [fence?, run]
  simp [noTick]

end LeafStart

namespace Outline

variable (blocks : List (Block Passage)) (links : LinkTable) (n : Nat)

/-- A fence opens code: the rest of its line is kept apart as the first line. -/
theorem readLine_fence {info : Text} (noTick : '\x60' ∉ info) :
    readLine ⟨blocks, [], none, links, n⟩ ("```".toList ++ info) =
      ⟨blocks, [], some (.fenced '\x60' 3 0 [info]), links, n + 1⟩ := by
  have starts : BlockStarts.read ("```".toList ++ info).length 0 false false
      (Cursor.atStart ("```".toList ++ info)) = ⟨[], some (.fence '\x60' 3 0),
        (Cursor.atStart ("```".toList ++ info)).advanceChars 3⟩ := by
    have flush : IsFlush (Cursor.atStart ("```".toList ++ info)).rest := isFlush_cons _ (by decide)
    refine BlockStarts.read_leaf flush (by simp [Cursor.atStart]) ?_ _ 0 false
    rw [LeafStart.read?, Cursor.body_of_flush flush, Cursor.toBody_of_flush flush, Cursor.atStart,
      LeafStart.heading?_of_head (by simp), LeafStart.fence?_ticks noTick, Nat.sub_self]
  have inside : ((Cursor.atStart ("```".toList ++ info)).advanceChars 3).remainder = info := by
    rw [Cursor.remainder_of_not_inTab (Cursor.advanceChars_inTab rfl 3), Cursor.advanceChars_rest]
    rfl
  rw [readLine_outside fun _ => by simp]
  simp only [readInside, Cursor.atStart] at starts inside ⊢
  rw [starts]
  simp only [openStarts, openLeaf, closeInnermost, List.foldl_nil, inside]

/-- A line of code that is no fence is kept. -/
theorem readLine_code {l : Text} (lines : List Text) (isCode : ¬ IsClosingFence l) :
    readLine ⟨blocks, [], some (.fenced '\x60' 3 0 lines), links, n + 1⟩ l =
      ⟨blocks, [], some (.fenced '\x60' 3 0 (l :: lines)), links, n + 2⟩ := by
  rw [isClosingFence_iff] at isCode
  rw [readLine_outside fun first => absurd first (Nat.succ_ne_zero n)]
  simp only [readInside]
  rw [if_neg isCode]
  rfl

/-- All lines up to the closing fence are kept, the latest first. -/
theorem foldl_readLine_code {ls : List Text} (isCode : ∀ l ∈ ls, ¬ IsClosingFence l)
    (lines : List Text) :
    ls.foldl readLine ⟨blocks, [], some (.fenced '\x60' 3 0 lines), links, n + 1⟩ =
      ⟨blocks, [], some (.fenced '\x60' 3 0 (ls.reverse ++ lines)), links, n + 1 + ls.length⟩ := by
  induction ls generalizing n lines with
  | nil => rfl
  | cons l ls ih =>
    have rest := ih (n + 1) fun other member => isCode other (List.mem_cons_of_mem l member)
    rw [List.foldl_cons, readLine_code blocks links n lines (isCode l (List.mem_cons_self ..)),
      rest, List.reverse_cons, List.append_assoc, List.singleton_append, List.length_cons,
      Nat.add_right_comm (n + 1) 1, Nat.add_assoc (n + 1)]

/-- The closing fence makes a block of the code. -/
theorem readLine_closingFence (lines : List Text) :
    readLine ⟨blocks, [], some (.fenced '\x60' 3 0 lines), links, n⟩ "```".toList =
      ⟨.code (rawLines lines.dropLast) :: blocks, [], none, links, n + 1⟩ := by
  have closes : IsClosingFence "```".toList := ⟨0, 3, [], by decide, by decide, by simp, rfl⟩
  rw [isClosingFence_iff] at closes
  rw [readLine_outside fun _ => by decide]
  simp only [readInside, closes, if_true, closeInnermost, add]

/-- The lines between two fences make one block, and nothing is left open. -/
theorem ofLines_fencedCode {info : Text} {ls : List Text} (noTick : '\x60' ∉ info)
    (isCode : ∀ l ∈ ls, ¬ IsClosingFence l) :
    ofLines (("```".toList ++ info) :: (ls ++ ["```".toList])) =
      ⟨[.code (ls.flatMap (· ++ ['\n']))], [], none, .empty, 1 + ls.length + 1⟩ := by
  have kept : rawLines (ls.reverse ++ [info]).dropLast = ls.flatMap (· ++ ['\n']) := by
    rw [List.dropLast_concat, rawLines, List.reverse_reverse]
  rw [ofLines, empty, List.foldl_cons, readLine_fence [] .empty 0 noTick, List.foldl_append,
    foldl_readLine_code [] .empty 0 isCode, List.foldl_cons, List.foldl_nil, readLine_closingFence,
    kept]
  rfl

end Outline

end Markdown

/-- Whatever stands between two fences becomes the value of one code block, as it is. -/
theorem convert_fencedCode (find? : Text → Option Manager) {info : Text} {ls : List Text}
    (isLine : Markdown.IsLine info) (noTick : '\x60' ∉ info)
    (areLines : ∀ l ∈ ls, Markdown.IsLine l) (isCode : ∀ l ∈ ls, ¬ Markdown.IsClosingFence l) :
    convert find?
        ("```".toList ++ info ++ '\n' :: (ls.flatMap (· ++ ['\n']) ++ "```\n".toList)) =
      [.code none (ls.flatMap (· ++ ['\n']))] := by
  have ticks : Markdown.IsLine "```".toList := by decide
  have opening := Markdown.isLine_append ticks isLine
  have closing : Markdown.Line.split "```\n".toList = ["```".toList] := by decide
  have lines : Markdown.Line.split
      ("```".toList ++ info ++ '\n' :: (ls.flatMap (· ++ ['\n']) ++ "```\n".toList)) =
        ("```".toList ++ info) :: (ls ++ ["```".toList]) := by
    rw [Markdown.Line.split_line_append opening, Markdown.Line.split_lines_append areLines, closing]
  rw [convert, Markdown.read, lines, Markdown.Outline.ofLines_fencedCode noTick isCode]
  rfl

/-- Lines that are nearly fences, and lines that elsewhere would be lists, headings or mentions. -/
theorem convert_fencedCode_lookalikes :
    let jo := Directory.ofList [⟨"7".toList, "Jo".toList, none, some "jo".toList, none⟩]
    let info := " rs ~~~ @jo".toList
    let ls := ["    ```", "\t```", "``` x", "~~~", "``", "", "- @jo <b>", "===",
      "\uFEFF&amp;  "].map String.toList
    (Markdown.IsLine info ∧ '\x60' ∉ info ∧ (∀ l ∈ ls, Markdown.IsLine l) ∧
      ∀ l ∈ ls, ¬ Markdown.IsClosingFence l) ∧
    convert jo.find?
        ("```".toList ++ info ++ '\n' :: (ls.flatMap (· ++ ['\n']) ++ "```\n".toList)) =
      [.code none (ls.flatMap (· ++ ['\n']))] := by
  intro jo info ls
  have isLine : Markdown.IsLine info := by decide
  have noTick : '\x60' ∉ info := by decide
  have areLines : ∀ l ∈ ls, Markdown.IsLine l := by decide
  have isCode : ∀ l ∈ ls, ¬ Markdown.IsClosingFence l := by decide
  exact ⟨⟨isLine, noTick, areLines, isCode⟩,
    convert_fencedCode jo.find? isLine noTick areLines isCode⟩

end Chatdown
