import Chatdown.Proofs.Mention.Pieces

/-! # Texts cut at their tokens

A token is an `@` with a name that goes on as far as it can, and the gaps before, between and after
tokens hold no token. Every text can be cut into gaps and tokens, and in one way only: the pieces of
a text are its cut, and whatever is a cut of a text is what its pieces say. Filling the tokens and
keeping the gaps is therefore all that substitution does.
-/

namespace Chatdown.Mention

/-- A text that is cut at tokens: the gap at its start, and the name of each token with the gap that
follows it. -/
structure Cut where
  start : Text
  tokens : List (Text × Text)
  deriving DecidableEq, Repr

namespace Cut

def written : List (Text × Text) → Text
  | [] => []
  | (name, gap) :: tokens => '@' :: name ++ (gap ++ written tokens)

/-- Text in which no token begins: no name character comes directly after an `@`. -/
def IsGap (gap : Text) : Prop := ∀ c, isNameChar c = true → ¬ ['@', c] <:+: gap

/-- Names that go on as far as they can, with gaps after them. -/
def AreTokens : List (Text × Text) → Prop
  | [] => True
  | (name, gap) :: tokens => IsName name ∧
      (∀ c ∈ (gap ++ written tokens).head?, isNameChar c = false) ∧ IsGap gap ∧ AreTokens tokens

/-- Tells that a text is cut at all of its tokens and nowhere else. -/
structure IsOf (cut : Cut) (t : Text) : Prop where
  whole : t = cut.start ++ written cut.tokens
  start : IsGap cut.start
  tokens : AreTokens cut.tokens

/-- The gaps as they are, with mentions in the place of the tokens whose names are known. -/
def filled (find? : Text → Option Manager) (cut : Cut) : Text :=
  cut.start ++ cut.tokens.flatMap fun (name, gap) =>
    (match find? name.lower with
      | some m => Markup.mention .manager m.id m.name
      | none => '@' :: name) ++ gap

/-- Pieces with the characters between two tokens put together. -/
def ofPieces : List Piece → Cut
  | [] => ⟨[], []⟩
  | .char c :: pieces => ⟨c :: (ofPieces pieces).start, (ofPieces pieces).tokens⟩
  | .token name :: pieces => ⟨[], (name, (ofPieces pieces).start) :: (ofPieces pieces).tokens⟩

theorem filled_ofPieces (find? : Text → Option Manager) (pieces : List Piece) :
    (ofPieces pieces).filled find? = pieces.flatMap (Piece.fill find?) := by
  induction pieces with
  | nil => rfl
  | cons piece pieces ih =>
    rw [List.flatMap_cons, ← ih]
    cases piece with
    | char c => rfl
    | token name =>
      rw [ofPieces, filled, filled, List.flatMap_cons, List.append_assoc, List.nil_append]
      rfl

theorem ofPieces_chars (gap : Text) (pieces : List Piece) :
    ofPieces (gap.map .char ++ pieces) =
      ⟨gap ++ (ofPieces pieces).start, (ofPieces pieces).tokens⟩ := by
  induction gap with
  | nil => rfl
  | cons c gap ih => rw [List.map_cons, List.cons_append, ofPieces, ih, List.cons_append]

private theorem isGap_nil : IsGap [] := by
  intro c _ inside
  cases List.infix_nil.mp inside

theorem isGap_cons_iff {c : Char} {gap : Text} :
    IsGap (c :: gap) ↔ (c = '@' → ∀ d ∈ gap.head?, isNameChar d = false) ∧ IsGap gap := by
  constructor
  · intro isGap
    refine ⟨?_, fun d named inside => isGap d named (inside.trans (List.suffix_cons c gap).isInfix)⟩
    rintro rfl d first
    obtain ⟨rest, rfl⟩ := List.head?_eq_some_iff.mp first
    rw [Bool.eq_false_iff]
    intro named
    exact isGap d named ⟨[], rest, rfl⟩
  · rintro ⟨bare, isGap⟩ d named inside
    rcases List.infix_cons_iff.mp inside with ⟨rest, same⟩ | later
    · obtain ⟨rfl, rfl⟩ := List.cons.inj same
      rw [bare rfl d rfl] at named
      cases named
    · exact isGap d named later

/-- What is written for tokens is empty or begins with an `@`. -/
theorem isNameChar_head_written (tokens : List (Text × Text)) :
    ∀ c ∈ (written tokens).head?, isNameChar c = false := by
  cases tokens with
  | nil => simp [written]
  | cons token tokens =>
    rintro c ⟨⟩
    decide

/-- The run of name characters at the start of a text is empty if its first character is none. -/
private theorem takeWhile_eq_nil_iff {t : Text} :
    t.takeWhile isNameChar = [] ↔ ∀ c ∈ t.head?, isNameChar c = false := by
  cases t with
  | nil => simp
  | cons c t => cases named : isNameChar c <;> simp [named]

/-- The characters of a gap are pieces of their own. -/
theorem pieces_gap {gap rest : Text} (isGap : IsGap gap)
    (outside : ∀ c ∈ rest.head?, isNameChar c = false) :
    pieces (gap ++ rest) = gap.map .char ++ pieces rest := by
  induction gap with
  | nil => rfl
  | cons c gap ih =>
    obtain ⟨bare, others⟩ := isGap_cons_iff.mp isGap
    have noName : c = '@' → (gap ++ rest).takeWhile isNameChar = [] := by
      intro same
      rw [takeWhile_eq_nil_iff]
      cases gap with
      | nil => exact outside
      | cons d gap => exact bare same
    rw [List.cons_append, pieces_char noName, ih others, List.map_cons, List.cons_append]

/-- A name is one piece with its `@` if it goes on as far as it can. -/
theorem pieces_token {name rest : Text} (known : IsName name)
    (outside : ∀ c ∈ rest.head?, isNameChar c = false) :
    pieces ('@' :: name ++ rest) = .token name :: pieces rest := by
  have run := Text.takeWhile_run known.2 outside
  rw [List.cons_append, pieces_at (run.symm ▸ known.1), run, Text.dropWhile_run known.2 outside]

private theorem ofPieces_written {tokens : List (Text × Text)} (areTokens : AreTokens tokens) :
    ofPieces (pieces (written tokens)) = ⟨[], tokens⟩ := by
  induction tokens with
  | nil => rw [written, pieces_nil, ofPieces]
  | cons token tokens ih =>
    obtain ⟨name, gap⟩ := token
    obtain ⟨known, outside, isGap, others⟩ := areTokens
    rw [written, pieces_token known outside, pieces_gap isGap (isNameChar_head_written tokens),
      ofPieces, ofPieces_chars, ih others, List.append_nil]

/-- There is no other cut of a text than the one that its pieces make. -/
theorem IsOf.eq_ofPieces {cut : Cut} {t : Text} (isOf : cut.IsOf t) :
    cut = ofPieces (pieces t) := by
  rw [isOf.whole, pieces_gap isOf.start (isNameChar_head_written cut.tokens), ofPieces_chars,
    ofPieces_written isOf.tokens, List.append_nil]

theorem isOf_ofPieces (t : Text) : (ofPieces (pieces t)).IsOf t := by
  induction t using pieces_induction with
  | nil =>
    rw [pieces_nil]
    exact ⟨rfl, isGap_nil, trivial⟩
  | token rest named ih =>
    rw [pieces_at named]
    have known : IsName (rest.takeWhile isNameChar) :=
      ⟨named, List.all_eq_true.mp List.all_takeWhile⟩
    have longest : ∀ c ∈ (rest.dropWhile isNameChar).head?, isNameChar c = false := by
      intro c first
      have stop := List.head?_dropWhile_not isNameChar rest
      rw [first] at stop
      exact stop
    refine ⟨?_, isGap_nil, known, ?_, ih.start, ih.tokens⟩
    · rw [ofPieces, written, ← ih.whole, List.nil_append, List.cons_append,
        List.takeWhile_append_dropWhile]
    · rwa [← ih.whole]
  | char c rest bare ih =>
    rw [pieces_char bare]
    refine ⟨congrArg (c :: ·) ih.whole, isGap_cons_iff.mpr ⟨?_, ih.start⟩, ih.tokens⟩
    intro same d first
    apply takeWhile_eq_nil_iff.mp (bare same)
    rw [ih.whole, List.head?_append, first, Option.some_or]
    rfl

end Cut

/-- Every text can be cut at its tokens in exactly one way. Substitution keeps the gaps and puts the
mention of a manager in the place of each token whose name is known in lower case. -/
theorem substitute_cut (find? : Text → Option Manager) (t : Text) :
    ∃ cut : Cut, (cut.IsOf t ∧ ∀ other : Cut, other.IsOf t → other = cut) ∧
      substitute find? t = cut.filled find? := by
  refine ⟨Cut.ofPieces (pieces t), ⟨Cut.isOf_ofPieces t, ?_⟩, ?_⟩
  · intro other isOf
    exact isOf.eq_ofPieces
  · rw [Cut.filled_ofPieces, substitute]

/-- An `@` before another one is part of a gap, and tokens may follow each other without a gap. -/
example : Cut.ofPieces (pieces "@@a-@b!@".toList) =
    ⟨['@'], [("a-".toList, []), (['b'], "!@".toList)]⟩ := by
  decide +kernel

end Chatdown.Mention
