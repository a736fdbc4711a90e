import Chatdown.Markdown.Inlines
import Chatdown.Proofs.Text.Join
import Chatdown.Proofs.Text.Runs

/-! # Reading running text

A reader cuts running text into several pieces, at characters that could have begun something else.
What matters is what the pieces hold together: `exists_run_spelled` says that a source which spells
a text is read as this text, wherever it stands, if there is no place for a bare URL.
-/

namespace Chatdown.Markdown

/-- Text that does not end with white space. -/
def IsSolid (t : Text) : Prop := ∀ c ∈ t.getLast?, isSpacing c = false

theorem IsSolid.of_append {s t : Text} (solid : IsSolid (s ++ t)) : IsSolid t := by
  intro c last
  apply solid
  rw [List.getLast?_append, last]
  rfl

theorem IsSolid.append {t : Text} (solid : IsSolid t) (nonempty : t ≠ []) (s : Text) :
    IsSolid (s ++ t) := by
  obtain ⟨d, last⟩ := Option.ne_none_iff_exists'.mp (mt List.getLast?_eq_none_iff.mp nonempty)
  rw [IsSolid, List.getLast?_append, last, Option.some_or, ← last]
  exact solid

theorem isSolid_intercalate {ts : List Text} (each : ∀ t ∈ ts, t ≠ [] ∧ IsSolid t)
    (separator : Text) : IsSolid (separator.intercalate ts) := by
  induction ts with
  | nil => simp [IsSolid]
  | cons t ts ih =>
    cases ts with
    | nil =>
      rw [List.intercalate_singleton]
      exact (each t (List.mem_cons_self ..)).2
    | cons u ts =>
      have others : ∀ v ∈ u :: ts, v ≠ [] ∧ IsSolid v := fun v member => each v (.tail t member)
      have nonempty := Text.intercalate_ne_nil (others u (List.mem_cons_self ..)).1 separator ts
      rw [List.intercalate_cons_cons]
      exact (ih others).append nonempty (t ++ separator)

theorem trimEnd_eq_self {p : Char → Bool} {t : Text} (last : ∀ c ∈ t.getLast?, p c = false) :
    trimEnd p t = t := by
  rw [trimEnd]
  cases same : t.reverse with
  | nil => rw [List.dropWhile_nil, ← same, List.reverse_reverse]
  | cons c s =>
    have kept : t.getLast? = some c := by rw [List.getLast?_eq_head?_reverse, same, List.head?_cons]
    rw [List.dropWhile_cons_of_neg (by simp [last c kept]), ← same, List.reverse_reverse]

theorem trimEnd_of_solid {t : Text} (solid : IsSolid t) : trimEnd isSpacing t = t :=
  trimEnd_eq_self solid

theorem trimEnd_lineEnd {t : Text} (solid : IsSolid t) : trimEnd isSpacing (t ++ ['\n']) = t := by
  rw [trimEnd, List.reverse_append, List.reverse_singleton, List.singleton_append,
    List.dropWhile_cons_of_pos (by decide)]
  exact trimEnd_of_solid solid

/-- A character that is text unless it is part of a bare URL. -/
def isQuiet (c : Char) : Bool := !InlineReader.isSpecial c || c == 'w' || c == ':'

theorem isQuiet_of_class {p : Char → Bool} {c : Char} (inside : p c = true)
    (apart : "\n\\&<[]!~*_\x60".toList.all (!p ·) = true) : isQuiet c = true := by
  have other := Text.not_mem_of_outside apart inside
  simp only [String.reduceToList, List.mem_cons, List.not_mem_nil, or_false, not_or] at other
  rw [isQuiet, InlineReader.isSpecial]
  by_cases host : c = 'w'
  · simp [host]
  · by_cases colon : c = ':' <;> simp [other, host, colon]

/-- Source that spells a text: each character as it is, or a symbol after a backslash. -/
inductive Spells : Text → Text → Prop where
  | nil : Spells [] []
  | char (c : Char) {s t : Text} (rest : Spells s t) : Spells (c :: s) (c :: t)
  | escaped {c : Char} {s t : Text} (symbol : Unicode.isAsciiSymbol c = true)
      (rest : Spells s t) : Spells ('\\' :: c :: s) (c :: t)

namespace Spells

theorem refl (t : Text) : Spells t t := by
  induction t with
  | nil => exact .nil
  | cons c t ih => exact .char c ih

theorem cons_iff {c : Char} {s t : Text} :
    Spells s (c :: t) ↔ (∃ more, s = c :: more ∧ Spells more t) ∨
      Unicode.isAsciiSymbol c = true ∧ ∃ more, s = '\\' :: c :: more ∧ Spells more t := by
  constructor
  · intro spelled
    cases spelled with
    | char _ rest => exact .inl ⟨_, rfl, rest⟩
    | escaped symbol rest => exact .inr ⟨symbol, _, rfl, rest⟩
  · rintro (⟨more, rfl, rest⟩ | ⟨symbol, more, rfl, rest⟩)
    · exact .char c rest
    · exact .escaped symbol rest

def check (s : Text) : Text → Bool
  | [] => s.isEmpty
  | c :: t =>
    (Text.after? [c] s).any (check · t) ||
      Unicode.isAsciiSymbol c && (Text.after? ['\\', c] s).any (check · t)

theorem check_iff {s t : Text} : check s t = true ↔ Spells s t := by
  induction t generalizing s with
  | nil =>
    rw [check, List.isEmpty_iff]
    constructor
    · rintro rfl
      exact .nil
    · rintro ⟨⟩
      rfl
  | cons c t ih =>
    simp only [check, cons_iff, Bool.or_eq_true, Bool.and_eq_true, Option.any_eq_true,
      Text.after?_eq_some_iff, ih, List.cons_append, List.nil_append]

instance (s t : Text) : Decidable (Spells s t) := decidable_of_iff _ check_iff

/-- Only backslashes are added. -/
theorem not_mem {s t : Text} (spelled : Spells s t) {d : Char} (other : d ≠ '\\') (none : d ∉ t) :
    d ∉ s := by
  induction spelled with
  | nil => exact none
  | char c _ ih =>
    rw [List.mem_cons, not_or] at none ⊢
    exact ⟨none.1, ih none.2⟩
  | escaped _ _ ih =>
    rw [List.mem_cons, not_or] at none
    rw [List.mem_cons, List.mem_cons, not_or, not_or]
    exact ⟨other, none.1, ih none.2⟩

/-- A source begins with a run of ordinary characters, which spells itself. -/
theorem exists_run {s t : Text} (spelled : Spells s t) (quiet : ∀ c ∈ t, isQuiet c = true) :
    ∃ run more left, s = run ++ more ∧ t = run ++ left ∧ Spells more left ∧
      (∀ d ∈ run, InlineReader.isSpecial d = false) ∧
        ∀ d ∈ more.head?, InlineReader.isSpecial d = true ∧ d ≠ '\n' := by
  induction spelled with
  | nil => exact ⟨[], [], [], rfl, rfl, .nil, by simp, by simp⟩
  | @char c s t rest ih =>
    obtain ⟨first, others⟩ := List.forall_mem_cons.mp quiet
    cases special : InlineReader.isSpecial c with
    | true =>
      have notEnd : c ≠ '\n' := by rintro rfl; exact absurd first (by decide)
      exact ⟨[], c :: s, c :: t, rfl, rfl, .char c rest, by simp, by simp [special, notEnd]⟩
    | false =>
      obtain ⟨run, more, left, rfl, rfl, spelledMore, ordinary, stops⟩ := ih others
      refine ⟨c :: run, more, left, rfl, rfl, spelledMore, ?_, stops⟩
      exact List.forall_mem_cons.mpr ⟨special, ordinary⟩
  | @escaped c s t symbol rest _ =>
    refine ⟨[], '\\' :: c :: s, c :: t, rfl, rfl, .escaped symbol rest, by simp, ?_⟩
    rintro d ⟨⟩
    decide

end Spells

namespace InlineReader

/-- What reading `source` changes if it is read as the text `shown`. -/
structure Adds (r next : InlineReader) (source shown : Text) : Prop where
  pieces : ∃ texts : List Text, texts.flatten = shown ∧
    next.pieces = (texts.map fun t => Piece.node (.text t)).reverse ++ r.pieces
  before : next.before = source.reverse ++ r.before
  openings : next.openings = r.openings
  inBrackets : next.inBrackets = r.inBrackets
  afterLink : next.afterLink = r.afterLink

namespace Adds

variable {r next last : InlineReader} {source more shown rest : Text}

theorem refl (r : InlineReader) : Adds r r [] [] :=
  ⟨⟨[], rfl, rfl⟩, rfl, rfl, rfl, rfl⟩

theorem trans (first : Adds r next source shown) (second : Adds next last more rest) :
    Adds r last (source ++ more) (shown ++ rest) := by
  obtain ⟨texts, rfl, same⟩ := first.pieces
  obtain ⟨others, rfl, otherSame⟩ := second.pieces
  refine ⟨⟨texts ++ others, List.flatten_append, ?_⟩, ?_, second.openings.trans first.openings,
    second.inBrackets.trans first.inBrackets, second.afterLink.trans first.afterLink⟩
  · rw [otherSame, same, List.map_append, List.reverse_append, List.append_assoc]
  · rw [second.before, first.before, List.reverse_append, List.append_assoc]

/-- Text is no line break. -/
theorem isAfterBreak (added : Adds r next source shown) (text : r.isAfterBreak = false) :
    next.isAfterBreak = false := by
  obtain ⟨texts, _, same⟩ := added.pieces
  rw [InlineReader.isAfterBreak, same, ← List.map_reverse]
  cases texts.reverse with
  | nil => exact text
  | cons t ts => rfl

end Adds

variable (links : LinkTable) (p : Passage)

/-- Characters that have been taken are passed over. -/
theorem run_skip (r : InlineReader) (n : Nat) (t : Text) :
    run links p r n t = run links p r 0 (t.drop n) := by
  induction n generalizing t with
  | zero => rfl
  | succ n ih =>
    cases t with
    | nil => rfl
    | cons c t => exact ih t

variable {links p} {r : InlineReader}

/-- An item is moved over once it has been read. -/
theorem run_item {c : Char} {taken t : Text} {next : InlineReader} (notEnd : c ≠ '\n')
    (item : r.readItem links p c (taken ++ t) = (next, taken.length)) :
    run links p r 0 (c :: (taken ++ t)) = run links p (next.move (c :: taken)) 0 t := by
  rw [run, step, item]
  simp only [if_neg notEnd, List.take_left]
  rw [run_skip, List.drop_left]

/-- Nothing is read after an item that takes all that is left. -/
theorem run_lastItem {c : Char} {taken : Text} {next : InlineReader} (notEnd : c ≠ '\n')
    (item : r.readItem links p c taken = (next, taken.length)) :
    run links p r 0 (c :: taken) = next.move (c :: taken) := by
  rw [← List.append_nil taken] at item
  have whole := run_item notEnd (item.trans (by rw [List.append_nil]))
  rwa [List.append_nil, run] at whole

/-- An item that puts down text reads its source as that text. -/
theorem adds_putText (r : InlineReader) (source shown : Text) :
    Adds r ((r.putText shown).move source) source shown :=
  ⟨⟨[shown], by simp, rfl⟩, rfl, rfl, rfl, rfl⟩

theorem readItem_of_ordinary {c : Char} (ordinary : isSpecial c = false) (t : Text) :
    r.readItem links p c t = r.readText c t := by
  have other : c ∉ "\n\\&<[]!~*_\x60:w".toList := by simpa [isSpecial] using ordinary
  simp only [String.reduceToList, List.mem_cons, List.not_mem_nil, or_false, not_or] at other
  simp [readItem, other]

/-- A run of ordinary characters is read as it is, also at the end of a line if it is solid. -/
theorem readText_eq {c : Char} {more t : Text} (text : r.isAfterBreak = false)
    (ordinary : ∀ d ∈ more, isSpecial d = false) (next : ∀ d ∈ t.head?, isSpecial d = true)
    (solid : t.head? = some '\n' → IsSolid (c :: more)) :
    r.readText c (more ++ t) = (r.putText (c :: more), more.length) := by
  have run : (more ++ t).takeWhile (!isSpecial ·) = more :=
    Text.takeWhile_run (fun d member => by simp [ordinary d member])
      fun d head => by simp [next d head]
  simp only [readText, run, List.drop_left, text, Bool.false_eq_true, if_false]
  split
  · rename_i atEnd
    rw [trimEnd_of_solid (solid atEnd)]
  · rfl

/-- Without a dot nothing is the start of a host. -/
theorem atHost?_eq_none {before s rest : Text} (noDot : '.' ∉ s)
    (next : ∀ d ∈ rest.head?, isSpecial d = true ∧ d ≠ 'w') :
    Autolink.atHost? before (s ++ rest) = none := by
  have noHost : "www.".toList.isPrefixOf (s ++ rest) = false := by
    rw [Bool.eq_false_iff, ne_eq, List.isPrefixOf_iff_prefix]
    rintro ⟨more, same⟩
    rcases List.append_eq_append_iff.mp same with ⟨u, inside, _⟩ | ⟨u, inside, outside⟩
    · exact noDot (by simp [inside])
    · -- The dot comes after `s`, so that the host goes on with a letter or a dot of its own.
      cases u with
      | nil => exact noDot (by rw [← List.append_nil s, ← inside]; decide)
      | cons d u =>
        obtain ⟨special, notW⟩ := next d (by simp [outside])
        have member : d ∈ "www.".toList := by simp [inside]
        have dot : d = '.' := by simpa [notW] using member
        subst dot
        exact absurd special (by decide)
  rw [Autolink.atHost?, noHost, Bool.and_false, Bool.false_and, if_neg Bool.false_ne_true]

/-- A `w` or a colon is text where no URL is around it. -/
theorem readItem_of_quiet {c : Char} {s rest : Text} (quiet : isQuiet c = true)
    (special : isSpecial c = true) (next : ∀ d ∈ rest.head?, isSpecial d = true ∧ d ≠ 'w')
    (calm : r.inBrackets = true ∨ '.' ∉ c :: s ∧ ':' ∉ c :: s) :
    r.readItem links p c (s ++ rest) = (r.putText [c], 0) := by
  have kinds : c = 'w' ∨ c = ':' := by simpa [isQuiet, special] using quiet
  rcases kinds with rfl | rfl
  · have none : (if r.inBrackets then none else Autolink.atHost? r.before ('w' :: (s ++ rest))) =
        none := by
      rcases calm with inside | ⟨noDot, _⟩
      · rw [if_pos inside]
      · rw [← List.cons_append, atHost?_eq_none noDot next, ite_self]
    change r.readHost (s ++ rest) = _
    rw [readHost, none]
  · have inside : r.inBrackets = true := calm.resolve_right fun clear => clear.2 (.head _)
    change r.readColon (s ++ rest) = _
    rw [readColon, if_pos inside]

/-- The first item of a source that spells a text is read as the start of that text. There must be
no place for a bare URL, which is so in brackets and where neither a dot nor a colon is. -/
theorem exists_readItem_spelled {c : Char} {s t rest : Text} (spelled : Spells (c :: s) t)
    (quiet : ∀ d ∈ t, isQuiet d = true)
    (next : ∀ d ∈ rest.head?, isSpecial d = true ∧ d ≠ 'w')
    (solid : rest.head? = some '\n' → IsSolid (c :: s)) (text : r.isAfterBreak = false)
    (calm : r.inBrackets = true ∨ '.' ∉ c :: s ∧ ':' ∉ c :: s) :
    c ≠ '\n' ∧ ∃ taken more shown left : Text, s = taken ++ more ∧ t = shown ++ left ∧
      Spells more left ∧
        r.readItem links p c (taken ++ (more ++ rest)) = (r.putText shown, taken.length) := by
  cases spelled with
  | @char c s t spelledRest =>
    obtain ⟨first, others⟩ := List.forall_mem_cons.mp quiet
    cases special : isSpecial c with
    | true =>
      have notEnd : c ≠ '\n' := by rintro rfl; exact absurd first (by decide)
      refine ⟨notEnd, [], s, [c], t, rfl, rfl, spelledRest, ?_⟩
      rw [List.nil_append, readItem_of_quiet first special next calm, List.length_nil]
    | false =>
      have notEnd : c ≠ '\n' := by rintro rfl; exact absurd special (by decide)
      obtain ⟨run, more, left, rfl, rfl, spelledMore, ordinary, stops⟩ :=
        spelledRest.exists_run others
      have stopsText : ∀ d ∈ (more ++ rest).head?, isSpecial d = true := by
        cases more with
        | nil => exact fun d head => (next d head).1
        | cons d more => exact fun d head => (stops d head).1
      have solidRun : (more ++ rest).head? = some '\n' → IsSolid (c :: run) := by
        cases more with
        | nil => simpa using solid
        | cons d more => exact fun atEnd => absurd rfl (stops '\n' atEnd).2
      refine ⟨notEnd, run, more, c :: run, left, rfl, rfl, spelledMore, ?_⟩
      rw [readItem_of_ordinary special, readText_eq text ordinary stopsText solidRun]
  | @escaped c s t symbol spelledRest =>
    refine ⟨by decide, [c], s, [c], t, rfl, rfl, spelledRest, ?_⟩
    change r.readBackslash (c :: (s ++ rest)) = _
    rw [readBackslash, if_pos symbol]
    rfl

/-- A source that spells a text is read as that text. -/
theorem exists_run_spelled {s t rest : Text} (spelled : Spells s t)
    (quiet : ∀ c ∈ t, isQuiet c = true)
    (next : ∀ c ∈ rest.head?, isSpecial c = true ∧ c ≠ 'w')
    (solid : rest.head? = some '\n' → IsSolid s) (text : r.isAfterBreak = false)
    (calm : r.inBrackets = true ∨ '.' ∉ s ∧ ':' ∉ s) :
    ∃ last, run links p r 0 (s ++ rest) = run links p last 0 rest ∧ Adds r last s t := by
  -- An item may take several characters, so the induction is on what is left of the source.
  induction length : s.length using Nat.strongRecOn generalizing s t r with
  | ind n ih =>
    cases s with
    | nil =>
      cases spelled
      exact ⟨r, rfl, .refl r⟩
    | cons c s =>
      obtain ⟨notEnd, taken, more, shown, left, rfl, rfl, others, item⟩ :=
        exists_readItem_spelled spelled quiet next solid text calm
      have ran := run_item notEnd item
      have added := adds_putText r (c :: taken) shown
      generalize (r.putText shown).move (c :: taken) = mid at ran added
      have quietAfter : ∀ d ∈ left, isQuiet d = true := fun d member =>
        quiet d (List.mem_append_right shown member)
      have solidAfter : rest.head? = some '\n' → IsSolid more := fun atEnd =>
        IsSolid.of_append (s := c :: taken) (solid atEnd)
      have calmAfter : mid.inBrackets = true ∨ '.' ∉ more ∧ ':' ∉ more := by
        rw [added.inBrackets]
        refine calm.imp_right fun ⟨noDot, noColon⟩ => ?_
        simp only [List.mem_cons, List.mem_append, not_or] at noDot noColon
        exact ⟨noDot.2.2, noColon.2.2⟩
      have shorter : more.length < n := by
        simp only [List.length_cons, List.length_append] at length
        omega
      obtain ⟨last, ranOn, addedOn⟩ :=
        ih more.length shorter others quietAfter solidAfter (added.isAfterBreak text) calmAfter rfl
      refine ⟨last, ?_, added.trans addedOn⟩
      rw [List.cons_append, List.append_assoc, ran, ranOn]

end InlineReader

end Chatdown.Markdown
