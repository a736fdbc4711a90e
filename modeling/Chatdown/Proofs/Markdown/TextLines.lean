import Chatdown.Markdown
import Chatdown.Proofs.Markdown.LineStarts
import Chatdown.Proofs.Markdown.RunningText
import Chatdown.Proofs.Text.Join

/-! # Lines of running text

Lines of text in which nothing is a link, an address or a mark of emphasis are the inline content
that they look like: each line is one text, and a soft break stands between neighbours.
-/

namespace Chatdown.Markdown

/-- A line that is nothing but text: no part of it is a URL or an address, and there is no white
space at its ends. -/
structure IsRunning (l : Text) : Prop where
  quiet : ∀ c ∈ l, isQuiet c = true
  noDot : '.' ∉ l
  noColon : ':' ∉ l
  nonempty : l ≠ []
  flush : IsFlush l
  solid : IsSolid l

namespace Emphasis

private theorem pair_nodes (before : List Piece) (ns : List Inline) :
    pair before (ns.map .node) = (ns.map Piece.node).reverse ++ before := by
  induction ns generalizing before with
  | nil => rfl
  | cons n ns ih => rw [List.map_cons, pair, ih, List.reverse_cons, List.append_assoc]; rfl

/-- Nodes without marks between them stay as they are. -/
theorem resolve_nodes (ns : List Inline) : resolve (ns.map .node) = ns := by
  rw [resolve, pair_nodes, List.append_nil, List.reverse_reverse, List.map_map]
  exact List.map_id ns

end Emphasis

namespace Address

/-- A host is a part of the text after the `@`. -/
theorem mem_of_host? {chat : Bool} {t host : Text} (known : host? chat t = some host) :
    ∀ c ∈ host, c ∈ t := by
  induction t generalizing host with
  | nil =>
    cases known
    exact fun _ => id
  | cons d t ih =>
    rw [host?] at known
    split at known
    · obtain ⟨rest, inside, rfl⟩ := Option.map_eq_some_iff.mp known
      exact fun c member => (List.mem_cons.mp member).elim (fun same => same ▸ .head _)
        fun later => .tail _ (ih inside c later)
    · split at known <;> cases known
      simp

/-- There is no address without a dot after the `@`. -/
theorem around?_eq_none {before after : Text} (noDot : '.' ∉ after) :
    around? before after = none := by
  simp only [around?, Option.bind_eq_bind, Option.bind_eq_none_iff]
  intro host known
  have dotless : '.' ∉ host := fun member => noDot (mem_of_host? known '.' member)
  rw [if_neg (by simp [dotless])]

theorem split_of_no_dot (depth : Int) (before : Text) {t : Text} (noDot : '.' ∉ t) :
    split depth before 0 t = [.text (before.reverse ++ t)] := by
  induction t generalizing depth before with
  | nil => rw [split, List.append_nil]
  | cons c t ih =>
    rw [List.mem_cons, not_or] at noDot
    rw [split, around?_eq_none noDot.2, ite_self, ih _ _ noDot.2, List.reverse_cons,
      List.append_assoc, List.singleton_append]

/-- Neighbouring texts are joined before addresses are looked for. -/
theorem inNodes_texts (pending : Text) (texts : List Text) (ns : List Inline) :
    inNodes pending (texts.map .text ++ ns) = inNodes (texts.flatten.reverse ++ pending) ns := by
  induction texts generalizing pending with
  | nil => rfl
  | cons t texts ih =>
    rw [List.map_cons, List.cons_append, inNodes, ih, List.flatten_cons, List.reverse_append,
      List.append_assoc]

private theorem inNodes_softBreak (pending : Text) (ns : List Inline) :
    inNodes pending (.softBreak :: ns) =
      split 0 [] 0 pending.reverse ++ .softBreak :: inNodes [] ns := rfl

end Address

namespace TaskMarker

/-- Texts at the start are the beginning of the leading text. -/
theorem leadingText_texts (texts : List Text) (ns : List Inline) :
    leadingText (texts.map .text ++ ns) =
      (texts.flatten ++ (leadingText ns).1, (leadingText ns).2) := by
  induction texts with
  | nil => rfl
  | cons t texts ih =>
    rw [List.map_cons, List.cons_append, leadingText, ih, List.flatten_cons, List.append_assoc]

/-- A text has no box at its start if ordinary characters are there. -/
theorem after?_eq_none {t : Text} (quiet : ∀ c ∈ t, isQuiet c = true)
    (bare : ∀ c ∈ t.head?, isGap c = false) : after? t = none := by
  cases t with
  | nil => rfl
  | cons c t =>
    rw [after?, List.dropWhile_cons_of_neg (by simp [bare c rfl])]
    split
    · rename_i same
      obtain ⟨rfl, _⟩ := List.cons.inj same
      exact absurd (quiet '[' (List.mem_cons_self ..)) (by decide)
    · rfl

end TaskMarker

def textLines (ls : List Text) : List Inline := (ls.map .text).intersperse .softBreak

namespace InlineReader

variable (links : LinkTable) (p : Passage) {r : InlineReader}

/-- The end of a line without spaces before it is a soft break. -/
theorem exists_run_lineEnd {t : Text} (noSpace : r.before.head? ≠ some ' ') (flush : IsFlush t) :
    ∃ next, run links p r 0 ('\n' :: t) = run links p next 0 t ∧
      next.pieces = .node .softBreak :: r.pieces ∧ next.openings = r.openings := by
  have soft : r.readLineEnd = r.put .softBreak := by
    unfold readLineEnd
    split
    · rename_i same
      exact absurd (by rw [same]; rfl) noSpace
    · rfl
  have item : r.readItem links p '\n' t = (r.put .softBreak, 0) := by
    change (r.readLineEnd, (t.takeWhile isPad).length) = _
    rw [takeWhile_isPad_of_flush flush, soft, List.length_nil]
  refine ⟨{ (r.put .softBreak).move ['\n'] with line := r.line + 1, width := 0 }, ?_, rfl, rfl⟩
  rw [run, step, item]
  rfl

/-- A line of running text adds its text and nothing else. -/
theorem exists_run_line {l : Text} (running : IsRunning l) (text : r.isAfterBreak = false)
    (rest : Text) (next : ∀ c ∈ rest.head?, c = '\n') :
    ∃ last, run links p r 0 (l ++ rest) = run links p last 0 rest ∧ Adds r last l l := by
  refine exists_run_spelled (.refl l) running.quiet ?_ (fun _ => running.solid) text
    (.inr ⟨running.noDot, running.noColon⟩)
  intro c head
  rw [next c head]
  decide

/-- A line of running text with its end adds its text and a soft break. -/
theorem exists_run_endedLine {l t : Text} (running : IsRunning l) (text : r.isAfterBreak = false)
    (flush : IsFlush t) :
    ∃ next, ∃ texts : List Text, texts.flatten = l ∧
      run links p r 0 (l ++ '\n' :: t) = run links p next 0 t ∧ next.openings = r.openings ∧
        next.pieces =
          .node .softBreak :: ((texts.map fun u => Piece.node (.text u)).reverse ++ r.pieces) := by
  obtain ⟨mid, ran, added⟩ := exists_run_line links p running text ('\n' :: t) (by simp)
  have noSpace : mid.before.head? ≠ some ' ' := by
    obtain ⟨c, last⟩ := Option.ne_none_iff_exists'.mp
      (mt List.getLast?_eq_none_iff.mp running.nonempty)
    rw [added.before, List.head?_append, List.head?_reverse, last]
    rintro ⟨⟩
    exact absurd (running.solid ' ' last) (by decide)
  obtain ⟨next, ended, pieces, openings⟩ := exists_run_lineEnd links p noSpace flush
  obtain ⟨texts, flat, first⟩ := added.pieces
  exact ⟨next, texts, flat, ran.trans ended, openings.trans added.openings, by rw [pieces, first]⟩

/-- Lines of running text are read as their texts with soft breaks between them. -/
theorem exists_run_lines {l : Text} {ls : List Text} (each : ∀ k ∈ l :: ls, IsRunning k)
    (text : r.isAfterBreak = false) :
    ∃ last ns, run links p r 0 (['\n'].intercalate (l :: ls)) = last ∧
      last.openings = r.openings ∧ last.pieces = (ns.map Piece.node).reverse ++ r.pieces ∧
        Address.inNodes [] ns = textLines (l :: ls) ∧ (TaskMarker.leadingText ns).1 = l := by
  induction ls generalizing l r with
  | nil =>
    have running := each l (List.mem_cons_self ..)
    obtain ⟨last, ran, added⟩ := exists_run_line links p running text [] (by simp)
    obtain ⟨texts, flat, pieces⟩ := added.pieces
    refine ⟨last, texts.map .text, ?_, added.openings, ?_, ?_, ?_⟩
    · rw [List.intercalate_singleton]
      rwa [List.append_nil, run] at ran
    · rw [pieces, List.map_map]
      rfl
    · have joined := Address.inNodes_texts [] texts []
      rw [List.append_nil, List.append_nil, flat, Address.inNodes, List.reverse_reverse] at joined
      exact joined.trans (Address.split_of_no_dot 0 [] running.noDot)
    · simpa [flat, TaskMarker.leadingText] using
        congrArg Prod.fst (TaskMarker.leadingText_texts texts [])
  | cons k ls ih =>
    have running := each l (List.mem_cons_self ..)
    have others : ∀ j ∈ k :: ls, IsRunning j := fun j member => each j (.tail l member)
    have following := others k (List.mem_cons_self ..)
    have flush : IsFlush (['\n'].intercalate (k :: ls)) := by
      rw [IsFlush, Text.head?_intercalate following.nonempty]
      exact following.flush
    obtain ⟨next, texts, flat, ran, openings, pieces⟩ :=
      exists_run_endedLine links p running text flush
    obtain ⟨last, ns, ranOn, kept, more, shows, _⟩ := ih others (by rw [isAfterBreak, pieces])
    refine ⟨last, texts.map .text ++ .softBreak :: ns, ?_, kept.trans openings, ?_, ?_, ?_⟩
    · rw [List.intercalate_cons_cons, List.append_assoc, List.singleton_append, ran, ranOn]
    · rw [more, pieces]
      simp
    · rw [Address.inNodes_texts, flat, List.append_nil, Address.inNodes_softBreak,
        List.reverse_reverse, Address.split_of_no_dot 0 [] running.noDot, shows]
      rfl
    · rw [TaskMarker.leadingText_texts, flat]
      exact List.append_nil l

end InlineReader

section

variable (links : LinkTable) {p : Passage} {l : Text} {ls : List Text}

/-- What a passage of running lines is read as, before its addresses are looked for. -/
theorem Passage.inlines_lines (source : trimEnd isSpacing p.text = ['\n'].intercalate (l :: ls))
    (each : ∀ k ∈ l :: ls, IsRunning k) :
    Address.inNodes [] (p.inlines links) = textLines (l :: ls) ∧
      (TaskMarker.leadingText (p.inlines links)).1 = l := by
  obtain ⟨last, ns, ran, noneOpen, pieces, shows⟩ :=
    InlineReader.exists_run_lines links p (r := .fresh) each rfl
  have read : p.inlines links = ns := by
    rw [Passage.inlines, source, ran, noneOpen]
    change Emphasis.resolve last.pieces.reverse = ns
    rw [pieces, InlineReader.fresh, List.append_nil, List.reverse_reverse, Emphasis.resolve_nodes]
  rwa [read]

theorem content_lines (source : trimEnd isSpacing p.text = ['\n'].intercalate (l :: ls))
    (each : ∀ k ∈ l :: ls, IsRunning k) : content links p = textLines (l :: ls) :=
  (Passage.inlines_lines links source each).1

/-- Running text does not begin with a task marker. -/
theorem contentAfter?_lines (source : trimEnd isSpacing p.text = ['\n'].intercalate (l :: ls))
    (each : ∀ k ∈ l :: ls, IsRunning k) (bare : ∀ c ∈ l.head?, isGap c = false) :
    TaskMarker.contentAfter? (p.inlines links) = none := by
  have running := each l (List.mem_cons_self ..)
  rw [TaskMarker.contentAfter?]
  simp only [(Passage.inlines_lines links source each).2, Option.map_eq_none_iff]
  exact TaskMarker.after?_eq_none running.quiet bare

end

end Chatdown.Markdown
