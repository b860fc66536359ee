import RuleLexer.Lexer.Grammar
import RuleLexer.Proofs.Lexer.Line

/-!
# Walking along the lines

A walk skips what is left of the current line, as one token, and reads the
line break behind it, until the input is read up. The window knows where a
line ends, the rule for the end of a line knows what a line break is, and
the line table counts newlines. The walk comes through all the text, and the
breaks that it reads end where the table says that lines start.
-/

namespace RuleLexer

variable {K : Type}

namespace Lexer

/-- Reads what is left of the current line as one token, unless nothing is left of it. -/
def skipLine (kind : K) (l : Lexer K) : Except Fault (Lexer K) :=
  if l.remaining.line.isEmpty then .ok l else l.matchSpan (fun w => some w.line) kind

/-- Skips the current line and reads its end. The tokens of the end are answered with the lexer. -/
def walkLine (g : Grammar K) (kind : K) (l : Lexer K) :
    Except Fault (Lexer K × List (Token K)) := do
  let behind ← l.skipLine kind
  let next ← g.eol.apply behind
  return (next, next.tokens.drop behind.tokenCount)

/-- Goes on from line to line until all input has been read, for at most so many rounds. -/
def walkLines (g : Grammar K) (kind : K) :
    Nat → Lexer K → Except Fault (Lexer K × List (Token K))
  | 0, l => .ok (l, [])
  | rounds + 1, l =>
      if l.isDone then .ok (l, [])
      else do
        let (next, ends) ← l.walkLine g kind
        let (last, more) ← next.walkLines g kind rounds
        return (last, ends ++ more)

variable {g : Grammar K} {kind : K} {l : Lexer K} {text line rest : Text} {brk : Text.Break}

theorem walkLines_of_done (h : l.isDone = true) (rounds : Nat) :
    l.walkLines g kind rounds = .ok (l, []) := by
  cases rounds with
  | zero => rfl
  | succ rounds => exact if_pos h

namespace At

/-- The line of the window is the first line of what is left. -/
theorem line_eq (h : l.At text) : l.remaining.line =
    ⟨l.position, l.position + Text.byteSize (Text.firstLine text)⟩ := by
  rw [Window.line, Text.lineText_eq, h.text_eq]
  split
  · rfl
  · rename_i hfeed
    rw [h.span_eq, h.size_eq, Text.firstLine_of_not_mem hfeed]

theorem skipLine (h : l.At text) (hbegins : text.Begins line brk rest) :
    l.skipLine kind = .ok (l.readAll (Piece.ofText line kind)) := by
  have hline := h.line_eq
  rw [hbegins.firstLine_eq] at hline
  rw [hbegins.eq] at h
  by_cases hnil : line = []
  · subst hnil
    have hempty : l.remaining.line.isEmpty = true := by simp [hline, Span.isEmpty]
    exact if_pos hempty
  · let p : Piece K := ⟨line, kind, hnil⟩
    have hpos := p.size_pos
    have hempty : ¬l.remaining.line.isEmpty = true := by
      simp only [hline, Span.isEmpty, beq_iff_eq]
      exact fun heq => absurd heq (Nat.ne_of_lt (Nat.lt_add_of_pos_right hpos))
    have hp : l.At (p.text ++ (brk.text ++ rest)) := h
    rw [Lexer.skipLine, if_neg hempty, Piece.ofText_of_ne_nil hnil]
    exact hp.matchSpan_some (congrArg some hline)

/-- A round reads the first line and its break, and answers with the token of the break. -/
theorem walkLine (h : l.At text) (hbegins : text.Begins line brk rest) :
    ∃ next ends, l.walkLine g kind = .ok (next, ends) ∧ next.At rest ∧ next.source = l.source ∧
      next.position = l.position + Text.byteSize (line ++ brk.text) ∧
      next.tokens = l.tokens ++ Piece.tokensFrom l.position (Piece.ofText line kind) ++ ends ∧
      ends = Piece.tokensFrom (l.position + Text.byteSize line) (brk.pieces g.kinds.endOfLine) := by
  have hline : l.At (Piece.join (Piece.ofText line kind) ++ (brk.text ++ rest)) := by
    rw [Piece.join_ofText]
    exact hbegins.eq ▸ h
  let behind := l.readAll (Piece.ofText line kind)
  have hbehind : behind.At (brk.text ++ rest) := hline.readAll
  have hbrk : behind.At (Piece.join (brk.pieces g.kinds.endOfLine) ++ rest) := by
    rw [Text.Break.pieces, Piece.join_ofText]
    exact hbehind
  have heol : g.eol.apply behind = .ok (behind.readAll (brk.pieces g.kinds.endOfLine)) := by
    have hdrop : (brk.text ++ rest).Begins [] brk rest := by
      have hfront : text.Begins (line ++ []) brk rest := by simpa using hbegins
      simpa using hfront.drop
    have heol := (Rule.ReadsAs.eol g.kinds.endOfLine).apply_eq hbehind
    rwa [Reader.eol_of_nil hdrop, after_some] at heol
  have hposition : behind.position = l.position + Text.byteSize line := by
    rw [hline.position_readAll, Piece.join_ofText]
  refine ⟨behind.readAll (brk.pieces g.kinds.endOfLine), _, ?_, hbrk.readAll, ?_, ?_, ?_, rfl⟩
  · rw [Lexer.walkLine, h.skipLine hbegins]
    change (g.eol.apply behind).bind _ = _
    rw [heol, bind_ok, hbrk.tokens_readAll, hposition]
    rw [tokenCount, ← TokenStack.length_toList, ← tokens, List.drop_left]
    rfl
  · rw [source_readAll, source_readAll]
  · rw [hbrk.position_readAll, hposition, Text.Break.pieces, Piece.join_ofText,
      Text.byteSize_append, Nat.add_assoc]
  · rw [hbrk.tokens_readAll, hline.tokens_readAll, hposition]

end At

theorem kind_of_mem_ofText {offset : Nat} {t : Token K}
    (h : t ∈ Piece.tokensFrom offset (Piece.ofText text kind)) : t.kind = kind := by
  unfold Piece.ofText at h
  split at h
  · rw [Piece.tokensFrom_cons, Piece.tokensFrom_nil, List.mem_singleton] at h
    rw [h]
  · cases h

theorem tokensFrom_pieces (offset : Nat) (brk : Text.Break) (kind : K) :
    Piece.tokensFrom offset (brk.pieces kind) = if brk = .none then []
      else [⟨⟨offset, offset + Text.byteSize brk.text⟩, kind⟩] := by
  cases brk <;> rfl

/-- A walk from a lexer at a text has come to `last`, at `rest`, over line breaks with the tokens
`ends`. -/
structure Walked (g : Grammar K) (kind : K) (l : Lexer K) (text : Text) (last : Lexer K)
    (ends : List (Token K)) (rest : Text) : Prop where
  at_rest : last.At rest
  source_eq : last.source = l.source
  isSuffix : rest <:+ text
  /-- The positions behind newlines are those behind the tokens and those that are left. -/
  newlineEnds_eq : LineTable.newlineEnds l.position text =
    ends.map (·.span.stop) ++ LineTable.newlineEnds last.position rest
  kind_eq : ∀ t ∈ ends, t.kind = g.kinds.endOfLine
  filter_tokens : ∀ p : K → Bool, p kind = false → p g.kinds.endOfLine = true →
    last.tokens.filter (p ·.kind) = l.tokens.filter (p ·.kind) ++ ends

namespace Walked

variable {next last : Lexer K} {ends more : List (Token K)} {left : Text} {rounds : Nat}

theorem refl (h : l.At text) : Walked g kind l text l [] text :=
  ⟨h, rfl, List.suffix_rfl, rfl, by simp, by simp⟩

theorem trans (h : Walked g kind l text next ends rest)
    (hmore : Walked g kind next rest last more left) :
    Walked g kind l text last (ends ++ more) left where
  at_rest := hmore.at_rest
  source_eq := hmore.source_eq.trans h.source_eq
  isSuffix := hmore.isSuffix.trans h.isSuffix
  newlineEnds_eq := by
    rw [h.newlineEnds_eq, hmore.newlineEnds_eq, List.map_append, List.append_assoc]
  kind_eq := List.forall_mem_append.mpr ⟨h.kind_eq, hmore.kind_eq⟩
  filter_tokens := by
    intro p hkind hend
    rw [hmore.filter_tokens p hkind hend, h.filter_tokens p hkind hend, List.append_assoc]

/-- One line, and unless it is the last one the token of its break. -/
theorem of_walkLine (g : Grammar K) (kind : K) (h : l.At text)
    (hbegins : text.Begins line brk rest) :
    ∃ next ends, l.walkLine g kind = .ok (next, ends) ∧ Walked g kind l text next ends rest ∧
      ends.length = if brk = .none then 0 else 1 := by
  obtain ⟨next, ends, hwalk, hnext, hsource, hposition, htokens, rfl⟩ := h.walkLine (g := g) hbegins
  have hends := tokensFrom_pieces (l.position + Text.byteSize line) brk g.kinds.endOfLine
  have hkinds : ∀ t ∈ Piece.tokensFrom (l.position + Text.byteSize line)
      (brk.pieces g.kinds.endOfLine), t.kind = g.kinds.endOfLine :=
    fun t ht => kind_of_mem_ofText ht
  have hsuffix : rest <:+ text := ⟨line ++ brk.text, by rw [hbegins.eq, List.append_assoc]⟩
  refine ⟨next, _, hwalk, ⟨hnext, hsource, hsuffix, ?_, hkinds, ?_⟩, ?_⟩
  · rw [LineTable.newlineEnds_of_begins hbegins, hends, hposition]
    by_cases hbrk : brk = .none
    · rw [if_pos hbrk, if_pos hbrk, hbegins.last hbrk]
      rfl
    · simp only [hbrk, if_false, List.map_cons, List.map_nil, List.singleton_append,
        Text.byteSize_append, Nat.add_assoc]
  · intro p hkind hend
    have hline : (Piece.tokensFrom l.position (Piece.ofText line kind)).filter (p ·.kind) = [] :=
      List.filter_eq_nil_iff.mpr fun t ht => by simp [kind_of_mem_ofText ht, hkind]
    have hbreak := List.filter_eq_self.mpr fun t ht =>
      (congrArg p (hkinds t ht)).trans hend
    rw [htokens, List.filter_append, List.filter_append, hline, hbreak, List.append_nil]
  · rw [hends]
    split <;> rfl

/-- A walk never fails. With more rounds than there are newlines it comes to the end. -/
theorem of_walkLines (g : Grammar K) (kind : K) (h : l.At text) (rounds : Nat) : ∃ last ends rest,
    l.walkLines g kind rounds = .ok (last, ends) ∧ Walked g kind l text last ends rest ∧
      ((LineTable.newlineEnds l.position text).length < rounds → rest = []) := by
  induction rounds generalizing l text with
  | zero => exact ⟨l, [], text, rfl, .refl h, by simp⟩
  | succ rounds ih =>
      by_cases hdone : l.isDone = true
      · have hnil : text = [] := by simpa [h.isDone_eq] using hdone
        exact ⟨l, [], text, walkLines_of_done hdone _, .refl h, fun _ => hnil⟩
      · obtain ⟨brk, rest, hbegins⟩ := Text.exists_begins text
        obtain ⟨next, ends, hwalk, hstep, hlength⟩ := of_walkLine g kind h hbegins
        obtain ⟨last, more, left, hmore, hlast, hrest⟩ := ih hstep.at_rest
        have hall : l.walkLines g kind (rounds + 1) = .ok (last, ends ++ more) := by
          rw [walkLines, if_neg hdone, hwalk]
          change (next.walkLines g kind rounds).bind _ = _
          rw [hmore]
          rfl
        refine ⟨last, ends ++ more, left, hall, hstep.trans hlast, fun hrounds => ?_⟩
        rw [hstep.newlineEnds_eq, List.length_append, List.length_map, hlength] at hrounds
        by_cases hbrk : brk = .none
        · -- Behind the last line the walk stands still.
          have hsuffix := hlast.isSuffix
          rw [hbegins.last hbrk] at hsuffix
          exact List.suffix_nil.mp hsuffix
        · rw [if_neg hbrk] at hrounds
          exact hrest (by omega)

end Walked

variable {source : Source}

/-- A walk from the start of a source never fails. Within as many rounds as the source has lines it
reads all of it, and the line breaks end exactly where the table says that the lines after the first
one start. -/
theorem walkLines_reaches_starts [DecidableEq K] (hsize : source.size < wordCount) (g : Grammar K)
    (kind : K) :
    (∀ rounds, ∃ last ends, (start source).walkLines g kind rounds = .ok (last, ends) ∧
      last.state ≠ .noMatch) ∧
      ∀ rounds, source.lineCount ≤ rounds → ∃ last ends,
        (start source).walkLines g kind rounds = .ok (last, ends) ∧
          last.state = .done ∧ last.position = source.size ∧
          ends.length = source.lineCount - 1 ∧ (∀ t ∈ ends, t.kind = g.kinds.endOfLine) ∧
          ends.map (·.span.stop) = source.lines.starts.tail ∧
          (kind ≠ g.kinds.endOfLine →
            last.tokens.filter (·.kind = g.kinds.endOfLine) = ends) := by
  have hat : (start source : Lexer K).At source.text := at_start hsize
  have hstarts : source.lines.starts = 0 :: LineTable.newlineEnds 0 source.text := by
    rw [source.lines_eq]
    rfl
  have hcount : source.lineCount = (LineTable.newlineEnds 0 source.text).length + 1 := by
    rw [Source.lineCount, LineTable.lineCount, hstarts, List.length_cons]
  refine ⟨fun rounds => ?_, fun rounds hrounds => ?_⟩
  · obtain ⟨last, ends, rest, hwalk, hlast, -⟩ :=
      Walked.of_walkLines g kind hat rounds
    refine ⟨last, ends, hwalk, fun hstate => ?_⟩
    exact absurd (failed_iff.mpr hstate) (by simp [hlast.at_rest.not_failed])
  · obtain ⟨last, ends, rest, hwalk, hlast, hrest⟩ :=
      Walked.of_walkLines g kind hat rounds
    rw [hcount] at hrounds
    obtain rfl := hrest hrounds
    have hends : ends.map (·.span.stop) = LineTable.newlineEnds 0 source.text := by
      have hposition : (start source : Lexer K).position = 0 := rfl
      simpa [LineTable.newlineEnds, hposition] using hlast.newlineEnds_eq.symm
    refine ⟨last, ends, hwalk, hlast.at_rest.state, ?_, ?_, hlast.kind_eq, ?_, fun hkind => ?_⟩
    · have hsize := hlast.at_rest.size_eq
      rw [hlast.source_eq, Text.byteSize_nil] at hsize
      exact hsize.symm
    · rw [hcount, ← hends, List.length_map, Nat.add_sub_cancel]
    · rw [hstarts, hends, List.tail_cons]
    · have hfilter := hlast.filter_tokens (· = g.kinds.endOfLine) (by simp [hkind]) (by simp)
      simpa [start, tokens] using hfilter

/-- A carriage return before a line break of its own, an empty line and a last line without a
newline. -/
theorem walkLines_reaches_starts_returns : ∃ last ends,
    (start (Source.exactly "é\r\r\n\nb".toList)).walkLines (Grammar.new .known (.new true)) false 3 =
        .ok (last, ends) ∧
      last.state = .done ∧ ends.map (·.span.stop) = [5, 6] := by
  have hsize : (Source.exactly "é\r\r\n\nb".toList).size < wordCount := by decide
  obtain ⟨-, hwalk⟩ := walkLines_reaches_starts hsize (Grammar.new .known (.new true)) false
  obtain ⟨last, ends, hlast, hdone, -, -, -, hstarts, -⟩ := hwalk 3 (by decide)
  exact ⟨last, ends, hlast, hdone, hstarts⟩

end Lexer

end RuleLexer
