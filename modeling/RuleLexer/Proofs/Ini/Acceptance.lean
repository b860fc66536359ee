import RuleLexer.Proofs.Ini.File

/-!
# Which files are accepted

A run over a file ends at the end of the text if every line is well formed.
Otherwise it stops in front of the first line that is not, and the rejection
names that line.
-/

namespace RuleLexer

open Text

/-- A run that stops at the start of a line is rejected there. -/
theorem Lexer.At.accepted_of_startsLine {K : Type} {l : Lexer K} {front rest : Text} {i : Nat}
    (h : l.At rest) (hrest : rest ≠ []) (htext : l.source.text = front ++ rest)
    (hfront : StartsLine front i) (hposition : l.position = byteSize front) :
    l.accepted = .error ⟨.matching, byteSize front, i + 1, 1⟩ := by
  have hdone : l.isDone = false := by
    rw [h.isDone_eq]
    simpa using hrest
  have hstate : l.state = .matching := by rw [h.state, if_neg hrest]
  have hstarts := LineTable.starts_of_startsLine hfront rest
  rw [← htext] at hstarts
  have hplace : l.source.lineCol (byteSize front) = (i + 1, 1) := by
    rw [Source.lineCol, l.source.lines_eq]
    exact LineTable.lineCol_start hstarts
  simp only [accepted, hdone, rejection, hposition, hplace, hstate, Bool.false_eq_true, if_false]

namespace Ini

/-- Rows are read up to the end of the text or up to the first line that is not well formed. -/
theorem many_rowReader_lines (text : Text) :
    (∀ line ∈ lines text, WellFormed line) ∧ (rowReader.many text).2 = [] ∨
      ∃ (i : Nat) (line : Text), (lines text)[i]? = some line ∧ ¬WellFormed line ∧
        (∀ before ∈ (lines text).take i, WellFormed before) ∧
        StartsLine (Piece.join (rowReader.many text).1) i ∧ (rowReader.many text).2 ≠ [] := by
  obtain ⟨brk, rest, h⟩ := exists_begins text
  have hlines := h.lines_eq
  by_cases hline : WellFormed (firstLine text)
  · obtain ⟨⟨ps, left⟩, hread⟩ := Option.isSome_iff_exists.mp ((rowReader_isSome h).mpr hline)
    obtain ⟨l, htext, rfl, rfl⟩ := (rowReader_eq_some h).mp hread
    rw [many_rowReader_append hread]
    by_cases hbrk : brk = .none
    · rw [if_pos hbrk] at hlines
      rw [h.last hbrk, many_rowReader_nil, hlines]
      exact .inl ⟨by simpa using hline, rfl⟩
    · rw [if_neg hbrk] at hlines
      have hlt := h.length_lt hbrk
      rw [hlines]
      rcases many_rowReader_lines left with
        ⟨hall, hend⟩ | ⟨i, bad, hbad, hnot, hbefore, hfront, hne⟩
      · exact .inl ⟨List.forall_mem_cons.mpr ⟨hline, hall⟩, hend⟩
      · refine .inr ⟨i + 1, bad, by simpa using hbad, hnot, ?_, ?_, hne⟩
        · rw [List.take_succ_cons]
          exact List.forall_mem_cons.mpr ⟨hline, hbefore⟩
        · have hjoin : Piece.join ((l.pieces ++ brk.pieces Kind.endOfLine) ++
              (rowReader.many left).1) =
              firstLine text ++ brk.text ++ Piece.join (rowReader.many left).1 := by
            rw [← htext]
            simp [Line.text, Break.pieces]
          rw [hjoin, Nat.add_comm]
          exact (h.startsLine hbrk).append hfront
  · have hnone : rowReader text = none := by
      rw [← Option.not_isSome_iff_eq_none]
      exact fun hsome => hline ((rowReader_isSome h).mp hsome)
    rw [Reader.many_of_none hnone]
    refine .inr ⟨0, firstLine text, by rw [hlines]; rfl, hline, by simp, startsLine_nil, ?_⟩
    rintro rfl
    exact hline .empty
termination_by text.length

/-- A run over a file reads all of it, and then every line is well formed, or stops in front of the
first line that is not. -/
theorem exists_tokenize {source : Source} (h : source.size < wordCount) :
    ∃ l, tokenize source = .ok l ∧
      (l.state = .done ∧ (∀ line ∈ lines source.text, WellFormed line) ∨
        ∃ (i : Nat) (line front rest : Text),
          (lines source.text)[i]? = some line ∧ ¬WellFormed line ∧
          (∀ before ∈ (lines source.text).take i, WellFormed before) ∧
          source.text = front ++ rest ∧ rest ≠ [] ∧ StartsLine front i ∧
          l.state = .matching ∧ l.position = byteSize front ∧
          l.accepted = .error ⟨.matching, byteSize front, i + 1, 1⟩) := by
  have hsplit := many_rowReader_split source.text
  have hstart : (Lexer.start source : Lexer Kind).At
      (Piece.join (rowReader.many source.text).1 ++ (rowReader.many source.text).2) :=
    hsplit ▸ Lexer.at_start h
  have hl := hstart.readAll
  have hposition : ((Lexer.start source).readAll (rowReader.many source.text).1).position =
      byteSize (Piece.join (rowReader.many source.text).1) :=
    hstart.position_readAll.trans (Nat.zero_add _)
  refine ⟨_, tokenize_eq h, ?_⟩
  rcases many_rowReader_lines source.text with
    ⟨hall, hend⟩ | ⟨i, bad, hbad, hnot, hbefore, hfront, hne⟩
  · exact .inl ⟨by rw [hl.state, if_pos hend], hall⟩
  · have hmatching : ((Lexer.start source).readAll (rowReader.many source.text).1).state =
        .matching := by
      rw [hl.state, if_neg hne]
    refine .inr ⟨i, bad, _, _, hbad, hnot, hbefore, hsplit, hne, hfront, hmatching, hposition, ?_⟩
    exact hl.accepted_of_startsLine hne (by rw [Lexer.source_readAll]; exact hsplit) hfront
      hposition

/-- A run over a file ends in `Done` exactly if every line is well formed. Otherwise it stops,
without having failed, at the start of the first line that is not, and is rejected with the number
of that line and column one. -/
theorem tokenize_stops_at_malformed_line {source : Source} (h : source.size < wordCount) :
    ∃ l, tokenize source = .ok l ∧ l.state ≠ .noMatch ∧
      (l.state = .done ↔ ∀ line ∈ lines source.text, WellFormed line) ∧
      (l.state ≠ .done → ∃ (i : Nat) (line front rest : Text),
        (lines source.text)[i]? = some line ∧ ¬WellFormed line ∧
        (∀ before ∈ (lines source.text).take i, WellFormed before) ∧
        source.text = front ++ rest ∧ StartsLine front i ∧
        l.state = .matching ∧ l.position = byteSize front ∧
        l.accepted = .error ⟨.matching, byteSize front, i + 1, 1⟩) := by
  obtain ⟨l, hl, hcases⟩ := exists_tokenize h
  refine ⟨l, hl, ?_⟩
  rcases hcases with ⟨hdone, hall⟩ |
    ⟨i, bad, front, rest, hbad, hnot, hbefore, hsplit, -, hfront, hmatching, hplace⟩
  · exact ⟨by simp [hdone], iff_of_true hdone hall, fun hstop => absurd hdone hstop⟩
  · have hsome : ¬∀ line ∈ lines source.text, WellFormed line := fun hall =>
      hnot (hall bad (List.mem_of_getElem? hbad))
    refine ⟨by simp [hmatching], iff_of_false (by simp [hmatching]) hsome, fun _ => ?_⟩
    exact ⟨i, bad, front, rest, hbad, hnot, hbefore, hsplit, hfront, hmatching, hplace⟩

/-- The second line of this text has a bracket without its counterpart. -/
theorem tokenize_stops_at_malformed_line_bracket :
    ∃ l, tokenize (Source.ofText "\r\n[s\n".toList) = .ok l ∧
      l.accepted = .error ⟨.matching, 2, 2, 1⟩ := by
  have hsize : (Source.ofText "\r\n[s\n".toList).size < wordCount := by decide
  have hlines : lines (Source.ofText "\r\n[s\n".toList).text = [[], "[s".toList, []] := by decide
  have hbad : ¬WellFormed "[s".toList := fun h =>
    absurd ((wellFormed_iff_isSome (by decide)).mp h) (by decide)
  obtain ⟨l, hl, -, hdone, hstop⟩ := tokenize_stops_at_malformed_line hsize
  rw [hlines] at hdone hstop
  have hnotDone : l.state ≠ .done := fun h => hbad (hdone.mp h _ (by simp))
  obtain ⟨i, line, front, rest, hline, hnot, hbefore, hsplit, hfront, -, -, haccepted⟩ :=
    hstop hnotDone
  have hi : i = 1 := by
    rcases i with _ | _ | i
    · obtain rfl : [] = line := by simpa using hline
      exact absurd .empty hnot
    · rfl
    · exact absurd (hbefore _ (by simp)) hbad
  subst hi
  have hstart := LineTable.starts_of_startsLine hfront rest
  rw [← hsplit] at hstart
  have hposition : 2 = byteSize front := Option.some.inj hstart
  refine ⟨l, hl, ?_⟩
  rw [haccepted, ← hposition]

end Ini

end RuleLexer
