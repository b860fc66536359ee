import RuleLexer.Proofs.Ini.File
import RuleLexer.Proofs.Lexer.Reachable

/-!
# Rows without sections

The rules of a file work from line to line wherever a lexer stands. What is
left of a line is a header, or another line, or neither, and a rule that
reads it comes to the next line or to the end. So it cannot be told from the
lexer how the lines of a file are grouped into sections: to read sections as
often as possible is to read rows as often as possible.
-/

namespace RuleLexer.Ini

open Text Reader

/-- A row as a rule, a header before any other line. -/
def rowsRule : Rule Kind := .atLeast 0 (.oneOf [headerRule, lineRule])

/-- From `l` to `m`, a lexer has read a text of which a newline is the last character and no other
one, or the rest of its source, without a newline. -/
def ReadsLine (l m : Lexer Kind) : Prop :=
  ∃ consumed, between? l.source.text ⟨l.position, m.position⟩ = some consumed ∧
    ((∃ front, '\n' ∉ front ∧ consumed = front ++ ['\n']) ∨ '\n' ∉ consumed ∧ m.state = .done)

variable {l : Lexer Kind} {text line rest left : Text} {brk : Break} {ps : List (Piece Kind)}

/-- A line with its break ends with its only newline, or has none. -/
theorem line_append_break (h : Begins text line brk rest) :
    (∃ front, '\n' ∉ front ∧ line ++ brk.text = front ++ ['\n']) ∨
      '\n' ∉ line ++ brk.text ∧ rest = [] := by
  cases brk with
  | none => exact .inr ⟨by simpa [Break.text] using h.noFeed, h.last rfl⟩
  | feed => exact .inl ⟨line, h.noFeed, rfl⟩
  | returnFeed =>
      refine .inl ⟨line ++ ['\r'], ?_, by simp [Break.text]⟩
      simpa using h.noFeed

theorem join_row (brk : Break) (l : Line) :
    Piece.join (l.pieces ++ brk.pieces .endOfLine) = l.text ++ brk.text := by
  rw [Piece.join_append, Break.pieces, Piece.join_ofText, Line.text]

/-- Where a row is read, it is a line with its break. -/
theorem readsLine_of_row (hl : l.At text) (h : rowReader text = some (ps, left)) :
    ReadsLine l (l.readAll ps) := by
  obtain ⟨brk, rest, hbegins⟩ := exists_begins text
  obtain ⟨row, hline, rfl, -⟩ := (rowReader_eq_some hbegins).mp h
  obtain ⟨front, hsource, hfront⟩ := hl.exists_front
  have hjoin := join_row brk row
  rw [hline] at hjoin
  have htext : text = Piece.join (row.pieces ++ brk.pieces .endOfLine) ++ rest := by
    rw [hjoin, List.append_assoc, ← hbegins.eq]
  have hat : l.At (Piece.join (row.pieces ++ brk.pieces .endOfLine) ++ rest) := htext ▸ hl
  refine ⟨Piece.join (row.pieces ++ brk.pieces .endOfLine), ?_, ?_⟩
  · rw [hat.position_readAll, ← hfront]
    exact between?_of_eq_append (htext ▸ hsource)
  · rw [hjoin]
    refine (line_append_break hbegins).imp_right fun hlast => ⟨hlast.1, ?_⟩
    rw [hat.readAll.state, if_pos hlast.2]

/-- A rule that reads only rows reads one line, unless it fails. -/
theorem readsLine_after {f : Reader Kind} (hl : l.At text)
    (hrow : ∀ {ps left}, f text = some (ps, left) → rowReader text = some (ps, left))
    (hstate : (l.after (f text)).state ≠ .noMatch) : ReadsLine l (l.after (f text)) := by
  cases hread : f text with
  | none =>
      rw [hread] at hstate
      exact absurd rfl hstate
  | some found => exact readsLine_of_row hl (hrow hread)

theorem rowsRule_readsAs :
    rowsRule.ReadsAs (rowReader.repeatCounts (Counts.between? (.included 0) .unbounded)) := by
  have hrow : oneOf [headerReader, lineReader] = rowReader := by
    funext text
    simp only [oneOf_cons, oneOf_nil, rowReader, orElse, never]
    cases headerReader text <;> cases lineReader text <;> rfl
  have hrule : (Rule.oneOf [headerRule, lineRule]).ReadsAs (oneOf [headerReader, lineReader]) :=
    .oneOf (.cons headerRule_readsAs (.cons lineRule_readsAs .nil))
  rw [hrow] at hrule
  exact hrule.repeated (.included 0) .unbounded

/-- From every reachable lexer that has not failed, the rules of headers and of other lines do not
both succeed, the one that succeeds reads one line, and a file is read like rows. -/
theorem reachable_line_by_line {source : Source} (hsize : source.size < wordCount)
    (h : l.Reachable source) (hstate : l.state ≠ .noMatch) :
    (∃ header line, headerRule.apply l = .ok header ∧ lineRule.apply l = .ok line ∧
      (header.state = .noMatch ∨ line.state = .noMatch) ∧
      (header.state ≠ .noMatch → ReadsLine l header) ∧
      (line.state ≠ .noMatch → ReadsLine l line)) ∧
      ∃ m, fileRule.apply l = .ok m ∧ rowsRule.apply l = .ok m := by
  have hfailed : l.failed = false := by
    simpa [Lexer.failed] using hstate
  obtain ⟨text, hat⟩ := h.exists_at hsize hfailed
  have hfits : byteSize text < wordCount := by
    have hfits := hat.fits
    rw [hat.size_eq] at hfits
    omega
  refine ⟨⟨_, _, headerRule_readsAs.apply_eq hat, lineRule_readsAs.apply_eq hat, ?_, ?_, ?_⟩, ?_⟩
  · cases hline : lineReader text with
    | none => exact .inr rfl
    | some found =>
        rw [headerReader_eq_none hline]
        exact .inl rfl
  · exact readsLine_after hat rowReader_of_header
  · exact readsLine_after hat rowReader_of_line
  · have hrule : (Rule.choice headerRule lineRule).ReadsAs rowReader :=
      headerRule_readsAs.choice lineRule_readsAs
    have hrows := repeatCounts_between hrule (Nat.zero_le 1) hfits
    rw [if_pos (.inl rfl)] at hrows
    refine ⟨_, fileRule_readsAs.apply_eq hat, ?_⟩
    rw [rowsRule_readsAs.apply_eq hat, hrows, fileReader_eq hfits]

/-- Behind the first character of its line, a header is read as one. -/
theorem reachable_line_by_line_header : ∃ l header m : Lexer Kind,
    l.Reachable (Source.exactly "x [s]\nk".toList) ∧ l.position = 1 ∧
      headerRule.apply l = .ok header ∧ header.position = 6 ∧ ReadsLine l header ∧
      fileRule.apply l = .ok m ∧ rowsRule.apply l = .ok m := by
  let l : Lexer Kind :=
    (Lexer.start (Source.exactly "x [s]\nk".toList)).read (Piece.ofChar 'x' .keyToken)
  have hreach : l.Reachable (Source.exactly "x [s]\nk".toList) :=
    .apply .start (.char 'x' .keyToken) rfl
  have hread : (headerRule.apply l).toOption.map (fun m => (m.position, m.state)) =
      some (6, .matching) := by decide +kernel
  obtain ⟨⟨header, -, hheader, -, -, hline, -⟩, m, hfile, hrows⟩ :=
    reachable_line_by_line (by decide) hreach (by decide)
  rw [hheader] at hread
  obtain ⟨hposition, hstate⟩ := Prod.mk.inj (Option.some.inj hread)
  exact ⟨l, header, m, hreach, rfl, hheader, hposition, hline (by simp [hstate]), hfile, hrows⟩

end RuleLexer.Ini
