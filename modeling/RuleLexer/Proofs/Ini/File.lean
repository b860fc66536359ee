import RuleLexer.Proofs.Ini.LineReader
import RuleLexer.Proofs.Lexer.Repetition

/-!
# What the rules of a file read

A row is a line, whether it is a header or not, with its break. A row is
read where the text begins with a well-formed line, and nowhere else. A
section is a run of rows, so a file is read as far as rows can be read, and
how the rows are grouped into sections does not matter.
-/

namespace RuleLexer.Ini

open Text Reader

/-- A header line or another line, with its end. -/
def rowReader : Reader Kind := headerReader.orElse lineReader

variable {text line rest left : Text} {brk : Break} {ps : List (Piece Kind)}

section Row

theorem headerReader_eq_some (h : Begins text line brk rest) :
    headerReader text = some (ps, left) ↔ ∃ l : Line, l.body.IsHeader ∧ l.text = line ∧
      ps = l.pieces ++ brk.pieces .endOfLine ∧ left = rest := by
  rw [headerReader, headReader_inLine.andThen_eol h]
  constructor
  · rintro ⟨qs, hread, rfl, rfl⟩
    obtain ⟨l, hbody, hline, rfl⟩ := (headReader_iff h.noFeed).mp hread
    exact ⟨l, hbody, hline, rfl, rfl⟩
  · rintro ⟨l, hbody, hline, rfl, rfl⟩
    exact ⟨l.pieces, (headReader_iff h.noFeed).mpr ⟨l, hbody, hline, rfl⟩, rfl, rfl⟩

theorem lineReader_eq_some (h : Begins text line brk rest) :
    lineReader text = some (ps, left) ↔ ∃ l : Line, ¬l.body.IsHeader ∧ l.text = line ∧
      ps = l.pieces ++ brk.pieces .endOfLine ∧ left = rest := by
  rw [lineReader, bodyReader_inLine.andThen_eol h]
  constructor
  · rintro ⟨qs, hread, rfl, rfl⟩
    obtain ⟨l, hbody, hline, rfl⟩ := (bodyReader_iff h.noFeed).mp hread
    exact ⟨l, hbody, hline, rfl, rfl⟩
  · rintro ⟨l, hbody, hline, rfl, rfl⟩
    exact ⟨l.pieces, (bodyReader_iff h.noFeed).mpr ⟨l, hbody, hline, rfl⟩, rfl, rfl⟩

/-- Where a line can be read, a header cannot. -/
theorem headerReader_eq_none (h : lineReader text = some (ps, left)) :
    headerReader text = none := by
  obtain ⟨brk, rest, hbegins⟩ := exists_begins text
  cases hread : headerReader text with
  | none => rfl
  | some found =>
      obtain ⟨l, hbody, hline, -⟩ := (headerReader_eq_some hbegins).mp hread
      obtain ⟨l', hbody', hline', -⟩ := (lineReader_eq_some hbegins).mp h
      have hnoFeed : '\n' ∉ l.text := hline ▸ hbegins.noFeed
      have hbodyRead : bodyReader l.text = some (l'.pieces, []) :=
        (bodyReader_iff hnoFeed).mpr ⟨l', hbody', hline'.trans hline.symm, rfl⟩
      exact absurd hbodyRead (bodyReader_of_header hbody hnoFeed)

theorem rowReader_eq_some (h : Begins text line brk rest) :
    rowReader text = some (ps, left) ↔ ∃ l : Line, l.text = line ∧
      ps = l.pieces ++ brk.pieces .endOfLine ∧ left = rest := by
  rw [rowReader, orElse_eq_some]
  constructor
  · rintro (hread | ⟨-, hread⟩)
    · obtain ⟨l, -, hrow⟩ := (headerReader_eq_some h).mp hread
      exact ⟨l, hrow⟩
    · obtain ⟨l, -, hrow⟩ := (lineReader_eq_some h).mp hread
      exact ⟨l, hrow⟩
  · rintro ⟨l, hrow⟩
    by_cases hbody : l.body.IsHeader
    · exact .inl ((headerReader_eq_some h).mpr ⟨l, hbody, hrow⟩)
    · have hread := (lineReader_eq_some h).mpr ⟨l, hbody, hrow⟩
      exact .inr ⟨headerReader_eq_none hread, hread⟩

theorem rowReader_isSome (h : Begins text line brk rest) :
    (rowReader text).isSome ↔ WellFormed line := by
  rw [Option.isSome_iff_exists, wellFormed_iff h.noFeed]
  constructor
  · rintro ⟨⟨ps, left⟩, hread⟩
    obtain ⟨l, hline, -⟩ := (rowReader_eq_some h).mp hread
    exact ⟨l, hline⟩
  · rintro ⟨l, hline⟩
    exact ⟨_, (rowReader_eq_some h).mpr ⟨l, hline, rfl, rfl⟩⟩

theorem wellFormed_iff_isSome (h : '\n' ∉ line) : WellFormed line ↔ (rowReader line).isSome :=
  (rowReader_isSome (begins_self h)).symm

theorem length_of_row (h : rowReader text = some (ps, left)) (hleft : left ≠ []) :
    left.length < text.length := by
  obtain ⟨brk, rest, hbegins⟩ := exists_begins text
  obtain ⟨l, -, -, rfl⟩ := (rowReader_eq_some hbegins).mp h
  exact hbegins.length_lt fun hbrk => hleft (hbegins.last hbrk)

theorem rowReader_of_line (h : lineReader text = some (ps, left)) :
    rowReader text = some (ps, left) :=
  orElse_eq_some.mpr (.inr ⟨headerReader_eq_none h, h⟩)

theorem rowReader_of_header (h : headerReader text = some (ps, left)) :
    rowReader text = some (ps, left) := orElse_eq_some.mpr (.inl h)

theorem many_rowReader_nil : rowReader.many [] = ([], []) := by
  have hread : rowReader [] = some ([], []) :=
    (rowReader_eq_some (begins_self List.not_mem_nil)).mpr
      ⟨⟨⟨[], by simp⟩, .blank, none⟩, rfl, rfl, rfl⟩
  exact many_of_end hread

theorem many_rowReader_append (h : rowReader text = some (ps, left)) :
    rowReader.many text = (ps ++ (rowReader.many left).1, (rowReader.many left).2) :=
  many_append many_rowReader_nil h (length_of_row h)

end Row

section Section

theorem many_lineReader_length (text : Text) :
    (lineReader.many text).2.length ≤ text.length := by
  have hsplit := congrArg List.length (lineRule_readsAs.many_split text)
  rw [List.length_append] at hsplit
  omega

theorem length_of_lines (h : rowReader text = some (ps, left))
    (hne : (lineReader.many left).2 ≠ []) : (lineReader.many left).2.length < text.length := by
  have hle := many_lineReader_length left
  have hpos := List.length_pos_of_ne_nil hne
  have hleft : left ≠ [] := List.ne_nil_of_length_pos (by omega)
  have hlt := length_of_row h hleft
  omega

/-- Rows can be read on where lines that are not headers end. -/
theorem many_rowReader_eq (text : Text) :
    rowReader.many text = ((lineReader.many text).1 ++ (rowReader.many (lineReader.many text).2).1,
      (rowReader.many (lineReader.many text).2).2) := by
  cases hline : lineReader text with
  | none => simp [many_of_none hline]
  | some found =>
      obtain ⟨ps, left⟩ := found
      have hrow := rowReader_of_line hline
      by_cases hleft : left = []
      · subst hleft
        rw [many_of_end hline, many_of_end hrow, many_rowReader_nil, List.append_nil]
      · have hlt := length_of_row hrow hleft
        rw [many_of_some hline hleft hlt, many_rowReader_append hrow, many_rowReader_eq left]
        simp
termination_by text.length

def sectionReader : Reader Kind :=
  oneOf [headerReader.andThen (lineReader.repeatCounts (Counts.between? (.included 0) .unbounded)),
    lineReader.repeatCounts (Counts.between? (.included 1) .unbounded)]

def fileReader : Reader Kind :=
  sectionReader.repeatCounts (Counts.between? (.included 0) .unbounded)

theorem sectionRule_readsAs : sectionRule.ReadsAs sectionReader :=
  .named (.oneOf (.cons (headerRule_readsAs.sequence (lineRule_readsAs.repeated _ _))
    (.cons (lineRule_readsAs.repeated _ _) .nil))) _

theorem fileRule_readsAs : fileRule.ReadsAs fileReader :=
  .named (sectionRule_readsAs.repeated _ _) _

theorem repeatCounts_between {r : Rule Kind} {f : Reader Kind} (hr : r.ReadsAs f) {min : Nat}
    (hmin : min ≤ 1) (htext : byteSize text < wordCount) :
    f.repeatCounts (Counts.between? (.included min) .unbounded) text =
      if min = 0 ∨ (f text).isSome then some (f.many text) else none := by
  have hcounts : Counts.between? (.included min) .unbounded = some ⟨min, wordCount - 1⟩ := by
    have hword : 1 ≤ wordCount - 1 := by decide
    simp only [Counts.between?, Counts.lower, Counts.upper]
    rw [if_pos (by omega)]
  have hmax : Nat.max 1 (byteSize text) ≤ wordCount - 1 := by
    have hword : 1 ≤ wordCount - 1 := by decide
    exact Nat.max_le.mpr ⟨hword, by omega⟩
  rw [hcounts, hr.repeatCounts_eq_many hmin hmax]

theorem sectionReader_of_header (htext : byteSize text < wordCount)
    (h : headerReader text = some (ps, left)) :
    sectionReader text = some (ps ++ (lineReader.many left).1, (lineReader.many left).2) := by
  have hleft : byteSize left < wordCount := by
    have hsplit := congrArg byteSize (headerRule_readsAs.split h)
    rw [byteSize_append] at hsplit
    omega
  have hlines := repeatCounts_between lineRule_readsAs (Nat.zero_le 1) hleft
  rw [if_pos (.inl rfl)] at hlines
  exact orElse_eq_some.mpr (.inl (andThen_eq_some.mpr ⟨ps, left, _, h, hlines, rfl⟩))

theorem sectionReader_of_line (htext : byteSize text < wordCount)
    (h : lineReader text = some (ps, left)) :
    sectionReader text = some (lineReader.many text) := by
  have hlines := repeatCounts_between lineRule_readsAs (Nat.le_refl 1) htext
  rw [if_pos (.inr (by rw [h]; rfl))] at hlines
  have hheader := andThen_of_none (headerReader_eq_none h)
    (lineReader.repeatCounts (Counts.between? (.included 0) .unbounded))
  exact orElse_eq_some.mpr (.inr ⟨hheader, orElse_eq_some.mpr (.inl hlines)⟩)

theorem sectionReader_of_none (htext : byteSize text < wordCount)
    (hheader : headerReader text = none) (hline : lineReader text = none) :
    sectionReader text = none := by
  have hlines := repeatCounts_between lineRule_readsAs (Nat.le_refl 1) htext
  rw [if_neg (by simp [hline])] at hlines
  have hfirst := andThen_of_none hheader
    (lineReader.repeatCounts (Counts.between? (.included 0) .unbounded))
  simp [sectionReader, oneOf_cons, orElse, never, hfirst, hlines]

/-- Sections are runs of rows. -/
theorem many_sectionReader (text : Text) (htext : byteSize text < wordCount) :
    sectionReader.many text = rowReader.many text := by
  have hrest {ps : List (Piece Kind)} {left : Text}
      (hsection : sectionReader text = some (ps, left))
      (hlt : left ≠ [] → left.length < text.length)
      (hrow : rowReader.many text =
        (ps ++ (rowReader.many left).1, (rowReader.many left).2)) :
      sectionReader.many text = rowReader.many text := by
    have hsize : byteSize left < wordCount := by
      have hsplit := congrArg byteSize (sectionRule_readsAs.split hsection)
      rw [byteSize_append] at hsplit
      omega
    by_cases hleft : left = []
    · subst hleft
      rw [many_of_end hsection, hrow, many_rowReader_nil, List.append_nil]
    · have hlength := hlt hleft
      rw [many_of_some hsection hleft hlength, many_sectionReader left hsize, hrow]
  cases hheader : headerReader text with
  | some found =>
      obtain ⟨ps, left⟩ := found
      have hread := rowReader_of_header hheader
      refine hrest (sectionReader_of_header htext hheader) ?_ ?_
      · exact length_of_lines hread
      · rw [many_rowReader_append hread, many_rowReader_eq left]
        simp
  | none =>
      cases hline : lineReader text with
      | some found =>
          obtain ⟨ps, left⟩ := found
          have hread := rowReader_of_line hline
          refine hrest (sectionReader_of_line htext hline) ?_ (many_rowReader_eq text)
          by_cases hleft : left = []
          · subst hleft
            rw [many_of_end hline]
            exact fun hne => absurd rfl hne
          · rw [many_of_some hline hleft (length_of_row hread hleft)]
            exact length_of_lines hread
      | none =>
          have hrow : rowReader text = none := by simp [rowReader, orElse, hheader, hline]
          rw [many_of_none (sectionReader_of_none htext hheader hline), many_of_none hrow]
termination_by text.length

/-- A file is read as far as rows can be read. -/
theorem fileReader_eq (htext : byteSize text < wordCount) :
    fileReader text = some (rowReader.many text) := by
  have hsections := repeatCounts_between sectionRule_readsAs (Nat.zero_le 1) htext
  rwa [if_pos (.inl rfl), many_sectionReader text htext] at hsections

theorem tokenize_eq {source : Source} (h : source.size < wordCount) :
    tokenize source =
      .ok ((Lexer.start source).readAll (rowReader.many source.text).1) := by
  have hstart : (Lexer.start source : Lexer Kind).At source.text := Lexer.at_start h
  have happly := fileRule_readsAs.apply_eq hstart
  rw [fileReader_eq h] at happly
  exact happly

theorem many_rowReader_split (text : Text) :
    text = Piece.join (rowReader.many text).1 ++ (rowReader.many text).2 := by
  have hrule := headerRule_readsAs.choice lineRule_readsAs
  exact hrule.many_split text

end Section

end RuleLexer.Ini
