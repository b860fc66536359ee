import RuleLexer.Ini.Rules
import RuleLexer.Proofs.Ini.Line
import RuleLexer.Proofs.Lexer.Line

/-!
# What the rules of a line read

The rules of headers and of other lines read a line to its end exactly if
it is a line of their kind, and then they read the pieces of that line. No
line is read to its end by both.
-/

namespace RuleLexer.Ini

open Text Reader

def spaceReader : Reader Kind := (run isSpace .whitespaceToken).option

def commentReader : Reader Kind :=
  seq [oneOf [literal ['#'] .hash, literal [';'] .semicolon],
    (pattern commentPattern .commentToken).option]

/-- A header line without its end. -/
def headReader : Reader Kind :=
  seq [spaceReader, literal ['['] .leftBracket, pattern headerPattern .headerToken,
    literal [']'] .rightBracket, spaceReader, commentReader.option]

def entryReader : Reader Kind :=
  seq [pattern keyPattern .keyToken, spaceReader,
    oneOf [literal ['='] .equals, literal [':'] .colon], spaceReader,
    (pattern valuePattern .valueToken).option]

/-- A line that is not a header without its end. -/
def bodyReader : Reader Kind :=
  seq [spaceReader, entryReader.option, spaceReader, commentReader.option]

def headerReader : Reader Kind := headReader.andThen (eol .endOfLine)

def lineReader : Reader Kind := bodyReader.andThen (eol .endOfLine)

section Rules

theorem spaceRule_readsAs : spaceRule.ReadsAs spaceReader := .option (.run _ _)

theorem commentRule_readsAs : commentRule.ReadsAs commentReader :=
  .named (.seq (.cons (.oneOf (.cons (.char '#' _) (.cons (.char ';' _) .nil)))
    (.cons (.option (.pattern _ _)) .nil))) _

theorem entryRule_readsAs : entryRule.ReadsAs entryReader :=
  .named (.seq (.cons (.pattern _ _) (.cons spaceRule_readsAs
    (.cons (.oneOf (.cons (.char '=' _) (.cons (.char ':' _) .nil)))
      (.cons spaceRule_readsAs (.cons (.option (.pattern _ _)) .nil)))))) _

theorem headerRule_readsAs : headerRule.ReadsAs headerReader := by
  have h : headerRule.ReadsAs (seq ([spaceReader, literal ['['] .leftBracket,
      pattern headerPattern .headerToken, literal [']'] .rightBracket, spaceReader,
      commentReader.option] ++ [eol .endOfLine])) :=
    .named (.seq (.cons spaceRule_readsAs (.cons (.char _ _) (.cons (.pattern _ _)
      (.cons (.char _ _) (.cons spaceRule_readsAs (.cons (.option commentRule_readsAs)
        (.cons (.eol _) .nil)))))))) _
  rwa [seq_concat] at h

theorem lineRule_readsAs : lineRule.ReadsAs lineReader := by
  have h : lineRule.ReadsAs (seq ([spaceReader, entryReader.option, spaceReader,
      commentReader.option] ++ [eol .endOfLine])) :=
    .named (.seq (.cons spaceRule_readsAs (.cons (.option entryRule_readsAs)
      (.cons spaceRule_readsAs (.cons (.option commentRule_readsAs) (.cons (.eol _) .nil)))))) _
  rwa [seq_concat] at h

theorem spaceReader_inLine : spaceReader.InLine := (InLine.run rfl rfl _).option

theorem commentReader_inLine : commentReader.InLine := by
  refine .seq (List.forall_mem_cons.mpr ⟨.oneOf ?_, ?_⟩)
  · simpa using ⟨InLine.char (by decide) (by decide) Kind.hash,
      InLine.char (by decide) (by decide) Kind.semicolon⟩
  · simpa using (InLine.pattern commentPattern Kind.commentToken).option

theorem entryReader_inLine : entryReader.InLine := by
  have hmark : (oneOf [literal ['='] Kind.equals, literal [':'] .colon]).InLine := by
    refine .oneOf ?_
    simpa using ⟨InLine.char (by decide) (by decide) Kind.equals,
      InLine.char (by decide) (by decide) Kind.colon⟩
  refine .seq ?_
  simpa using ⟨InLine.pattern keyPattern Kind.keyToken, spaceReader_inLine, hmark,
    spaceReader_inLine, (InLine.pattern valuePattern Kind.valueToken).option⟩

theorem headReader_inLine : headReader.InLine := by
  refine .seq ?_
  simpa using ⟨spaceReader_inLine, InLine.char (by decide) (by decide) Kind.leftBracket,
    InLine.pattern headerPattern Kind.headerToken,
    InLine.char (by decide) (by decide) Kind.rightBracket, spaceReader_inLine,
    commentReader_inLine.option⟩

theorem bodyReader_inLine : bodyReader.InLine := by
  refine .seq ?_
  simpa using ⟨spaceReader_inLine, entryReader_inLine.option, spaceReader_inLine,
    commentReader_inLine.option⟩

end Rules

section Forward

theorem spaceReader_append (g : Gap) {text : Text} (h : Stops isSpace text) :
    spaceReader (g.text ++ text) = some (g.pieces, text) :=
  option_token_append _ (takeWhile_run g.all h)

theorem spaceReader_of_stops {text : Text} (h : Stops isSpace text) :
    spaceReader text = some ([], text) :=
  option_of_none (token_eq_none.mpr (takeWhile_eq_nil h))

theorem commentReader_eq_none {text : Text} (h : Stops (fun c => c == '#' || c == ';') text) :
    commentReader text = none := by
  refine andThen_of_none ?_ _
  cases hread : oneOf [literal ['#'] Kind.hash, literal [';'] .semicolon] text with
  | none => rfl
  | some found =>
      rcases (oneOf_literals_eq_some (by decide)).mp hread with ⟨-, rfl⟩ | ⟨-, rfl⟩
      · simp at h
      · simp at h

theorem commentReader_note (note : Option Note) (hline : '\n' ∉ Note.optionText note) :
    commentReader.option (Note.optionText note) = some (Note.optionPieces note, []) := by
  cases note with
  | none => exact option_of_none (commentReader_eq_none stops_nil)
  | some n =>
      obtain ⟨mark, text⟩ := n
      have hmark : oneOf [literal ['#'] Kind.hash, literal [';'] .semicolon] (mark.char :: text) =
          some ([Piece.ofChar mark.char mark.kind], text) := by
        refine (oneOf_literals_eq_some (by decide)).mpr ?_
        cases mark with
        | hash => exact .inl ⟨rfl, rfl⟩
        | semicolon => exact .inr ⟨rfl, rfl⟩
      have hfront : commentPattern.front (text ++ []) = text := by
        rw [List.append_nil]
        exact front_commentPattern fun h => hline (List.mem_cons_of_mem _ h)
      have htext := option_token_append Kind.commentToken hfront
      rw [List.append_nil] at htext
      have hread : commentReader (mark.char :: text) = some (Note.pieces ⟨mark, text⟩, []) :=
        (seq_cons_of_some hmark (seq_cons_of_some htext (seq_nil_eq []))).trans
          (by simp [Note.pieces])
      exact option_of_some hread

theorem headReader_text (indent gap : Gap) (name : Word isNameChar) (note : Option Note)
    (hline : '\n' ∉ (Line.mk indent (.header name gap) note).text) :
    headReader (Line.mk indent (.header name gap) note).text =
      some ((Line.mk indent (.header name gap) note).pieces, []) := by
  rw [Line.text_header] at hline ⊢
  have hindent := spaceReader_append indent
    (show Stops isSpace ('[' :: (name.text ++ ']' :: (gap.text ++ Note.optionText note))) by
      simp [isSpace])
  have hname : pattern headerPattern Kind.headerToken
      (name.text ++ ']' :: (gap.text ++ Note.optionText note)) =
      some (Word.pieces name .headerToken, ']' :: (gap.text ++ Note.optionText note)) := by
    refine token_append _ ?_ name.nonempty
    rw [front_headerPattern (by simp_all)]
    exact takeWhile_run name.all (by simp [isNameChar])
  have hgap := spaceReader_append gap (stops_note note (p := isSpace) rfl rfl)
  have hnote := commentReader_note note (by simp_all)
  have hread := seq_cons_of_some hindent (seq_cons_of_some (literal_cons '[' Kind.leftBracket _)
    (seq_cons_of_some hname (seq_cons_of_some (literal_cons ']' Kind.rightBracket _)
      (seq_cons_of_some hgap (seq_cons_of_some hnote (seq_nil_eq []))))))
  refine hread.trans ?_
  simp [Line.pieces, Body.pieces]

theorem entryReader_of_stops {text : Text} (hline : '\n' ∉ text) (h : Stops isKeyChar text) :
    entryReader.option text = some ([], text) := by
  have hkey : pattern keyPattern Kind.keyToken text = none :=
    token_eq_none.mpr ((front_keyPattern hline).trans (takeWhile_eq_nil h))
  exact option_of_none (andThen_of_none hkey _)

theorem entryReader_append (key : Word isKeyChar) (before : Gap) (separator : Separator)
    (after : Gap) {tail last : Text} {value : List (Piece Kind)}
    (hline : '\n' ∉ key.text ++ (before.text ++ separator.char :: (after.text ++ tail)))
    (htail : Stops isSpace tail)
    (hvalue : (pattern valuePattern .valueToken).option tail = some (value, last)) :
    entryReader.option (key.text ++ (before.text ++ separator.char :: (after.text ++ tail))) =
      some (Word.pieces key .keyToken ++ (before.pieces ++
        Piece.ofChar separator.char separator.kind :: (after.pieces ++ value)), last) := by
  have hkey : pattern keyPattern Kind.keyToken
      (key.text ++ (before.text ++ separator.char :: (after.text ++ tail))) =
      some (Word.pieces key .keyToken, before.text ++ separator.char :: (after.text ++ tail)) := by
    refine token_append _ ?_ key.nonempty
    rw [front_keyPattern hline]
    refine takeWhile_run key.all (before.stops_append (fun c => isKeyChar_of_isSpace) ?_)
    cases separator <;> simp [Separator.char, isKeyChar]
  have hbefore : spaceReader (before.text ++ separator.char :: (after.text ++ tail)) =
      some (before.pieces, separator.char :: (after.text ++ tail)) := by
    refine spaceReader_append before ?_
    cases separator <;> simp [Separator.char, isSpace]
  have hseparator : oneOf [literal ['='] Kind.equals, literal [':'] .colon]
      (separator.char :: (after.text ++ tail)) =
      some ([Piece.ofChar separator.char separator.kind], after.text ++ tail) := by
    refine (oneOf_literals_eq_some (by decide)).mpr ?_
    cases separator with
    | equals => exact .inl ⟨rfl, rfl⟩
    | colon => exact .inr ⟨rfl, rfl⟩
  have hread := seq_cons_of_some hkey (seq_cons_of_some hbefore (seq_cons_of_some hseparator
    (seq_cons_of_some (spaceReader_append after htail)
      (seq_cons_of_some hvalue (seq_nil_eq last)))))
  refine option_of_some (hread.trans ?_)
  simp

/-- A value and the gap behind it are read up to the comment. -/
theorem valueReader_text (value : Option (Value × Gap)) (note : Option Note)
    (hline : '\n' ∉ Piece.join (Value.optionPieces value) ++ Note.optionText note) :
    ∃ ps rest qs, (pattern valuePattern .valueToken).option
        (Piece.join (Value.optionPieces value) ++ Note.optionText note) = some (ps, rest) ∧
      spaceReader rest = some (qs, Note.optionText note) ∧ ps ++ qs = Value.optionPieces value ∧
      Stops isSpace (Piece.join (Value.optionPieces value) ++ Note.optionText note) := by
  have hspace : Stops isSpace (Note.optionText note) := stops_note note rfl rfl
  have hvalueChar : Stops isValueChar (Note.optionText note) :=
    stops_note note (by decide) (by decide)
  cases value with
  | none =>
      have hvalue : (pattern valuePattern .valueToken).option (Note.optionText note) =
          some (([] : List (Piece Kind)), Note.optionText note) :=
        option_of_none (token_eq_none.mpr (Value.front_valuePattern_of_stops hline hvalueChar))
      exact ⟨[], _, [], hvalue, spaceReader_of_stops hspace, rfl, hspace⟩
  | some found =>
      obtain ⟨v, gap⟩ := found
      have htext : Piece.join (Value.optionPieces (some (v, gap))) ++ Note.optionText note =
          v.text ++ (gap.text ++ Note.optionText note) := by
        simp [Value.optionPieces]
      rw [htext] at hline ⊢
      have hvalue : (pattern valuePattern .valueToken).option
          (v.text ++ (gap.text ++ Note.optionText note)) =
          some (v.pieces, gap.text ++ Note.optionText note) := by
        refine option_of_some (token_append _ ?_ v.text_ne_nil)
        exact v.front_valuePattern gap hline hspace hvalueChar
      exact ⟨v.pieces, _, gap.pieces, hvalue, spaceReader_append gap hspace, rfl,
        v.stops_isSpace _⟩

/-- Behind the indentation, a line that is not a header is read as its body and its comment. -/
theorem bodyReader_text (l : Line) (hbody : ¬l.body.IsHeader) (hline : '\n' ∉ l.text) :
    bodyReader l.text = some (l.pieces, []) := by
  obtain ⟨indent, body, note⟩ := l
  have hindent := spaceReader_append indent (body.stops_isSpace note)
  rw [Line.text_eq] at hline ⊢
  have hnote := commentReader_note note (by simp_all)
  cases body with
  | blank =>
      have hentry := entryReader_of_stops (by simp_all)
        (stops_note note (p := isKeyChar) (by decide) (by decide))
      have hspace := spaceReader_of_stops (stops_note note (p := isSpace) rfl rfl)
      have hread := seq_cons_of_some hindent (seq_cons_of_some hentry (seq_cons_of_some hspace
        (seq_cons_of_some hnote (seq_nil_eq []))))
      refine hread.trans ?_
      simp [Line.pieces, Body.pieces]
  | header name gap => exact absurd trivial hbody
  | entry key before separator after value =>
      have htext : Piece.join (Body.entry key before separator after value).pieces ++
          Note.optionText note = key.text ++ (before.text ++ separator.char ::
            (after.text ++ (Piece.join (Value.optionPieces value) ++ Note.optionText note))) := by
        simp [Body.pieces]
      rw [htext] at hline hindent ⊢
      obtain ⟨ps, rest, qs, hvalue, hgap, hpieces, hstops⟩ :=
        valueReader_text value note (by simp_all)
      have hentry := entryReader_append key before separator after (by simp_all) hstops hvalue
      have hread := seq_cons_of_some hindent (seq_cons_of_some hentry
        (seq_cons_of_some hgap (seq_cons_of_some hnote (seq_nil_eq []))))
      refine hread.trans ?_
      simp [Line.pieces, Body.pieces, ← hpieces]

/-- A header line is not read past its bracket as another line. -/
theorem bodyReader_bracket (indent : Gap) {text : Text} (hline : '\n' ∉ '[' :: text) :
    bodyReader (indent.text ++ '[' :: text) = some (indent.pieces, '[' :: text) := by
  have hstops : Stops isSpace ('[' :: text) := by simp [isSpace]
  have hentry := entryReader_of_stops hline (by simp [isKeyChar])
  have hnote : commentReader.option ('[' :: text) = some ([], '[' :: text) :=
    option_of_none (commentReader_eq_none (by simp))
  have hread := seq_cons_of_some (spaceReader_append indent hstops) (seq_cons_of_some hentry
    (seq_cons_of_some (spaceReader_of_stops hstops) (seq_cons_of_some hnote (seq_nil_eq _))))
  refine hread.trans ?_
  simp

end Forward

section Backward

variable {text rest : Text} {ps : List (Piece Kind)}

theorem spaceReader_eq_some (h : spaceReader text = some (ps, rest)) :
    ∃ g : Gap, ps = g.pieces ∧ text = g.text ++ rest ∧ Stops isSpace rest := by
  have hread := spaceReader_append (Run.front isSpace text) (stops_dropWhile isSpace text)
  rw [Run.front_append, h] at hread
  obtain ⟨rfl, rfl⟩ := Prod.mk.inj (Option.some.inj hread)
  exact ⟨.front isSpace text, rfl, (Run.front_append _ _).symm, stops_dropWhile _ _⟩

theorem pattern_eq_some {p : Anchored} {q : Char → Bool} {kind : Kind}
    (hfront : p.front text = text.takeWhile q) (h : pattern p kind text = some (ps, rest)) :
    ∃ w : Word q, ps = Word.pieces w kind ∧ text = w.text ++ rest := by
  obtain ⟨hne, rfl, htext⟩ := (token_eq_some (p.front_isPrefix text)).mp h
  rw [hfront] at htext
  have hne' : (Run.front q text).text ≠ [] := by
    rwa [hfront] at hne
  exact ⟨⟨.front q text, hne'⟩, by simp only [Word.pieces, Run.front, hfront], htext⟩

theorem commentReader_eq_some (hline : '\n' ∉ text)
    (h : commentReader.option text = some (ps, [])) :
    ∃ note : Option Note, ps = Note.optionPieces note := by
  rcases orElse_eq_some.mp h with hread | ⟨-, hread⟩
  · obtain ⟨qs, middle, rs, hmark, htail, rfl⟩ := seq_cons_eq_some.mp hread
    obtain ⟨qs', middle', rs', hnote, hend, rfl⟩ := seq_cons_eq_some.mp htail
    have hmiddle : '\n' ∉ middle := by
      rcases (oneOf_literals_eq_some (by decide)).mp hmark with ⟨-, rfl⟩ | ⟨-, rfl⟩
      · exact fun hmem => hline (List.mem_cons_of_mem _ hmem)
      · exact fun hmem => hline (List.mem_cons_of_mem _ hmem)
    have hfront : commentPattern.front (middle ++ []) = middle := by
      rw [List.append_nil, front_commentPattern hmiddle]
    have hread' := option_token_append Kind.commentToken hfront
    rw [List.append_nil] at hread'
    obtain ⟨rfl, rfl⟩ := Prod.mk.inj (Option.some.inj (hread'.symm.trans hnote))
    obtain ⟨rfl, -⟩ := Prod.mk.inj (Option.some.inj hend)
    rcases (oneOf_literals_eq_some (by decide)).mp hmark with ⟨rfl, -⟩ | ⟨rfl, -⟩
    · exact ⟨some ⟨.hash, middle⟩, by simp [Note.optionPieces, Note.pieces, Mark.char, Mark.kind]⟩
    · exact ⟨some ⟨.semicolon, middle⟩,
        by simp [Note.optionPieces, Note.pieces, Mark.char, Mark.kind]⟩
  · obtain ⟨rfl, -⟩ := Prod.mk.inj (Option.some.inj hread)
    exact ⟨none, rfl⟩

theorem separator_eq_some
    (h : oneOf [literal ['='] Kind.equals, literal [':'] .colon] text = some (ps, rest)) :
    ∃ separator : Separator, ps = [Piece.ofChar separator.char separator.kind] ∧
      text = separator.char :: rest := by
  rcases (oneOf_literals_eq_some (by decide)).mp h with ⟨rfl, rfl⟩ | ⟨rfl, rfl⟩
  · exact ⟨.equals, rfl, rfl⟩
  · exact ⟨.colon, rfl, rfl⟩

theorem valueReader_eq_some (hline : '\n' ∉ text) (hspace : Stops isSpace text)
    (h : (pattern valuePattern .valueToken).option text = some (ps, rest)) :
    ∃ value : Option Value, ps = value.elim [] Value.pieces ∧
      (value = none → Stops isSpace rest) := by
  by_cases hstops : Stops isValueChar text
  · have hread : (pattern valuePattern Kind.valueToken).option text = some ([], text) :=
      option_of_none (token_eq_none.mpr (Value.front_valuePattern_of_stops hline hstops))
    obtain ⟨rfl, rfl⟩ := Prod.mk.inj (Option.some.inj (h.symm.trans hread))
    exact ⟨none, rfl, fun _ => hspace⟩
  · obtain ⟨v, gap, tail, rfl, htail, hvalue⟩ := Value.exists_append text hstops
    have hread := option_of_some (token_append Kind.valueToken
      (v.front_valuePattern gap hline htail hvalue) v.text_ne_nil)
    obtain ⟨rfl, rfl⟩ := Prod.mk.inj (Option.some.inj (h.symm.trans hread))
    exact ⟨some v, rfl, fun hnone => absurd hnone (by simp)⟩

theorem entryReader_eq_some (hline : '\n' ∉ text) (h : entryReader text = some (ps, rest)) :
    ∃ (key : Word isKeyChar) (before : Gap) (separator : Separator) (after : Gap)
      (value : Option Value),
      ps = Word.pieces key .keyToken ++ (before.pieces ++
        Piece.ofChar separator.char separator.kind ::
          (after.pieces ++ value.elim [] Value.pieces)) ∧
      (value = none → Stops isSpace rest) := by
  obtain ⟨_, t₁, _, hkey, h₁, rfl⟩ := seq_cons_eq_some.mp h
  obtain ⟨key, rfl, rfl⟩ := pattern_eq_some (front_keyPattern hline) hkey
  obtain ⟨_, t₂, _, hbefore, h₂, rfl⟩ := seq_cons_eq_some.mp h₁
  obtain ⟨before, rfl, rfl, -⟩ := spaceReader_eq_some hbefore
  obtain ⟨_, t₃, _, hseparator, h₃, rfl⟩ := seq_cons_eq_some.mp h₂
  obtain ⟨separator, rfl, rfl⟩ := separator_eq_some hseparator
  obtain ⟨_, t₄, _, hafter, h₄, rfl⟩ := seq_cons_eq_some.mp h₃
  obtain ⟨after, rfl, rfl, hstops⟩ := spaceReader_eq_some hafter
  obtain ⟨_, t₅, _, hvalue, h₅, rfl⟩ := seq_cons_eq_some.mp h₄
  obtain ⟨rfl, rfl⟩ := Prod.mk.inj (Option.some.inj h₅)
  obtain ⟨value, rfl, hrest⟩ := valueReader_eq_some (by simp_all) hstops hvalue
  exact ⟨key, before, separator, after, value, by simp, hrest⟩

theorem headReader_eq_some (hline : '\n' ∉ text) (h : headReader text = some (ps, [])) :
    ∃ l : Line, l.body.IsHeader ∧ ps = l.pieces := by
  obtain ⟨_, t₁, _, hindent, h₁, rfl⟩ := seq_cons_eq_some.mp h
  obtain ⟨indent, rfl, rfl, -⟩ := spaceReader_eq_some hindent
  obtain ⟨_, t₂, _, hleft, h₂, rfl⟩ := seq_cons_eq_some.mp h₁
  obtain ⟨rfl, rfl⟩ := literal_eq_some.mp hleft
  obtain ⟨_, t₃, _, hname, h₃, rfl⟩ := seq_cons_eq_some.mp h₂
  obtain ⟨name, rfl, rfl⟩ := pattern_eq_some (front_headerPattern (by simp_all)) hname
  obtain ⟨_, t₄, _, hright, h₄, rfl⟩ := seq_cons_eq_some.mp h₃
  obtain ⟨rfl, rfl⟩ := literal_eq_some.mp hright
  obtain ⟨_, t₅, _, hgap, h₅, rfl⟩ := seq_cons_eq_some.mp h₄
  obtain ⟨gap, rfl, rfl, -⟩ := spaceReader_eq_some hgap
  obtain ⟨_, t₆, _, hnote, h₆, rfl⟩ := seq_cons_eq_some.mp h₅
  obtain ⟨rfl, rfl⟩ := Prod.mk.inj (Option.some.inj h₆)
  obtain ⟨note, rfl⟩ := commentReader_eq_some (by simp_all) hnote
  exact ⟨⟨indent, .header name gap, note⟩, trivial, by simp [Line.pieces, Body.pieces]⟩

/-- Of the two places for blanks behind an entry or behind nothing, one is empty unless a value
stands between them. -/
theorem bodyReader_eq_some (hline : '\n' ∉ text) (h : bodyReader text = some (ps, [])) :
    ∃ l : Line, ¬l.body.IsHeader ∧ ps = l.pieces := by
  obtain ⟨_, t₁, _, hindent, h₁, rfl⟩ := seq_cons_eq_some.mp h
  obtain ⟨indent, rfl, rfl, hstops⟩ := spaceReader_eq_some hindent
  obtain ⟨_, t₂, _, hentry, h₂, rfl⟩ := seq_cons_eq_some.mp h₁
  have hsplit := (entryReader_inLine.option).split hentry
  obtain ⟨_, t₃, _, hgap, h₃, rfl⟩ := seq_cons_eq_some.mp h₂
  obtain ⟨gap, rfl, rfl, -⟩ := spaceReader_eq_some hgap
  obtain ⟨_, t₄, _, hnote, h₄, rfl⟩ := seq_cons_eq_some.mp h₃
  obtain ⟨rfl, rfl⟩ := Prod.mk.inj (Option.some.inj h₄)
  obtain ⟨note, rfl⟩ := commentReader_eq_some (by simp_all) hnote
  have hempty (hstops : Stops isSpace (gap.text ++ t₃)) : gap.pieces = [] := by
    have hnone := spaceReader_of_stops hstops
    exact (Prod.mk.inj (Option.some.inj (hgap.symm.trans hnone))).1
  rcases orElse_eq_some.mp hentry with hread | ⟨-, hread⟩
  · have hline₁ : '\n' ∉ t₁ := fun hmem => hline (List.mem_append_right _ hmem)
    obtain ⟨key, before, separator, after, value, rfl, hrest⟩ :=
      entryReader_eq_some hline₁ hread
    cases value with
    | none =>
        refine ⟨⟨indent, .entry key before separator after none, note⟩, id, ?_⟩
        simp [Line.pieces, Body.pieces, Value.optionPieces, hempty (hrest rfl)]
    | some v =>
        refine ⟨⟨indent, .entry key before separator after (some (v, gap)), note⟩, id, ?_⟩
        simp [Line.pieces, Body.pieces, Value.optionPieces]
  · obtain ⟨rfl, rfl⟩ := Prod.mk.inj (Option.some.inj hread)
    refine ⟨⟨indent, .blank, note⟩, id, ?_⟩
    simp [Line.pieces, Body.pieces, hempty hstops]

end Backward

section Lines

variable {text : Text} {ps : List (Piece Kind)}

/-- The rule of headers reads exactly the lines that are headers. -/
theorem headReader_iff (hline : '\n' ∉ text) :
    headReader text = some (ps, []) ↔
      ∃ l : Line, l.body.IsHeader ∧ l.text = text ∧ ps = l.pieces := by
  constructor
  · intro h
    obtain ⟨l, hbody, rfl⟩ := headReader_eq_some hline h
    have htext := headReader_inLine.split h
    rw [List.append_nil] at htext
    exact ⟨l, hbody, htext.symm, rfl⟩
  · rintro ⟨⟨indent, body, note⟩, hbody, rfl, rfl⟩
    cases body with
    | blank => exact absurd hbody id
    | header name gap => exact headReader_text indent gap name note hline
    | entry key before separator after value => exact absurd hbody id

theorem bodyReader_iff (hline : '\n' ∉ text) :
    bodyReader text = some (ps, []) ↔
      ∃ l : Line, ¬l.body.IsHeader ∧ l.text = text ∧ ps = l.pieces := by
  constructor
  · intro h
    obtain ⟨l, hbody, rfl⟩ := bodyReader_eq_some hline h
    have htext := bodyReader_inLine.split h
    rw [List.append_nil] at htext
    exact ⟨l, hbody, htext.symm, rfl⟩
  · rintro ⟨l, hbody, rfl, rfl⟩
    exact bodyReader_text l hbody hline

theorem bodyReader_of_header {l : Line} (h : l.body.IsHeader) (hline : '\n' ∉ l.text) :
    bodyReader l.text ≠ some (ps, []) := by
  obtain ⟨indent, body, note⟩ := l
  cases body with
  | blank => exact absurd h id
  | header name gap =>
      have htext : (Line.mk indent (.header name gap) note).text =
          indent.text ++ '[' :: (name.text ++ ']' :: (gap.text ++ Note.optionText note)) := by
        simp [Line.text_eq, Body.pieces]
      rw [htext] at hline ⊢
      rw [bodyReader_bracket indent fun hmem => hline (List.mem_append_right _ hmem)]
      simp
  | entry key before separator after value => exact absurd h id

end Lines

end RuleLexer.Ini
