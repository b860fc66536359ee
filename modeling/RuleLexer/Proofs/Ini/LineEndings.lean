import RuleLexer.Proofs.Ini.Blocks
import RuleLexer.Proofs.Ini.Document
import RuleLexer.Proofs.Text.Returns

/-!
# Files with either line ending

A file whose lines end with newlines, and the same file with a carriage
return before each of them, are read in the same way. The tokens are the
same but for the ends of lines, and the document is the same but for its
spans. A file that is rejected is rejected at the same place.
-/

namespace RuleLexer

open Text Ini

/-- What a token says: its kind and its text. -/
def Token.content {K : Type} (source : Source) (t : Token K) : K × Text :=
  (t.kind, t.text source)

namespace Piece

def content {K : Type} (p : Piece K) : K × Text := (p.kind, p.text)

theorem map_content_tokensFrom {K : Type} {source : Source} {front rest : Text}
    {ps : List (Piece K)} (h : source.text = front ++ (join ps ++ rest)) :
    (tokensFrom (byteSize front) ps).map (Token.content source) = ps.map content := by
  have hkinds : (tokensFrom (byteSize front) ps).map (·.kind) = ps.map (·.kind) :=
    map_kind_tokensFrom _ ps
  calc
    (tokensFrom (byteSize front) ps).map (Token.content source) =
        ((tokensFrom (byteSize front) ps).map (·.kind)).zip
          ((tokensFrom (byteSize front) ps).map (·.text source)) := List.zip_map'.symm
    _ = (ps.map (·.kind)).zip (ps.map (·.text)) := by rw [hkinds, map_text_tokensFrom h]
    _ = ps.map content := List.zip_map'

/-- An end of a line with a carriage return, and any other piece as it is. -/
def withReturn (p : Piece Kind) : Piece Kind :=
  if p.kind = .endOfLine then ⟨['\r', '\n'], .endOfLine, by simp⟩ else p

theorem content_withReturn (p : Piece Kind) :
    p.withReturn.content = (p.kind, if p.kind = .endOfLine then ['\r', '\n'] else p.text) := by
  unfold withReturn content
  split
  · rename_i hkind
    rw [hkind]
  · rfl

end Piece

namespace Ini

namespace Strip

def withReturn (s : Strip) : Strip := ⟨s.line, s.brk.withReturn⟩

theorem pieces_withReturn (s : Strip) : s.withReturn.pieces = s.pieces.map Piece.withReturn := by
  have hline : s.line.pieces.map Piece.withReturn = s.line.pieces := by
    refine (List.map_congr_left ?_).trans (List.map_id _)
    intro p hp
    have hkind : p.kind ≠ .endOfLine := by
      intro heq
      exact s.line.endOfLine_notMem (heq ▸ List.mem_map_of_mem hp)
    exact if_neg hkind
  have hbrk : (s.brk.pieces Kind.endOfLine).map Piece.withReturn =
      s.brk.withReturn.pieces Kind.endOfLine := by
    cases s.brk <;> rfl
  rw [pieces, pieces, List.map_append, hline, hbrk]
  rfl

theorem allPieces_withReturn (strips : List Strip) :
    allPieces (strips.map withReturn) = (allPieces strips).map Piece.withReturn := by
  induction strips with
  | nil => rfl
  | cons s strips ih =>
      rw [List.map_cons, allPieces_cons, allPieces_cons, List.map_append, pieces_withReturn, ih]

end Strip

namespace Reads

variable {text left : Text} {strips : List Strip}

theorem withReturns (h : Reads text strips left) (hreturn : '\r' ∉ text) :
    Reads text.withReturns (strips.map Strip.withReturn) left.withReturns := by
  induction h with
  | nil => exact .nil
  | @stuck text hnone =>
      obtain ⟨brk, rest, hbegins⟩ := exists_begins text
      refine .stuck ?_
      rw [← Option.not_isSome_iff_eq_none, rowReader_isSome (hbegins.withReturns hreturn)]
      rwa [← Option.not_isSome_iff_eq_none, rowReader_isSome hbegins] at hnone
  | last l hfeed hne =>
      rw [withReturns_of_not_mem hfeed]
      exact .last l hfeed hne
  | cons hbegins hbrk _ ih =>
      exact .cons (hbegins.withReturns hreturn) (mt Break.withReturn_eq_none.mp hbrk)
        (ih (hbegins.not_mem_rest hreturn))

/-- Without carriage returns in the text, its lines end with newlines alone. -/
theorem endOfLine_text (h : Reads text strips left) (hreturn : '\r' ∉ text) {p : Piece Kind}
    (hp : p ∈ Strip.allPieces strips) (hkind : p.kind = .endOfLine) : p.text = ['\n'] := by
  rcases (h.marksBreak hp).endOfLine hkind with hfeed | hboth
  · exact hfeed
  · have hmem : '\r' ∈ Piece.join (Strip.allPieces strips) :=
      List.mem_flatMap.mpr ⟨p, hp, by simp [hboth]⟩
    rw [h.eq_append] at hreturn
    exact absurd (List.mem_append_left _ hmem) hreturn

end Reads

def Entry.withoutSpans (e : Entry) : Entry := { e with keySpan := .zero, valueSpan := none }

def Section.withoutSpans (s : Section) : Section :=
  { s with span := .zero, entries := s.entries.map Entry.withoutSpans }

/-- The names, lines, keys and values of a document. -/
def Document.withoutSpans (d : Document) : Document := ⟨d.sections.map Section.withoutSpans⟩

def Item.withoutSpans : Item → Item
  | .entry e => .entry e.withoutSpans
  | item => item

/-- The number of a row and what stands on it. -/
def Row.content (row : Row) : Nat × Item := (row.number, row.item.withoutSpans)

/-- Where a row lies shows in spans only. -/
theorem Row.content_eq (number start stop : Nat) (text : Text) :
    (Row.mk number start stop text).content = (Row.mk number 0 0 text).content := by
  unfold Row.content Row.item
  cases text.dropWhile isSpace with
  | nil => rfl
  | cons c rest =>
      by_cases hbracket : c = '['
      · simp only [if_pos hbracket]
      · by_cases hmark : c = '#' ∨ c = ';'
        · simp only [if_neg hbracket, if_pos hmark]
        · simp only [if_neg hbracket, if_neg hmark]
          rfl

theorem map_content_rows (source : Source) : (rows source).map Row.content =
    (lines source.text).mapIdx fun i line => (Row.mk (0 + i + 1) 0 0 line).content := by
  rw [rows, rowsFrom, List.mapIdx_eq_zipIdx_map, List.mapIdx_eq_zipIdx_map, List.map_map]
  exact List.map_congr_left fun found _ => Row.content_eq _ _ _ _

namespace Progress

def withoutSpans (p : Progress) : Progress :=
  ⟨p.complete.map Section.withoutSpans, p.current.withoutSpans⟩

theorem sections_withoutSpans (p : Progress) :
    p.withoutSpans.sections = p.sections.map Section.withoutSpans := by
  unfold sections withoutSpans Section.withoutSpans
  simp only [List.map_eq_nil_iff]
  split
  · rfl
  · rw [List.map_append]
    rfl

/-- Adds what stands on a row, where no spans are kept. -/
def addContent (p : Progress) (content : Nat × Item) : Progress :=
  match content.2 with
  | .nothing => p
  | .header name => ⟨p.sections, ⟨some name, .zero, content.1, []⟩⟩
  | .entry e => ⟨p.complete, { p.current with entries := p.current.entries ++ [e] }⟩

theorem withoutSpans_addRow (p : Progress) (row : Row) :
    (p.addRow row).withoutSpans = p.withoutSpans.addContent row.content := by
  unfold addRow addContent Row.content
  cases row.item with
  | nothing => rfl
  | header name =>
      simp only [sections_withoutSpans]
      rfl
  | entry e => simp [withoutSpans, Section.withoutSpans, Item.withoutSpans]

theorem withoutSpans_foldl (p : Progress) (rows : List Row) :
    (rows.foldl addRow p).withoutSpans =
      (rows.map Row.content).foldl addContent p.withoutSpans := by
  induction rows generalizing p with
  | nil => rfl
  | cons row rows ih => rw [List.foldl_cons, ih, withoutSpans_addRow, List.map_cons, List.foldl_cons]

end Progress

/-- What is read line by line depends, up to the spans, on what stands on the rows. -/
theorem withoutSpans_readLines_of_content {source source' : Source}
    (h : (rows source).map Row.content = (rows source').map Row.content) :
    (Document.readLines source).withoutSpans = (Document.readLines source').withoutSpans := by
  have hrun (source : Source) : (Document.readLines source).withoutSpans =
      ⟨(((rows source).map Row.content).foldl Progress.addContent
        Progress.start.withoutSpans).sections⟩ := by
    rw [← Progress.withoutSpans_foldl, Progress.sections_withoutSpans]
    rfl
  rw [hrun, hrun, h]

theorem withoutSpans_readLines {source source' : Source}
    (h : lines source.text = lines source'.text) :
    (Document.readLines source).withoutSpans = (Document.readLines source').withoutSpans := by
  refine withoutSpans_readLines_of_content ?_
  rw [map_content_rows, map_content_rows, h]

/-- How two runs agree, the second one over the source of the first with carriage returns before
its newlines. -/
structure ReadsAlike (source source' : Source) (l l' : Lexer Kind) : Prop where
  state_eq : l'.state = l.state
  tokens_eq : l'.tokens.map (Token.content source') = l.tokens.map fun t =>
    (t.kind, if t.kind = .endOfLine then ['\r', '\n'] else t.text source)
  endOfLine : ∀ t ∈ l.tokens, t.kind = .endOfLine → t.text source = ['\n']
  document : l.state = .done → ∃ d d', Document.parse source = .ok d ∧
    Document.parse source' = .ok d' ∧ d'.withoutSpans = d.withoutSpans
  rejection : l.state ≠ .done → ∃ r r', l.accepted = .error r ∧ l'.accepted = .error r' ∧
    Document.parse source = .error (.rejected r) ∧
    Document.parse source' = .error (.rejected r') ∧ r'.line = r.line ∧ r'.column = r.column

theorem rejected_of_not_done {source : Source} {l : Lexer Kind} {front left : Text}
    (hl : tokenize source = .ok l) (hstop : l.state ≠ .done) (hsource : l.source = source)
    (htext : source.text = front ++ left) (hposition : l.position = byteSize front) :
    ∃ r, l.accepted = .error r ∧ Document.parse source = .error (.rejected r) ∧
      (r.line, r.column) = front.place := by
  have haccepted : l.accepted = .error l.rejection := by
    have hdone : l.isDone = false := by simpa [Lexer.isDone] using hstop
    simp only [Lexer.accepted, hdone, Bool.false_eq_true, if_false]
  have hplace : (l.rejection.line, l.rejection.column) = l.source.lineCol l.position := rfl
  refine ⟨l.rejection, haccepted, ?_, ?_⟩
  · simp only [Document.parse, hl, haccepted]
  · rw [hplace, hsource, hposition, Source.lineCol_of_append htext]

namespace Reads

variable {source source' : Source} {left : Text} {strips : List Strip}

theorem join_withReturn (h : Reads source.text strips left) (hreturn : '\r' ∉ source.text) :
    Piece.join (Strip.allPieces (strips.map Strip.withReturn)) =
      (Piece.join (Strip.allPieces strips)).withReturns := by
  have hreturns := (h.withReturns hreturn).eq_append
  rw [h.eq_append, withReturns_append] at hreturns
  exact (List.append_cancel_right hreturns).symm

theorem map_content_withReturn (h : Reads source.text strips left) (hreturn : '\r' ∉ source.text)
    (htext : source'.text = source.text.withReturns) :
    (Piece.tokensFrom 0 (Strip.allPieces (strips.map Strip.withReturn))).map
        (Token.content source') =
      (Piece.tokensFrom 0 (Strip.allPieces strips)).map fun t =>
        (t.kind, if t.kind = .endOfLine then ['\r', '\n'] else t.text source) := by
  let mark (c : Kind × Text) : Kind × Text :=
    (c.1, if c.1 = .endOfLine then ['\r', '\n'] else c.2)
  have hsplit : source.text = [] ++ (Piece.join (Strip.allPieces strips) ++ left) := h.eq_append
  have hsplit' : source'.text = [] ++
      (Piece.join (Strip.allPieces (strips.map Strip.withReturn)) ++ left.withReturns) :=
    htext.trans (h.withReturns hreturn).eq_append
  calc
    (Piece.tokensFrom 0 (Strip.allPieces (strips.map Strip.withReturn))).map
          (Token.content source') =
        (Strip.allPieces (strips.map Strip.withReturn)).map Piece.content :=
      Piece.map_content_tokensFrom hsplit'
    _ = ((Strip.allPieces strips).map Piece.content).map mark := by
      rw [Strip.allPieces_withReturn, List.map_map, List.map_map]
      exact List.map_congr_left fun p _ => p.content_withReturn
    _ = ((Piece.tokensFrom 0 (Strip.allPieces strips)).map (Token.content source)).map mark := by
      rw [← Piece.map_content_tokensFrom hsplit]
      rfl
    _ = _ := List.map_map

theorem endOfLine_token (h : Reads source.text strips left) (hreturn : '\r' ∉ source.text)
    {t : Token Kind} (ht : t ∈ Piece.tokensFrom 0 (Strip.allPieces strips))
    (hkind : t.kind = .endOfLine) : t.text source = ['\n'] := by
  obtain ⟨before, after, hcut⟩ := List.append_of_mem ht
  obtain ⟨qs, p, rs, hps, -, hsame, htext, -⟩ := Piece.exists_split h.eq_append hcut
  rw [htext]
  exact h.endOfLine_text hreturn (hps ▸ by simp) (hsame ▸ hkind)

end Reads

/-- A carriage return before each newline changes the ends of lines, the spans, and nothing else. -/
theorem tokenize_withReturns {text : Text} (hreturn : '\r' ∉ text)
    (hsize : (Source.ofText text.withReturns).size < wordCount) :
    ∃ l l', tokenize (.ofText text) = .ok l ∧ tokenize (.ofText text.withReturns) = .ok l' ∧
      ReadsAlike (.ofText text) (.ofText text.withReturns) l l' := by
  have htext := Source.text_ofText_withReturns text
  have hreturn' : '\r' ∉ (Source.ofText text).text := by
    intro hmem
    exact hreturn ((Source.text_ofText_suffix text).subset hmem)
  have hsize' : (Source.ofText text).size < wordCount := by
    have hle := byteSize_le_withReturns (Source.ofText text).text
    rw [← htext] at hle
    exact Nat.lt_of_le_of_lt hle hsize
  obtain ⟨strips, left, hread⟩ := Reads.exists_strips (Source.ofText text).text
  have hread' := hread.withReturns hreturn'
  rw [← htext] at hread'
  obtain ⟨l, hl, hat, hsource, htokens, hposition⟩ := hread.tokenize hsize'
  obtain ⟨l', hl', hat', hsource', htokens', hposition'⟩ := hread'.tokenize hsize
  have hstate : l'.state = l.state := by
    rw [hat.state, hat'.state]
    simp only [withReturns_eq_nil]
  refine ⟨l, l', hl, hl', hstate, ?_, ?_, ?_, ?_⟩
  · rw [htokens, htokens', hread.map_content_withReturn hreturn' htext]
  · intro t ht
    exact hread.endOfLine_token hreturn' (htokens ▸ ht)
  · intro hdone
    have hall := (tokens_eq_of_done hsize' hl hdone).2
    have hall' := (tokens_eq_of_done hsize hl' (hstate.trans hdone)).2
    refine ⟨_, _, (parse_of_wellFormed hsize' hall).2, (parse_of_wellFormed hsize hall').2, ?_⟩
    refine withoutSpans_readLines ?_
    rw [htext, lines_withReturns hreturn']
  · intro hstop
    obtain ⟨r, haccepted, hparse, hplace⟩ :=
      rejected_of_not_done hl hstop hsource hread.eq_append hposition
    obtain ⟨r', haccepted', hparse', hplace'⟩ :=
      rejected_of_not_done hl' (hstate ▸ hstop) hsource' hread'.eq_append hposition'
    rw [hread.join_withReturn hreturn', place_withReturns, ← hplace] at hplace'
    obtain ⟨hline, hcolumn⟩ := Prod.mk.inj hplace'
    exact ⟨r, r', haccepted, haccepted', hparse, hparse', hline, hcolumn⟩

/-- A comment without a text, a key without a value and a line without anything. -/
theorem tokenize_withReturns_empty :
    ∃ l l', tokenize (.ofText "#\nk=\n\n".toList) = .ok l ∧
      tokenize (.ofText "#\r\nk=\r\n\r\n".toList) = .ok l' ∧ l'.state = .done ∧
      l'.tokens.map (Token.content (.ofText "#\r\nk=\r\n\r\n".toList)) =
        [(.hash, ['#']), (.endOfLine, ['\r', '\n']), (.keyToken, ['k']), (.equals, ['=']),
          (.endOfLine, ['\r', '\n']), (.endOfLine, ['\r', '\n'])] := by
  have hreturn : '\r' ∉ "#\nk=\n\n".toList := by decide
  obtain ⟨l, l', hl, hl', h⟩ := tokenize_withReturns hreturn (by decide)
  refine ⟨l, l', hl, hl', ?_⟩
  cases hl
  exact ⟨h.state_eq, h.tokens_eq⟩

end Ini

end RuleLexer
