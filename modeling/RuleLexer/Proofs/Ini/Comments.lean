import RuleLexer.Proofs.Ini.LineEndings
import RuleLexer.Proofs.Ini.RoundTrip

/-!
# Comments are not read

On every line with a comment the comment may be left out or be written anew.
An accepted file is accepted after that as well, and its document is the
same but for its spans. What stands before a comment tells the line apart,
so a line keeps its body whatever its comment turns into, and a carriage
return at the end of a new comment is no more than a part of the line break.
-/

namespace RuleLexer.Ini

open Text

def Kind.IsMark (k : Kind) : Prop := k = .hash ∨ k = .semicolon

instance (k : Kind) : Decidable k.IsMark := inferInstanceAs (Decidable (_ ∨ _))

/-- A hash or a semicolon among the tokens begins at the offset. -/
def MarkAt (tokens : List (Token Kind)) (n : Nat) : Prop :=
  ∃ t ∈ tokens, t.span.start = n ∧ t.kind.IsMark

instance (tokens : List (Token Kind)) (n : Nat) : Decidable (MarkAt tokens n) :=
  inferInstanceAs (Decidable (∃ t ∈ tokens, _))

/-- The second text is the first one, which begins at the offset, with other comments or none: at a
marked offset, what is left of the line can be replaced, but for its break. -/
inductive Recommented (marked : Nat → Prop) : Nat → Text → Text → Prop
  | nil {offset : Nat} : Recommented marked offset [] []
  | keep {offset : Nat} {rest rest' : Text} (c : Char) :
      Recommented marked (offset + c.utf8Size) rest rest' →
      Recommented marked offset (c :: rest) (c :: rest')
  | replace {offset : Nat} {text old new rest rest' : Text} {brk : Break} : marked offset →
      Begins text old brk rest → new = [] ∨ IsComment new ∧ '\n' ∉ new →
      Recommented marked (offset + byteSize (old ++ brk.text)) rest rest' →
      Recommented marked offset text (new ++ (brk.text ++ rest'))

namespace Recommented

variable {marked : Nat → Prop} {offset : Nat} {front rest text text' : Text}

theorem eq_nil (h : Recommented marked offset [] text') (hoffset : ¬marked offset) :
    text' = [] := by
  cases h with
  | nil => rfl
  | replace hmarked => exact absurd hmarked hoffset

/-- Without a mark at its offsets, the start of a text is kept. -/
theorem append (h : Recommented marked offset (front ++ rest) text')
    (hfront : ∀ n, offset ≤ n → n < offset + byteSize front → ¬marked n) :
    ∃ rest', text' = front ++ rest' ∧
      Recommented marked (offset + byteSize front) rest rest' := by
  induction front generalizing offset text' with
  | nil => exact ⟨text', rfl, h⟩
  | cons c front ih =>
      have hpos := c.utf8Size_pos
      rw [byteSize_cons] at hfront ⊢
      rw [List.cons_append] at h
      cases h with
      | @keep _ _ tail _ h =>
          obtain ⟨rest', rfl, hrest⟩ := ih h fun n hn hlt => hfront n (by omega) (by omega)
          exact ⟨rest', rfl, by rwa [← Nat.add_assoc]⟩
      | replace hmarked => exact absurd hmarked (hfront offset (Nat.le_refl _) (by omega))

/-- No byte order mark comes to the start of a text. -/
theorem head?_ne (h : Recommented marked offset text text')
    (htext : text.head? ≠ some Source.byteOrderMark) :
    text'.head? ≠ some Source.byteOrderMark := by
  induction h with
  | nil => exact htext
  | keep c => exact htext
  | @replace _ text old new rest rest' brk _ hbegins hnew _ ih =>
      rcases hnew with rfl | ⟨⟨tail, rfl | rfl⟩, -⟩
      · cases brk with
        | none =>
            obtain rfl := hbegins.last rfl
            exact ih (by simp)
        | feed => simp [Break.text, Source.byteOrderMark]
        | returnFeed => simp [Break.text, Source.byteOrderMark]
      · simp [Source.byteOrderMark]
      · simp [Source.byteOrderMark]

end Recommented

/-- What stands before the comment of a line. -/
def Line.front (l : Line) : Text := l.indent.text ++ Piece.join l.body.pieces

theorem Line.text_eq_front (l : Line) : l.text = l.front ++ Note.optionText l.note := by
  rw [Line.text_eq, Line.front, List.append_assoc]

section Marks

variable {offset n : Nat} {ps : List (Piece Kind)}

theorem markAt_append {ts us : List (Token Kind)} :
    MarkAt (ts ++ us) n ↔ MarkAt ts n ∨ MarkAt us n := by
  simp only [MarkAt, List.mem_append, or_and_right, exists_or]

/-- Where the kinds have a form without marks, there is no mark. -/
theorem not_markAt_of_form {p : Form} (hp : ∀ k ∈ p.atoms, ¬k.IsMark)
    (h : Piece.kinds ps ∈ p.matches') : ¬MarkAt (Piece.tokensFrom offset ps) n := by
  rintro ⟨t, ht, -, hkind⟩
  have hmem : t.kind ∈ Piece.kinds ps := by
    rw [← Piece.map_kind_tokensFrom offset ps]
    exact List.mem_map_of_mem ht
  exact hp _ (Form.subset_atoms h hmem) hkind

theorem MarkAt.bounds (h : MarkAt (Piece.tokensFrom offset ps) n) :
    offset ≤ n ∧ n < offset + byteSize (Piece.join ps) := by
  obtain ⟨t, ht, rfl, -⟩ := h
  refine ⟨(Piece.span_of_mem_tokensFrom ht).1, ?_⟩
  induction ps generalizing offset with
  | nil => simp at ht
  | cons p ps ih =>
      have hpos := p.size_pos
      rw [Piece.join_cons, byteSize_append, ← Nat.add_assoc]
      rw [Piece.tokensFrom_cons, List.mem_cons] at ht
      rcases ht with rfl | ht
      · rw [Piece.size] at hpos
        simp only
        omega
      · exact ih ht

theorem Line.not_markAt_front (l : Line) :
    ¬MarkAt (Piece.tokensFrom offset (l.indent.pieces ++ l.body.pieces)) n := by
  by_cases hheader : l.body.IsHeader
  · have hkinds := Language.append_mem_mul l.indent.kinds_mem (Body.kinds_mem_of_header hheader)
    rw [← kinds_append, ← RegularExpression.matches'_mul] at hkinds
    exact not_markAt_of_form (by decide) hkinds
  · have hkinds := Language.append_mem_mul l.indent.kinds_mem
      (Body.kinds_mem_of_not_header hheader)
    rw [← kinds_append, ← RegularExpression.matches'_mul] at hkinds
    exact not_markAt_of_form (by decide) hkinds

theorem not_markAt_break (brk : Break) :
    ¬MarkAt (Piece.tokensFrom offset (brk.pieces Kind.endOfLine)) n :=
  not_markAt_of_form (by decide) (kinds_ofText_mem brk.text .endOfLine)

/-- The only mark of a line begins its comment. -/
theorem Strip.eq_of_markAt {s : Strip} (h : MarkAt (Piece.tokensFrom offset s.pieces) n) :
    n = offset + byteSize s.line.front := by
  have hpieces : s.pieces = (s.line.indent.pieces ++ s.line.body.pieces) ++
      (Note.optionPieces s.line.note ++ s.brk.pieces .endOfLine) := by
    simp [Strip.pieces, Line.pieces]
  have hjoin : Piece.join (s.line.indent.pieces ++ s.line.body.pieces) = s.line.front := by
    simp [Line.front]
  rw [hpieces, Piece.tokensFrom_append, markAt_append, hjoin] at h
  have hbehind := h.resolve_left s.line.not_markAt_front
  rw [Piece.tokensFrom_append, markAt_append] at hbehind
  have hnote := hbehind.resolve_right (not_markAt_break s.brk)
  cases hsome : s.line.note with
  | none =>
      obtain ⟨t, ht, -⟩ := hnote
      simp [hsome, Note.optionPieces] at ht
  | some note =>
      rw [hsome, Note.optionPieces, Note.pieces, Piece.tokensFrom_cons] at hnote
      obtain ⟨t, ht, rfl, hkind⟩ := hnote
      rcases List.mem_cons.mp ht with rfl | ht
      · rfl
      · have htext := kinds_ofText_mem note.text .commentToken
        exact absurd ⟨t, ht, rfl, hkind⟩ (not_markAt_of_form (by decide) htext)

/-- A mark of several lines is that of the first or one behind the first. -/
theorem Strip.markAt_cons {s : Strip} {strips : List Strip}
    (h : MarkAt (Piece.tokensFrom offset (allPieces (s :: strips))) n) :
    n = offset + byteSize s.line.front ∧ n < offset + byteSize s.text ∨
      offset + byteSize s.text ≤ n ∧
        MarkAt (Piece.tokensFrom (offset + byteSize s.text) (allPieces strips)) n := by
  rw [allPieces_cons, Piece.tokensFrom_append, markAt_append, join_pieces] at h
  rcases h with h | h
  · have hbounds := h.bounds
    rw [join_pieces] at hbounds
    exact .inl ⟨eq_of_markAt h, hbounds.2⟩
  · exact .inr ⟨h.bounds.1, h⟩

/-- From the offset on, nothing is marked but the marks of the strips. -/
def MarkedBy (marked : Nat → Prop) (offset : Nat) (strips : List Strip) : Prop :=
  ∀ n, offset ≤ n → marked n → MarkAt (Piece.tokensFrom offset (Strip.allPieces strips)) n

namespace MarkedBy

variable {marked : Nat → Prop} {s : Strip} {strips : List Strip}

theorem not_marked (h : MarkedBy marked offset []) : ¬marked offset := by
  intro hmark
  have hbounds := (h offset (Nat.le_refl _) hmark).bounds
  exact absurd hbounds.2 (Nat.not_lt.mpr hbounds.1)

theorem eq_front (h : MarkedBy marked offset (s :: strips)) (hn : offset ≤ n)
    (hlt : n < offset + byteSize s.text) (hmark : marked n) :
    n = offset + byteSize s.line.front := by
  rcases Strip.markAt_cons (h n hn hmark) with hfront | hrest
  · exact hfront.1
  · exact absurd hlt (Nat.not_lt.mpr hrest.1)

theorem rest (h : MarkedBy marked offset (s :: strips)) :
    MarkedBy marked (offset + byteSize s.text) strips := by
  intro n hn hmark
  rcases Strip.markAt_cons (h n (Nat.le_of_add_right_le hn) hmark) with hfront | hrest
  · exact absurd hfront.2 (Nat.not_lt.mpr hn)
  · exact hrest.2

end MarkedBy

end Marks

section Lines

theorem IsEnd.dropReturn {text : Text} (h : IsEnd text) : IsEnd (Window.dropReturn text) := by
  rcases h with rfl | ⟨rest, rfl | rfl⟩
  · exact .inl rfl
  · exact .inr ⟨_, .inl (dropReturn_append (a := ['#']) (b := rest) (by decide))⟩
  · exact .inr ⟨_, .inr (dropReturn_append (a := [';']) (b := rest) (by decide))⟩

theorem Run.notMem {p : Char → Bool} {c : Char} (hc : p c = false) (r : Run p) : c ∉ r.text := by
  intro hmem
  rw [r.all c hmem] at hc
  exact absurd hc (by decide)

theorem Gap.return_notMem (g : Gap) : '\r' ∉ g.text := Run.notMem rfl g

theorem Value.return_notMem (v : Value) : '\r' ∉ v.text := by
  have hword (w : Word isValueChar) : '\r' ∉ w.text := Run.notMem (by decide) w.toRun
  induction v with
  | word w => exact hword w
  | more w gap rest ih =>
      simp only [Value.text, List.mem_append, not_or]
      exact ⟨hword w, Gap.return_notMem gap.toRun, ih⟩

/-- Carriage returns are in comments only. -/
theorem Line.return_notMem_front (l : Line) : '\r' ∉ l.front := by
  rw [Line.front, List.mem_append, not_or]
  refine ⟨l.indent.return_notMem, ?_⟩
  cases l.body with
  | blank => simp [Body.pieces]
  | header name gap =>
      have hname : '\r' ∉ name.text := Run.notMem (by decide) name.toRun
      simp [Body.pieces, hname, gap.return_notMem]
  | entry key before separator after value =>
      have hkey : '\r' ∉ key.text := Run.notMem (by decide) key.toRun
      have hseparator : '\r' ≠ separator.char := by cases separator <;> decide
      have hvalue : '\r' ∉ Piece.join (Value.optionPieces value) := by
        cases value with
        | none => simp [Value.optionPieces]
        | some found => simp [Value.optionPieces, Value.return_notMem, Gap.return_notMem]
      simp [Body.pieces, hkey, Gap.return_notMem, hseparator, hvalue]

/-- Behind the front of a line, the line ends where a comment behind it ends, up to a carriage
return. -/
theorem Line.exists_begins {l : Line} {last rest : Text} {brk : Break} (hbrk : brk ≠ .none)
    (hlast : IsEnd last) (hfeed : '\n' ∉ l.front ++ last) :
    ∃ last' brk', brk' ≠ .none ∧ IsEnd last' ∧
      Begins ((l.front ++ last) ++ (brk.text ++ rest)) (l.front ++ last') brk' rest := by
  cases brk with
  | none => exact absurd rfl hbrk
  | feed =>
      obtain ⟨brk', hbrk', hbegins⟩ := exists_begins_of_append hfeed rest
      rw [dropReturn_append l.return_notMem_front] at hbegins
      exact ⟨_, brk', hbrk', hlast.dropReturn, hbegins⟩
  | returnFeed => exact ⟨last, .returnFeed, hbrk, hlast, rfl, hfeed, by simp, by simp⟩

/-- Two lines that differ in their comments only. -/
structure SameFront (a b : Text) : Prop where
  noFeed : '\n' ∉ a
  noFeed' : '\n' ∉ b
  exists_line : ∃ l : Line, a = l.text ∧ ∃ note, b = (Line.mk l.indent l.body note).text

theorem Line.sameFront {l : Line} {last : Text} (hline : '\n' ∉ l.text) (hlast : IsEnd last)
    (hfeed : '\n' ∉ l.front ++ last) : SameFront l.text (l.front ++ last) := by
  obtain ⟨note, rfl⟩ := isEnd_iff.mp hlast
  exact ⟨hline, hfeed, l, rfl, note, (Line.mk l.indent l.body note).text_eq_front.symm⟩

theorem SameFront.wellFormed {a b : Text} (h : SameFront a b) : WellFormed a ∧ WellFormed b := by
  obtain ⟨l, ha, note, hb⟩ := h.exists_line
  exact ⟨(wellFormed_iff h.noFeed).mpr ⟨_, ha.symm⟩, (wellFormed_iff h.noFeed').mpr ⟨_, hb.symm⟩⟩

/-- A row says the same with another comment. -/
theorem SameFront.content_eq {a b : Text} (h : SameFront a b) (number : Nat) :
    (Row.mk number 0 0 a).content = (Row.mk number 0 0 b).content := by
  obtain ⟨⟨indent, body, note⟩, rfl, note', rfl⟩ := h.exists_line
  cases body with
  | blank => rw [Row.content, Row.content, item_blank, item_blank]
  | header name gap => rw [Row.content, Row.content, item_header, item_header]
  | entry key before separator after value =>
      rw [Row.content, Row.content, item_entry, item_entry]

theorem mapIdx_eq_of_forall₂ {α β : Type} {R : α → α → Prop} {as bs : List α}
    (h : List.Forall₂ R as bs) {f : Nat → α → β} (hf : ∀ i a b, R a b → f i a = f i b) :
    as.mapIdx f = bs.mapIdx f := by
  induction h generalizing f with
  | nil => rfl
  | cons hab _ ih =>
      rw [List.mapIdx_cons, List.mapIdx_cons, hf 0 _ _ hab, ih fun i => hf (i + 1)]

end Lines

namespace Recommented

variable {marked : Nat → Prop} {offset : Nat} {text text' rest : Text}

/-- Where the rest of a line is marked at its start at most, all of it is kept or all of it is
replaced. -/
theorem restOfLine {last : Text} {brk : Break} (hlast : IsEnd last)
    (hbegins : Begins (last ++ (brk.text ++ rest)) last brk rest)
    (hmarked : ∀ n, offset < n → n < offset + byteSize (last ++ brk.text) → ¬marked n)
    (h : Recommented marked offset (last ++ (brk.text ++ rest)) text') :
    ∃ last' rest', text' = last' ++ (brk.text ++ rest') ∧ IsEnd last' ∧ '\n' ∉ last' ∧
      Recommented marked (offset + byteSize (last ++ brk.text)) rest rest' := by
  rw [← List.append_assoc] at h hbegins
  cases hsplit : last ++ brk.text with
  | nil =>
      have hbrk : brk.text = [] := (List.append_eq_nil_iff.mp hsplit).2
      rw [hsplit] at h
      exact ⟨[], text', by rw [hbrk]; rfl, .inl rfl, by simp, h⟩
  | cons c more =>
      have hpos := c.utf8Size_pos
      rw [hsplit] at h hbegins hmarked
      rw [byteSize_cons] at hmarked ⊢
      cases h with
      | keep _ h =>
          obtain ⟨rest', rfl, hrest⟩ := h.append fun n hn hlt => hmarked n (by omega) (by omega)
          refine ⟨last, rest', ?_, hlast, hbegins.noFeed, by rwa [← Nat.add_assoc]⟩
          rw [← List.append_assoc, hsplit]
          rfl
      | replace _ hbegins' hnew hrest =>
          obtain ⟨rfl, rfl, rfl⟩ := hbegins.unique hbegins'
          rw [hsplit, byteSize_cons] at hrest
          rcases hnew with rfl | ⟨hnew, hfeed⟩
          · exact ⟨[], _, rfl, .inl rfl, by simp, hrest⟩
          · exact ⟨_, _, rfl, .inr hnew, hfeed, hrest⟩

/-- Where a line is marked at most behind its front, it keeps the front and its break. -/
theorem line {l : Line} {brk : Break} (hbegins : Begins text l.text brk rest)
    (hmarked : ∀ n, offset ≤ n → n < offset + byteSize (l.text ++ brk.text) → marked n →
      n = offset + byteSize l.front)
    (h : Recommented marked offset text text') :
    ∃ last rest', text' = (l.front ++ last) ++ (brk.text ++ rest') ∧ IsEnd last ∧
      '\n' ∉ l.front ++ last ∧
      Recommented marked (offset + byteSize (l.text ++ brk.text)) rest rest' := by
  let last := Note.optionText l.note
  have hline : l.text = l.front ++ last := l.text_eq_front
  have hlast : IsEnd last := isEnd_iff.mpr ⟨l.note, rfl⟩
  have hfeed : '\n' ∉ l.front := fun hmem => hbegins.noFeed (hline ▸ List.mem_append_left _ hmem)
  have hsize : byteSize (l.text ++ brk.text) = byteSize l.front + byteSize (last ++ brk.text) := by
    rw [hline, List.append_assoc, byteSize_append]
  have htext : text = l.front ++ (last ++ (brk.text ++ rest)) := by
    rw [hbegins.eq, hline, List.append_assoc]
  have hdrop : Begins (last ++ (brk.text ++ rest)) last brk rest := by
    rw [hline] at hbegins
    exact hbegins.drop
  rw [htext] at h
  rw [hsize] at hmarked ⊢
  have hbefore (n : Nat) (hn : offset ≤ n) (hlt : n < offset + byteSize l.front) : ¬marked n := by
    intro hmark
    have := hmarked n hn (by omega) hmark
    omega
  obtain ⟨behind, rfl, hbehind⟩ := h.append hbefore
  have hafter (n : Nat) (hn : offset + byteSize l.front < n)
      (hlt : n < offset + byteSize l.front + byteSize (last ++ brk.text)) : ¬marked n := by
    intro hmark
    have := hmarked n (by omega) (by omega) hmark
    omega
  obtain ⟨last', rest', rfl, hlast', hfeed', hrest⟩ := hbehind.restOfLine hlast hdrop hafter
  rw [Nat.add_assoc] at hrest
  exact ⟨last', rest', (List.append_assoc _ _ _).symm, hlast', by simp [hfeed, hfeed'], hrest⟩

end Recommented

/-- With other comments the lines of a text keep their fronts. -/
theorem Reads.recommented {marked : Nat → Prop} {text left : Text} {strips : List Strip}
    (h : Reads text strips left) (hleft : left = []) {offset : Nat} {text' : Text}
    (hmarked : MarkedBy marked offset strips) (hcomments : Recommented marked offset text text') :
    List.Forall₂ SameFront (lines text) (lines text') := by
  have hblank : SameFront [] [] :=
    ⟨by simp, by simp, ⟨⟨[], by simp⟩, .blank, none⟩, rfl, none, rfl⟩
  -- Along the strips the marks that are left are those of the strips that are left.
  induction h generalizing offset text' with
  | nil =>
      obtain rfl := hcomments.eq_nil hmarked.not_marked
      exact .cons hblank .nil
  | stuck _ =>
      subst hleft
      obtain rfl := hcomments.eq_nil hmarked.not_marked
      exact .cons hblank .nil
  | last l hfeed _ =>
      have hfront (n : Nat) := hmarked.eq_front (n := n)
      obtain ⟨last, rest, rfl, hlast, hfeed', hrest⟩ := hcomments.line (begins_self hfeed) hfront
      obtain rfl := hrest.eq_nil hmarked.rest.not_marked
      rw [Break.text, List.append_nil, List.append_nil, (begins_self hfeed).lines_eq,
        (begins_self hfeed').lines_eq]
      exact .cons (Line.sameFront hfeed hlast hfeed') .nil
  | @cons l brk text rest left strips hbegins hbrk _ ih =>
      have hfront (n : Nat) := hmarked.eq_front (n := n)
      obtain ⟨last, rest', rfl, hlast, hfeed, hrest⟩ := hcomments.line hbegins hfront
      obtain ⟨last', brk', hbrk', hlast', hbegins'⟩ := Line.exists_begins hbrk hlast hfeed
      rw [hbegins.lines_eq, hbegins'.lines_eq, if_neg hbrk, if_neg hbrk']
      exact .cons (Line.sameFront hbegins.noFeed hlast' hbegins'.noFeed)
        (ih hleft hmarked.rest hrest)

theorem forall_wellFormed {ls ls' : List Text} (h : List.Forall₂ SameFront ls ls') :
    (∀ line ∈ ls, WellFormed line) ∧ ∀ line ∈ ls', WellFormed line := by
  induction h with
  | nil => simp
  | cons hab _ ih =>
      exact ⟨List.forall_mem_cons.mpr ⟨hab.wellFormed.1, ih.1⟩,
        List.forall_mem_cons.mpr ⟨hab.wellFormed.2, ih.2⟩⟩

/-- Sources whose lines have the same fronts are both accepted, and their documents differ in spans
only. -/
theorem parse_of_sameFront {source source' : Source} (hsize : source.size < wordCount)
    (hsize' : source'.size < wordCount)
    (h : List.Forall₂ SameFront (lines source.text) (lines source'.text)) :
    (∃ l, tokenize source' = .ok l ∧ l.state = .done) ∧
      ∃ d d', Document.parse source = .ok d ∧ Document.parse source' = .ok d' ∧
        d'.withoutSpans = d.withoutSpans := by
  obtain ⟨hall, hall'⟩ := forall_wellFormed h
  obtain ⟨-, hparse⟩ := parse_of_wellFormed hsize hall
  obtain ⟨haccepted, hparse'⟩ := parse_of_wellFormed hsize' hall'
  refine ⟨haccepted, _, _, hparse, hparse', withoutSpans_readLines_of_content ?_⟩
  rw [map_content_rows, map_content_rows]
  exact (mapIdx_eq_of_forall₂ h fun i a b hab => hab.content_eq (0 + i + 1)).symm

/-- Whatever becomes of the comments of an accepted text, it is accepted, and its document says the
same. -/
theorem parse_ignores_comments {text front body : Text} {l : Lexer Kind}
    (hl : tokenize (.ofText text) = .ok l) (hdone : l.state = .done)
    (hfront : text = front ++ (Source.ofText text).text)
    (hcomments : Recommented (MarkAt l.tokens) 0 (Source.ofText text).text body)
    (hsize : (Source.ofText text).size < wordCount)
    (hsize' : (Source.ofText (front ++ body)).size < wordCount) :
    (∃ l', tokenize (.ofText (front ++ body)) = .ok l' ∧ l'.state = .done) ∧
      ∃ d d', Document.parse (.ofText text) = .ok d ∧
        Document.parse (.ofText (front ++ body)) = .ok d' ∧ d'.withoutSpans = d.withoutSpans := by
  have hbody := Source.text_ofText_append hfront hcomments.head?_ne
  obtain ⟨strips, left, hread⟩ := Reads.exists_strips (Source.ofText text).text
  obtain ⟨l', hl', hat, -, htokens, -⟩ := hread.tokenize hsize
  obtain rfl : l = l' := Except.ok.inj (hl.symm.trans hl')
  have hleft : left = [] := by
    by_contra hne
    rw [hat.state, if_neg hne] at hdone
    exact absurd hdone (by decide)
  have hmarked : MarkedBy (MarkAt l.tokens) 0 strips := by
    intro n _ hmark
    rwa [htokens] at hmark
  have hlines := hread.recommented hleft hmarked hcomments
  exact parse_of_sameFront hsize hsize' (hbody.symm ▸ hlines)

/-- The first comment is left out, and the second one turns into a header behind a mark. -/
theorem parse_ignores_comments_header :
    ∃ l, tokenize (.ofText "k=1 #a\n;b".toList) = .ok l ∧ l.state = .done ∧
      Recommented (MarkAt l.tokens) 0 "k=1 #a\n;b".toList "k=1 \n#[s]".toList ∧
      ∃ d d', Document.parse (.ofText "k=1 #a\n;b".toList) = .ok d ∧
        Document.parse (.ofText "k=1 \n#[s]".toList) = .ok d' ∧
        d'.withoutSpans = d.withoutSpans := by
  have hl : ∃ l, tokenize (.ofText "k=1 #a\n;b".toList) = .ok l ∧ l.state = .done ∧
      MarkAt l.tokens 4 ∧ MarkAt l.tokens 7 := ⟨_, rfl, by decide, by decide, by decide⟩
  obtain ⟨l, hl, hdone, hfirst, hsecond⟩ := hl
  have hnew : "#[s]".toList = [] ∨ IsComment "#[s]".toList ∧ '\n' ∉ "#[s]".toList :=
    .inr ⟨⟨_, .inl rfl⟩, by decide⟩
  have hend : Begins ";b".toList ";b".toList .none [] := begins_self (by decide)
  have hlast : Recommented (MarkAt l.tokens) 7 ";b".toList "#[s]".toList :=
    .replace hsecond hend hnew .nil
  have hfeed : Begins "#a\n;b".toList "#a".toList .feed ";b".toList :=
    ⟨rfl, by decide, by simp, by decide⟩
  have hcomment : Recommented (MarkAt l.tokens) 4 "#a\n;b".toList "\n#[s]".toList :=
    .replace hfirst hfeed (.inl rfl) hlast
  have hcomments : Recommented (MarkAt l.tokens) 0 "k=1 #a\n;b".toList "k=1 \n#[s]".toList :=
    .keep 'k' (.keep '=' (.keep '1' (.keep ' ' hcomment)))
  have hfront : "k=1 #a\n;b".toList = [] ++ (Source.ofText "k=1 #a\n;b".toList).text := rfl
  exact ⟨l, hl, hdone, hcomments,
    (parse_ignores_comments hl hdone hfront hcomments (by decide) (by decide)).2⟩

end RuleLexer.Ini
