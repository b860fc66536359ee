import RuleLexer.Proofs.Ini.File
import RuleLexer.Proofs.Ini.LineByLine

/-!
# What the tokens of a row add to a document

The tokens of a row change the open section of a fold as the row itself
does. Held-back indentation is counted as part of the open section, as it
would be if no token followed; then every token but the bracket of a header
only adds to that section, and the bracket closes the section as it was
before the indentation.
-/

namespace RuleLexer

theorem Span.merge_assoc (a b c : Span) : (a.merge b).merge c = a.merge (b.merge c) := by
  simp only [Span.merge, Nat.min_assoc, Nat.max_assoc]

namespace Ini

open Text

namespace OpenSection

/-- What a token other than the bracket of a header adds to the open section. -/
def act (source : Source) (s : OpenSection) (token : Token Kind) : OpenSection :=
  match token.kind with
  | .headerToken => { s with name := some (token.text source).trim }
  | .keyToken =>
      { s with newest := ⟨token.text source, [], token.span, none,
          (source.lineCol token.span.start).1⟩ :: s.newest }
  | .valueToken => s.setValue (token.text source) token.span
  | _ => s

def put (source : Source) (s : OpenSection) (token : Token Kind) : OpenSection :=
  (s.act source token).extend token.span

variable (source : Source) (s : OpenSection) (token : Token Kind)

theorem act_extend (span : Span) :
    (s.act source token).extend span = (s.extend span).act source token := by
  unfold act
  cases token.kind with
  | valueToken =>
      obtain ⟨name, own, line, newest⟩ := s
      cases newest <;> rfl
  | _ => rfl

theorem extend_extend (a b : Span) : (s.extend a).extend b = s.extend (a.merge b) := by
  simp only [extend, Span.merge_assoc]

/-- The tokens of pieces that begin at an offset are put into the section. -/
def putAll (source : Source) (s : OpenSection) (offset : Nat) (ps : List (Piece Kind)) :
    OpenSection :=
  (Piece.tokensFrom offset ps).foldl (put source) s

theorem putAll_append (offset : Nat) (ps qs : List (Piece Kind)) :
    s.putAll source offset (ps ++ qs) =
      (s.putAll source offset ps).putAll source (offset + byteSize (Piece.join ps)) qs := by
  rw [putAll, Piece.tokensFrom_append, List.foldl_append]
  rfl

theorem putAll_cons (offset : Nat) (p : Piece Kind) (ps : List (Piece Kind)) :
    s.putAll source offset (p :: ps) =
      (s.put source ⟨⟨offset, offset + p.size⟩, p.kind⟩).putAll source (offset + p.size) ps := rfl

/-- The section ends at the offset. -/
def UpTo (s : OpenSection) (offset : Nat) : Prop := s.span.start ≤ offset ∧ s.span.stop = offset

def reach (s : OpenSection) (offset : Nat) : OpenSection :=
  { s with span := ⟨s.span.start, offset⟩ }

def addEntry (s : OpenSection) (e : Entry) : OpenSection := { s with newest := e :: s.newest }

theorem addEntry_reach (s : OpenSection) (e : Entry) (offset : Nat) :
    (s.addEntry e).reach offset = (s.reach offset).addEntry e := rfl

theorem reach_reach (s : OpenSection) (a b : Nat) : (s.reach a).reach b = s.reach b := rfl

variable {source s} {offset : Nat}

theorem UpTo.reach (h : s.UpTo offset) (n : Nat) : (s.reach (offset + n)).UpTo (offset + n) :=
  ⟨Nat.le_trans h.1 (Nat.le_add_right _ _), rfl⟩

theorem UpTo.extend (h : s.UpTo offset) (n : Nat) :
    s.extend ⟨offset, offset + n⟩ = s.reach (offset + n) := by
  obtain ⟨hstart, hstop⟩ := h
  have hmin : min s.span.start offset = s.span.start := Nat.min_eq_left hstart
  have hmax : max s.span.stop (offset + n) = offset + n := Nat.max_eq_right (by omega)
  simp only [OpenSection.extend, Span.merge, OpenSection.reach, hmin, hmax]

theorem UpTo.reach_self (h : s.UpTo offset) : s.reach offset = s := by
  obtain ⟨-, rfl⟩ := h
  rfl

/-- Tokens of these kinds add nothing but their span. -/
def Inert (ps : List (Piece Kind)) : Prop :=
  ∀ p ∈ ps, p.kind ∉ [Kind.leftBracket, .headerToken, .keyToken, .valueToken]

theorem UpTo.putAll (h : s.UpTo offset) {ps : List (Piece Kind)} (hps : Inert ps) :
    s.putAll source offset ps = s.reach (offset + byteSize (Piece.join ps)) := by
  induction ps generalizing s offset with
  | nil => exact h.reach_self.symm
  | cons p ps ih =>
      obtain ⟨hp, hps⟩ := List.forall_mem_cons.mp hps
      have hact (span : Span) : s.act source ⟨span, p.kind⟩ = s := by
        unfold act
        cases hkind : p.kind <;> simp_all
      rw [putAll_cons, put, hact, h.extend p.size, ih (h.reach p.size) hps]
      simp [OpenSection.reach, Piece.size, Nat.add_assoc]

theorem UpTo.act (h : s.UpTo offset) (token : Token Kind) : (s.act source token).UpTo offset := by
  unfold OpenSection.act
  cases token.kind with
  | valueToken =>
      obtain ⟨name, own, line, newest⟩ := s
      cases newest <;> exact h
  | _ => exact h

/-- A word that is put into the section. -/
theorem UpTo.put (h : s.UpTo offset) (p : Piece Kind) :
    s.putAll source offset [p] =
      (s.act source ⟨⟨offset, offset + p.size⟩, p.kind⟩).reach (offset + p.size) :=
  (h.act _).extend p.size

theorem Inert.not_leftBracket {ps : List (Piece Kind)} (h : Inert ps) :
    ∀ p ∈ ps, p.kind ≠ .leftBracket := by
  intro p hp hkind
  exact h p hp (by simp [hkind])

theorem inert_append {ps qs : List (Piece Kind)} : Inert (ps ++ qs) ↔ Inert ps ∧ Inert qs := by
  simp only [Inert, List.mem_append, or_imp, forall_and]

theorem inert_ofText (text : Text) {kind : Kind}
    (h : kind ∉ [Kind.leftBracket, .headerToken, .keyToken, .valueToken]) :
    Inert (Piece.ofText text kind) := by
  by_cases hne : text = []
  · subst hne
    exact fun p hp => absurd hp List.not_mem_nil
  · rw [Piece.ofText_of_ne_nil hne]
    intro p hp
    rw [List.mem_singleton.mp hp]
    exact h

theorem inert_gap (g : Gap) : Inert g.pieces := inert_ofText g.text (by decide)

theorem inert_ofChar (c : Char) {kind : Kind} {ps : List (Piece Kind)}
    (h : kind ∉ [Kind.leftBracket, .headerToken, .keyToken, .valueToken]) (hps : Inert ps) :
    Inert (Piece.ofChar c kind :: ps) := List.forall_mem_cons.mpr ⟨h, hps⟩

/-- What stands behind the last gap of a line, with the line's end. -/
theorem inert_end (note : Option Note) (brk : Break) :
    Inert (Note.optionPieces note ++ brk.pieces .endOfLine) := by
  refine inert_append.mpr ⟨?_, inert_ofText brk.text (by decide)⟩
  cases note with
  | none => exact fun p hp => absurd hp List.not_mem_nil
  | some n =>
      obtain ⟨mark, text⟩ := n
      have hmark : mark.kind ∉ [Kind.leftBracket, .headerToken, .keyToken, .valueToken] := by
        cases mark <;> decide
      exact inert_ofChar _ hmark (inert_ofText text (by decide))

theorem not_leftBracket_of_body {l : Line} (brk : Break) (h : ¬l.body.IsHeader) :
    ∀ p ∈ l.pieces ++ brk.pieces .endOfLine, p.kind ≠ .leftBracket := by
  obtain ⟨indent, body, note⟩ := l
  have hindent := (inert_gap indent).not_leftBracket
  have hlast := (inert_end note brk).not_leftBracket
  rw [Line.pieces, List.append_assoc, List.append_assoc]
  refine List.forall_mem_append.mpr ⟨hindent, List.forall_mem_append.mpr ⟨?_, hlast⟩⟩
  cases body with
  | blank => exact fun p hp => absurd hp List.not_mem_nil
  | header name gap => exact absurd trivial h
  | entry key before separator after value =>
      have hkind : (Piece.ofChar separator.char separator.kind).kind ≠ .leftBracket := by
        cases separator <;> simp [Piece.ofChar, Separator.kind]
      have hvalue : ∀ p ∈ Value.optionPieces value, p.kind ≠ .leftBracket := by
        cases value with
        | none => exact fun p hp => absurd hp List.not_mem_nil
        | some found =>
            have hgap := (inert_gap found.2).not_leftBracket
            exact List.forall_mem_cons.mpr ⟨by simp, hgap⟩
      have hafter := List.forall_mem_append.mpr ⟨(inert_gap after).not_leftBracket, hvalue⟩
      have hbefore := List.forall_mem_append.mpr
        ⟨(inert_gap before).not_leftBracket, List.forall_mem_cons.mpr ⟨hkind, hafter⟩⟩
      exact List.forall_mem_cons.mpr ⟨by simp, hbefore⟩

variable {front rest : Text} {brk : Break} {n : Nat} {indent gap before after : Gap}
  {note : Option Note}

theorem putAll_blank (hs : s.UpTo offset) :
    s.putAll source offset ((Line.mk indent .blank note).pieces ++ brk.pieces .endOfLine) =
      s.reach (offset + byteSize ((Line.mk indent .blank note).text ++ brk.text)) := by
  have hinert : Inert ((Line.mk indent .blank note).pieces ++ brk.pieces .endOfLine) := by
    rw [Line.pieces, List.append_assoc]
    exact inert_append.mpr ⟨inert_gap indent, inert_end note brk⟩
  rw [hs.putAll hinert]
  simp [Line.text, Break.pieces]

theorem text_of_split {p : Piece Kind} {a c : Text} (h : source.text = a ++ (p.text ++ c)) :
    Token.text ⟨⟨byteSize a, byteSize a + p.size⟩, p.kind⟩ source = p.text :=
  Source.slice_of_eq_append h

theorem line_of_split {a c : Text} (hfront : StartsLine front n) (ha : '\n' ∉ a)
    (h : source.text = front ++ (a ++ c)) :
    (source.lineCol (byteSize front + byteSize a)).1 = n + 1 := by
  have hline := LineTable.lineOf_of_startsLine hfront ha c
  rw [← h, ← source.lines_eq] at hline
  exact hline

theorem putAll_key (hs : s.UpTo (byteSize front + byteSize indent.text)) {key : Word isKeyChar}
    {c : Text} (hfront : StartsLine front n) (hindent : '\n' ∉ indent.text)
    (htext : source.text = front ++ (indent.text ++ (key.text ++ c))) :
    s.putAll source (byteSize front + byteSize indent.text) (Word.pieces key .keyToken) =
      (s.addEntry ⟨key.text, [], ⟨byteSize front + byteSize indent.text,
          byteSize front + byteSize indent.text + byteSize key.text⟩, none, n + 1⟩).reach
        (byteSize front + byteSize indent.text + byteSize key.text) := by
  have hsplit : source.text = (front ++ indent.text) ++ (key.text ++ c) := by
    rw [htext, List.append_assoc]
  have hread := text_of_split (p := ⟨key.text, .keyToken, key.nonempty⟩) hsplit
  rw [byteSize_append] at hread
  have hline := line_of_split hfront hindent htext
  rw [Word.pieces, hs.put]
  simp only [act, hread, hline]
  rfl

/-- A value is put into the entry that its key has opened. -/
theorem putAll_value (hs : s.UpTo offset) (e : Entry) {a c : Text} {v : Value}
    (htext : source.text = a ++ (v.text ++ c)) (ha : byteSize a = offset) :
    (s.addEntry e).putAll source offset v.pieces =
      (s.addEntry { e with
        value := v.text
        valueSpan := some ⟨offset, offset + byteSize v.text⟩ }).reach
        (offset + byteSize v.text) := by
  subst ha
  have hs' : (s.addEntry e).UpTo (byteSize a) := hs
  have hread := text_of_split (p := ⟨v.text, .valueToken, v.text_ne_nil⟩) htext
  rw [Value.pieces, hs'.put]
  simp only [act, hread]
  rfl

/-- What follows a key changes the value of its entry, if there is one. -/
theorem putAll_behind_key (hs : s.UpTo offset) {e : Entry} (hvalue : e.value = [])
    (hspan : e.valueSpan = none) {middle last : List (Piece Kind)} (hmiddle : Inert middle)
    (hlast : Inert last) {value : Option (Value × Gap)} {a c : Text}
    (htext : source.text =
      a ++ (Piece.join middle ++ (Piece.join (Value.optionPieces value) ++ c)))
    (ha : byteSize a = offset) :
    (s.addEntry e).putAll source offset (middle ++ (Value.optionPieces value ++ last)) =
      (s.addEntry { e with
        value := Value.textOf value
        valueSpan := value.map fun found : Value × Gap => ⟨offset + byteSize (Piece.join middle),
          offset + byteSize (Piece.join middle) + byteSize found.1.text⟩ }).reach
        (offset + byteSize (Piece.join (middle ++ (Value.optionPieces value ++ last)))) := by
  have hs' : (s.addEntry e).UpTo offset := hs
  have hopen := hs.reach (byteSize (Piece.join middle))
  rw [putAll_append, hs'.putAll hmiddle, addEntry_reach]
  cases value with
  | none =>
      have hsame : { e with value := Value.textOf none, valueSpan := none } = e := by
        obtain ⟨key, own, keySpan, valueSpan, line⟩ := e
        subst hvalue hspan
        rfl
      have hopen' : ((s.reach (offset + byteSize (Piece.join middle))).addEntry e).UpTo
          (offset + byteSize (Piece.join middle)) := hopen
      rw [Value.optionPieces, List.nil_append, hopen'.putAll hlast, Option.map_none, hsame]
      simp [Nat.add_assoc, addEntry_reach, reach_reach]
  | some found =>
      obtain ⟨v, gap⟩ := found
      have hsplit : source.text =
          (a ++ Piece.join middle) ++ (v.text ++ (gap.text ++ c)) := by
        rw [htext]
        simp [Value.optionPieces]
      have hinert : Inert (gap.pieces ++ last) := inert_append.mpr ⟨inert_gap gap, hlast⟩
      have hvalued (e : Entry) : (((s.reach (offset + byteSize (Piece.join middle))).addEntry
          e).reach (offset + byteSize (Piece.join middle) + byteSize v.text)).UpTo
          (offset + byteSize (Piece.join middle) + byteSize v.text) :=
        hopen.reach (byteSize v.text)
      rw [Value.optionPieces, List.append_assoc, putAll_append,
        putAll_value hopen e hsplit (by simp [ha]), Value.join_pieces, (hvalued _).putAll hinert]
      simp [Nat.add_assoc, addEntry_reach, reach_reach, Value.textOf]

theorem putAll_entry (hs : s.UpTo (byteSize front)) (hfront : StartsLine front n)
    {key : Word isKeyChar} {separator : Separator} {value : Option (Value × Gap)}
    (hnoFeed : '\n' ∉ (Line.mk indent (.entry key before separator after value) note).text)
    (htext : source.text = front ++
      ((Line.mk indent (.entry key before separator after value) note).text ++ rest)) :
    s.putAll source (byteSize front)
        ((Line.mk indent (.entry key before separator after value) note).pieces ++
          brk.pieces .endOfLine) =
      (s.addEntry (entryOf (n + 1) (byteSize front) indent before after key separator value)).reach
        (byteSize front +
          byteSize ((Line.mk indent (.entry key before separator after value) note).text ++
            brk.text)) := by
  let middle := before.pieces ++ Piece.ofChar separator.char separator.kind :: after.pieces
  let last := Note.optionPieces note ++ brk.pieces .endOfLine
  have hpieces : (Line.mk indent (.entry key before separator after value) note).pieces ++
      brk.pieces .endOfLine = indent.pieces ++ (Word.pieces key .keyToken ++
        (middle ++ (Value.optionPieces value ++ last))) := by
    simp [Line.pieces, Body.pieces, middle, last]
  have hmiddle : Inert middle := by
    refine inert_append.mpr ⟨inert_gap before, inert_ofChar _ ?_ (inert_gap after)⟩
    cases separator <;> decide
  have hlast : Inert last := inert_end note brk
  have hbody : (Line.mk indent (.entry key before separator after value) note).text =
      indent.text ++ (key.text ++ (Piece.join middle ++
        (Piece.join (Value.optionPieces value) ++ Note.optionText note))) := by
    simp [Line.text_entry, middle]
  rw [hbody] at hnoFeed htext ⊢
  have hindent : '\n' ∉ indent.text := fun hmem => hnoFeed (List.mem_append_left _ hmem)
  have hsplit : source.text = front ++ (indent.text ++ (key.text ++ (Piece.join middle ++
      (Piece.join (Value.optionPieces value) ++ (Note.optionText note ++ rest))))) := by
    rw [htext]
    simp only [List.append_assoc]
  have hsplit' : source.text = (front ++ (indent.text ++ key.text)) ++ (Piece.join middle ++
      (Piece.join (Value.optionPieces value) ++ (Note.optionText note ++ rest))) := by
    rw [hsplit]
    simp only [List.append_assoc]
  have hkey := putAll_key (hs.reach (byteSize indent.text)) hfront hindent hsplit
  have hopen := (hs.reach (byteSize indent.text)).reach (byteSize key.text)
  rw [hpieces, putAll_append, hs.putAll (inert_gap indent), Gap.join_pieces, putAll_append, hkey,
    Word.join_pieces, addEntry_reach, putAll_behind_key hopen rfl rfl hmiddle hlast hsplit'
      (by simp [Nat.add_assoc])]
  have hoffset : byteSize front + byteSize indent.text + byteSize key.text +
      byteSize (Piece.join (middle ++ (Value.optionPieces value ++ last))) =
      byteSize front + byteSize (indent.text ++ (key.text ++ (Piece.join middle ++
        (Piece.join (Value.optionPieces value) ++ Note.optionText note))) ++ brk.text) := by
    simp [last, Break.pieces, Nat.add_assoc]
  have hvalueStart : byteSize front + byteSize indent.text + byteSize key.text +
      byteSize (Piece.join middle) = byteSize front + byteSize indent.text + byteSize key.text +
        byteSize before.text + separator.char.utf8Size + byteSize after.text := by
    simp [middle, Nat.add_assoc]
  simp only [addEntry_reach, reach_reach, hoffset, hvalueStart, entryOf]

theorem putAll_name (hs : s.UpTo offset) {a c : Text} {name : Word isNameChar}
    (htext : source.text = a ++ (name.text ++ c)) (ha : byteSize a = offset)
    {last : List (Piece Kind)} (hlast : Inert last) :
    s.putAll source offset (Word.pieces name .headerToken ++ last) =
      { s with name := some (trim name.text) }.reach
        (offset + byteSize (name.text ++ Piece.join last)) := by
  subst ha
  have hread := text_of_split (p := ⟨name.text, .headerToken, name.nonempty⟩) htext
  have hname : s.putAll source (byteSize a) [⟨name.text, .headerToken, name.nonempty⟩] = _ :=
    hs.put _
  simp only [act, hread] at hname
  have hopen : ({ s with name := some (trim name.text) }.reach
      (byteSize a + byteSize name.text)).UpTo (byteSize a + byteSize name.text) :=
    hs.reach (byteSize name.text)
  rw [putAll_append, Word.join_pieces, Word.pieces, hname]
  refine (hopen.putAll hlast).trans ?_
  simp [reach_reach, Nat.add_assoc]

end OpenSection

namespace Fold

/-- The open section with the indentation that is held back. -/
def settled (f : Fold) : OpenSection :=
  match f.indent with
  | some indent => f.current.extend indent
  | none => f.current

/-- Indentation is held back within a line only. -/
def Tidy (f : Fold) : Prop := f.atLineStart = true → f.indent = none

/-- What has been read so far. -/
def progress (f : Fold) : Progress := ⟨f.complete.reverse, f.settled.close⟩

theorem sections_progress (f : Fold) :
    f.progress.sections = (f.settled.closed ++ f.complete).reverse := by
  unfold progress Progress.sections OpenSection.closed OpenSection.isKept OpenSection.close
  cases hname : f.settled.name <;> cases hnewest : f.settled.newest <;> simp

theorem finish_eq (f : Fold) : f.finish = ⟨f.progress.sections⟩ := by
  rw [sections_progress]
  rfl

variable {source : Source} {f : Fold} {token : Token Kind}

theorem tidy_step (source : Source) (f : Fold) (token : Token Kind) :
    (f.step source token).Tidy := by
  unfold step
  split
  · simp [Tidy]
  · intro _
    rfl

theorem add_eq (hkind : token.kind ≠ .leftBracket) (span : Span) :
    f.add source token span = ⟨f.complete, (f.current.act source token).extend span, none,
      token.kind == .endOfLine⟩ := by
  unfold add OpenSection.act
  cases hcase : token.kind with
  | leftBracket => exact absurd hcase hkind
  | _ => rfl

theorem step_of_not_leftBracket (h : f.Tidy) (hkind : token.kind ≠ .leftBracket) :
    (f.step source token).settled = f.settled.put source token ∧
      (f.step source token).complete = f.complete := by
  unfold step
  by_cases hheld : token.kind = .whitespaceToken ∧ f.atLineStart = true
  · rw [if_pos hheld]
    have hnone : f.indent = none := h hheld.2
    have hact : f.current.act source token = f.current := by
      simp only [OpenSection.act, hheld.1]
    refine ⟨?_, rfl⟩
    simp only [settled, hnone, OpenSection.put, hact]
  · rw [if_neg hheld, add_eq hkind]
    refine ⟨?_, rfl⟩
    cases hindent : f.indent with
    | none => simp only [settled, hindent, OpenSection.put]
    | some indent =>
        simp only [settled, hindent, OpenSection.put, ← OpenSection.act_extend,
          OpenSection.extend_extend]

/-- The span with the indentation before it. -/
def withIndent (f : Fold) (span : Span) : Span :=
  match f.indent with
  | some indent => indent.merge span
  | none => span

theorem step_of_leftBracket (hkind : token.kind = .leftBracket) :
    (f.step source token).settled =
        .headed (f.withIndent token.span) (source.lineCol token.span.start).1 ∧
      (f.step source token).complete = f.current.closed ++ f.complete := by
  have hheld : ¬(token.kind = .whitespaceToken ∧ f.atLineStart = true) := by simp [hkind]
  have hself (s : OpenSection) : s.extend s.span = s := by
    simp [OpenSection.extend, Span.merge]
  unfold step
  rw [if_neg hheld]
  unfold add
  simp only [hkind]
  exact ⟨hself _, trivial⟩

/-- A run over the tokens of pieces without a bracket. -/
theorem foldl_of_not_leftBracket (source : Source) (h : f.Tidy) (offset : Nat)
    {ps : List (Piece Kind)} (hkind : ∀ p ∈ ps, p.kind ≠ .leftBracket) :
    ((Piece.tokensFrom offset ps).foldl (step source) f).settled =
        f.settled.putAll source offset ps ∧
      ((Piece.tokensFrom offset ps).foldl (step source) f).complete = f.complete := by
  induction ps generalizing f offset with
  | nil => exact ⟨rfl, rfl⟩
  | cons p ps ih =>
      rw [List.forall_mem_cons] at hkind
      let token : Token Kind := ⟨⟨offset, offset + p.size⟩, p.kind⟩
      have hstep : (f.step source token).settled = f.settled.put source token ∧
          (f.step source token).complete = f.complete :=
        step_of_not_leftBracket h hkind.1
      obtain ⟨hrest, hrest'⟩ := ih (tidy_step source f token) (offset + p.size) hkind.2
      rw [hstep.1] at hrest
      rw [hstep.2] at hrest'
      exact ⟨hrest, hrest'⟩

/-- A fold at the start of a line. -/
structure AtLine (f : Fold) (offset : Nat) : Prop where
  atLineStart : f.atLineStart = true
  indent : f.indent = none
  upTo : f.current.UpTo offset

variable {front rest : Text} {brk : Break} {n offset : Nat} {indent gap : Gap}
  {note : Option Note}

theorem AtLine.settled_eq (h : f.AtLine offset) : f.settled = f.current := by
  simp only [settled, h.indent]

theorem AtLine.tidy (h : f.AtLine offset) : f.Tidy := fun _ => h.indent

theorem AtLine.foldl_indent (source : Source) (h : f.AtLine offset) (g : Gap) (k : Nat) :
    let f' := (Piece.tokensFrom offset g.pieces).foldl (step source) f
    f'.complete = f.complete ∧ f'.current = f.current ∧
      f'.withIndent ⟨offset + byteSize g.text, offset + byteSize g.text + k⟩ =
        ⟨offset, offset + byteSize g.text + k⟩ := by
  by_cases hg : g.text = []
  · simp [Gap.pieces, hg, withIndent, h.indent]
  · have hread : (Piece.tokensFrom offset g.pieces).foldl (step source) f =
        { f with
          indent := some ⟨offset, offset + byteSize g.text⟩
          atLineStart := false } := by
      rw [Gap.pieces, Piece.ofText_of_ne_nil hg]
      exact if_pos ⟨rfl, h.atLineStart⟩
    rw [hread]
    refine ⟨rfl, rfl, ?_⟩
    simp only [withIndent, Span.merge, Span.mk.injEq]
    omega

/-- Behind its bracket, a header has opened a section that begins with the indentation. -/
theorem AtLine.foldl_bracket (h : f.AtLine (byteSize front)) (hfront : StartsLine front n)
    (hindent : '\n' ∉ indent.text)
    (htext : source.text = front ++ (indent.text ++ '[' :: rest)) :
    let f' := (Piece.tokensFrom (byteSize front)
      (indent.pieces ++ [Piece.ofChar '[' .leftBracket])).foldl (step source) f
    f'.settled = .headed ⟨byteSize front, byteSize front + byteSize indent.text + 1⟩ (n + 1) ∧
      f'.complete = f.current.closed ++ f.complete ∧ f'.Tidy := by
  obtain ⟨hcomplete, hcurrent, hspan⟩ := h.foldl_indent source indent 1
  rw [Piece.tokensFrom_append, List.foldl_append, Gap.join_pieces]
  let f₁ := (Piece.tokensFrom (byteSize front) indent.pieces).foldl (step source) f
  let token : Token Kind := ⟨⟨byteSize front + byteSize indent.text,
    byteSize front + byteSize indent.text + 1⟩, .leftBracket⟩
  have hline : (source.lineCol token.span.start).1 = n + 1 :=
    OpenSection.line_of_split hfront hindent htext
  have hstep : (f₁.step source token).settled = .headed (f₁.withIndent token.span)
        (source.lineCol token.span.start).1 ∧
      (f₁.step source token).complete = f₁.current.closed ++ f₁.complete :=
    step_of_leftBracket rfl
  rw [hspan, hline, hcurrent, hcomplete] at hstep
  exact ⟨hstep.1, hstep.2, tidy_step source f₁ token⟩

theorem AtLine.foldl_header (brk : Break) (h : f.AtLine (byteSize front))
    (hfront : StartsLine front n) {name : Word isNameChar}
    (hnoFeed : '\n' ∉ (Line.mk indent (.header name gap) note).text)
    (htext : source.text = front ++ ((Line.mk indent (.header name gap) note).text ++ rest)) :
    let f' := (Piece.tokensFrom (byteSize front) ((Line.mk indent (.header name gap) note).pieces ++
      brk.pieces .endOfLine)).foldl (step source) f
    f'.complete = f.current.closed ++ f.complete ∧
      f'.settled = ⟨some (trim name.text), ⟨byteSize front, byteSize front +
        byteSize ((Line.mk indent (.header name gap) note).text ++ brk.text)⟩, n + 1, []⟩ := by
  let last := Piece.ofChar ']' .rightBracket ::
    (gap.pieces ++ (Note.optionPieces note ++ brk.pieces .endOfLine))
  have hpieces : (Line.mk indent (.header name gap) note).pieces ++ brk.pieces .endOfLine =
      (indent.pieces ++ [Piece.ofChar '[' .leftBracket]) ++
        (Word.pieces name .headerToken ++ last) := by
    simp [Line.pieces, Body.pieces, last]
  have hlast : OpenSection.Inert last := OpenSection.inert_ofChar _ (by decide)
    (OpenSection.inert_append.mpr ⟨OpenSection.inert_gap gap, OpenSection.inert_end note brk⟩)
  rw [Line.text_header] at hnoFeed htext ⊢
  have hsplit : source.text = front ++ (indent.text ++
      '[' :: (name.text ++ (']' :: (gap.text ++ Note.optionText note) ++ rest))) := by
    simp [htext]
  obtain ⟨hopened, hcomplete, htidy⟩ :=
    h.foldl_bracket hfront (fun hmem => hnoFeed (List.mem_append_left _ hmem)) hsplit
  have hbracket : Char.utf8Size '[' = 1 := rfl
  have hoffset : byteSize front + byteSize (Piece.join (indent.pieces ++
      [Piece.ofChar '[' .leftBracket])) = byteSize front + byteSize indent.text + 1 := by
    simp [hbracket, Nat.add_assoc]
  have hkind : ∀ p ∈ Word.pieces name .headerToken ++ last, p.kind ≠ .leftBracket :=
    List.forall_mem_cons.mpr ⟨by simp, hlast.not_leftBracket⟩
  obtain ⟨hsettled, hrest⟩ := foldl_of_not_leftBracket source htidy
    (byteSize front + byteSize indent.text + 1) hkind
  have hopen : (OpenSection.headed ⟨byteSize front, byteSize front + byteSize indent.text + 1⟩
      (n + 1)).UpTo (byteSize front + byteSize indent.text + 1) :=
    ⟨by simp only [OpenSection.headed]; omega, rfl⟩
  have hbehind : source.text = (front ++ (indent.text ++ ['['])) ++
      (name.text ++ (']' :: (gap.text ++ Note.optionText note) ++ rest)) := by
    simp [hsplit]
  have hname := OpenSection.putAll_name hopen hbehind (by simp [hbracket, Nat.add_assoc]) hlast
  rw [hopened, hname] at hsettled
  rw [hpieces, Piece.tokensFrom_append, List.foldl_append, hoffset]
  refine ⟨hrest.trans hcomplete, hsettled.trans ?_⟩
  have hstop : byteSize front + byteSize indent.text + 1 +
      byteSize (name.text ++ Piece.join last) = byteSize front + byteSize (indent.text ++
        '[' :: (name.text ++ ']' :: (gap.text ++ Note.optionText note)) ++ brk.text) := by
    simp [last, hbracket, Break.pieces]
    omega
  rw [hstop]
  rfl

/-- The tokens of a row do what the row does. -/
theorem AtLine.foldl_row (brk : Break) (h : f.AtLine (byteSize front))
    (hfront : StartsLine front n) {l : Line} (hnoFeed : '\n' ∉ l.text)
    (htext : source.text = front ++ (l.text ++ rest)) :
    ((Piece.tokensFrom (byteSize front) (l.pieces ++ brk.pieces .endOfLine)).foldl
        (step source) f).progress =
      f.progress.addRow ⟨n + 1, byteSize front, byteSize front + byteSize (l.text ++ brk.text),
        l.text⟩ := by
  have hplain (hbody : ¬l.body.IsHeader) := foldl_of_not_leftBracket source h.tidy
    (byteSize front) (OpenSection.not_leftBracket_of_body brk hbody)
  obtain ⟨indent, body, note⟩ := l
  cases body with
  | blank =>
      obtain ⟨hsettled, hcomplete⟩ := hplain id
      rw [h.settled_eq, OpenSection.putAll_blank h.upTo] at hsettled
      rw [Progress.addRow, item_blank, progress, hsettled, hcomplete, progress, h.settled_eq]
      rfl
  | header name gap =>
      obtain ⟨hcomplete, hsettled⟩ := h.foldl_header brk hfront hnoFeed htext
      rw [Progress.addRow, item_header, sections_progress, progress, hsettled, hcomplete,
        h.settled_eq]
      rfl
  | entry key before separator after value =>
      obtain ⟨hsettled, hcomplete⟩ := hplain id
      rw [h.settled_eq, OpenSection.putAll_entry h.upTo hfront hnoFeed htext] at hsettled
      rw [Progress.addRow, item_entry, progress, hsettled, hcomplete, progress, h.settled_eq]
      simp [OpenSection.close, OpenSection.reach, OpenSection.addEntry]

theorem addRow_span {p : Progress} {row : Row} (hp : p.current.span.start ≤ row.start)
    (hrow : row.start ≤ row.stop) :
    (p.addRow row).current.span.start ≤ row.stop ∧ (p.addRow row).current.span.stop = row.stop := by
  unfold Progress.addRow
  cases row.item with
  | nothing => exact ⟨Nat.le_trans hp hrow, rfl⟩
  | header name => exact ⟨hrow, rfl⟩
  | entry e => exact ⟨Nat.le_trans hp hrow, rfl⟩

theorem step_endOfLine (h : token.kind = .endOfLine) :
    (f.step source token).atLineStart = true ∧ (f.step source token).indent = none := by
  have hheld : ¬(token.kind = .whitespaceToken ∧ f.atLineStart = true) := by simp [h]
  unfold step
  rw [if_neg hheld, add_eq (by simp [h])]
  exact ⟨by simp [h], rfl⟩

/-- Behind a line break the fold is at the start of the next line. -/
theorem AtLine.foldl_atLine (h : f.AtLine (byteSize front)) (hfront : StartsLine front n) {l : Line}
    (hnoFeed : '\n' ∉ l.text) (htext : source.text = front ++ (l.text ++ rest))
    (hbrk : brk ≠ .none) :
    ((Piece.tokensFrom (byteSize front) (l.pieces ++ brk.pieces .endOfLine)).foldl
      (step source) f).AtLine (byteSize front + byteSize (l.text ++ brk.text)) := by
  have hrow := h.foldl_row brk hfront hnoFeed htext
  have hend : ∃ (g : Fold) (token : Token Kind), token.kind = .endOfLine ∧
      (Piece.tokensFrom (byteSize front) (l.pieces ++ brk.pieces .endOfLine)).foldl
        (step source) f = g.step source token := by
    have hne : brk.text ≠ [] := by
      cases brk with
      | none => exact absurd rfl hbrk
      | feed => simp [Break.text]
      | returnFeed => simp [Break.text]
    rw [Break.pieces, Piece.ofText_of_ne_nil hne, Piece.tokensFrom_append, List.foldl_append]
    exact ⟨(Piece.tokensFrom (byteSize front) l.pieces).foldl (step source) f,
      ⟨_, .endOfLine⟩, rfl, rfl⟩
  obtain ⟨g, token, hkind, hfold⟩ := hend
  rw [hfold] at hrow ⊢
  obtain ⟨hstart, hnone⟩ : (g.step source token).atLineStart = true ∧
      (g.step source token).indent = none := step_endOfLine hkind
  have hsettled : (g.step source token).settled = (g.step source token).current := by
    simp only [settled, hnone]
  have hspan : (g.step source token).settled.span = _ :=
    congrArg (fun p : Progress => p.current.span) hrow
  have hbefore : f.progress.current.span.start ≤ byteSize front := by
    change f.settled.span.start ≤ byteSize front
    rw [h.settled_eq]
    exact h.upTo.1
  let row : Row := ⟨n + 1, byteSize front, byteSize front + byteSize (l.text ++ brk.text), l.text⟩
  have hbounds : (f.progress.addRow row).current.span.start ≤ row.stop ∧
      (f.progress.addRow row).current.span.stop = row.stop :=
    addRow_span hbefore (Nat.le_add_right _ _)
  rw [← hspan, hsettled] at hbounds
  exact ⟨hstart, hnone, hbounds⟩

end Fold

end Ini

end RuleLexer
