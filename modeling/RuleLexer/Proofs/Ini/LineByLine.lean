import RuleLexer.Ini.Document
import RuleLexer.Proofs.Ini.Line
import RuleLexer.Proofs.Text.Lines
import RuleLexer.Proofs.Text.Trim

/-!
# Reading a document line by line

A document can be read off the lines of its text, from the top, without
tokens: a line opens a section, adds an entry to the section that is open,
or adds nothing. On a line whose parts are known, these are the name, the
key and the value among its parts.
-/

namespace RuleLexer.Ini

open Text

/-- A line of a source: its number, the offsets where it starts and where the next line starts,
and its text. -/
structure Row where
  number : Nat
  start : Nat
  stop : Nat
  text : Text

/-- The rows of a text that begins at an offset, below `n` other lines. -/
def rowsFrom (n offset : Nat) (text : Text) : List Row :=
  let starts := offset :: LineTable.newlineEnds offset text
  (lines text).mapIdx fun i line =>
    ⟨n + i + 1, starts.getD i 0, starts.getD (i + 1) (offset + byteSize text), line⟩

def rows (source : Source) : List Row := rowsFrom 0 0 source.text

theorem rowsFrom_of_begins {text line rest : Text} {brk : Break} (h : Begins text line brk rest)
    (n offset : Nat) :
    rowsFrom n offset text = ⟨n + 1, offset, offset + byteSize (line ++ brk.text), line⟩ ::
      if brk = .none then [] else rowsFrom (n + 1) (offset + byteSize (line ++ brk.text)) rest := by
  have hsize : byteSize text = byteSize (line ++ brk.text) + byteSize rest := by
    rw [h.eq, ← List.append_assoc, byteSize_append]
  rw [rowsFrom, h.lines_eq, LineTable.newlineEnds_of_begins h]
  by_cases hbrk : brk = .none
  · simp [hbrk, hsize, h.last hbrk]
  · simp only [hbrk, if_false, List.mapIdx_cons, rowsFrom]
    refine congrArg₂ List.cons (by simp) ?_
    refine congrFun (congrArg List.mapIdx (funext fun i => funext fun line' => ?_)) _
    simp only [List.getD_cons_succ, Row.mk.injEq, hsize, and_true]
    exact ⟨by omega, trivial, by rw [Nat.add_assoc]⟩

inductive Item where
  | nothing
  | header (name : Text)
  | entry (e : Entry)

namespace Row

/-- The entry of a line that is `body` behind its indentation. The value goes up to a comment mark
and is trimmed, and it is found from the end of the line. -/
def entry (row : Row) (body : Text) : Entry :=
  let key := body.takeWhile isKeyChar
  let keyStart := row.start + byteSize (row.text.takeWhile isSpace)
  let behind := ((body.dropWhile isKeyChar).dropWhile isSpace).tail
  let value := trim (behind.takeWhile fun c => c != '#' && c != ';')
  let valueStart := row.start + byteSize row.text - byteSize (trimStart behind)
  { key := key
    value := value
    keySpan := ⟨keyStart, keyStart + byteSize key⟩
    valueSpan := if value = [] then none else some ⟨valueStart, valueStart + byteSize value⟩
    line := row.number }

def item (row : Row) : Item :=
  match row.text.dropWhile isSpace with
  | [] => .nothing
  | c :: rest =>
      if c = '[' then .header (trim (rest.takeWhile (· ≠ ']')))
      else if c = '#' ∨ c = ';' then .nothing
      else .entry (row.entry (c :: rest))

end Row

/-- The sections that are complete and the one that is open. -/
structure Progress where
  complete : List Section
  current : Section

namespace Progress

def start : Progress := ⟨[], ⟨none, Span.zero, 1, []⟩⟩

/-- A section without a name counts only if it has an entry. -/
def sections (p : Progress) : List Section :=
  if p.current.name = none ∧ p.current.entries = [] then p.complete
  else p.complete ++ [p.current]

def addRow (p : Progress) (row : Row) : Progress :=
  match row.item with
  | .nothing => ⟨p.complete, { p.current with span := ⟨p.current.span.start, row.stop⟩ }⟩
  | .header name => ⟨p.sections, ⟨some name, ⟨row.start, row.stop⟩, row.number, []⟩⟩
  | .entry e => ⟨p.complete, { p.current with
      span := ⟨p.current.span.start, row.stop⟩
      entries := p.current.entries ++ [e] }⟩

end Progress

def Document.readLines (source : Source) : Document :=
  ⟨((rows source).foldl Progress.addRow .start).sections⟩

namespace Value

theorem stops_isBlank (v : Value) : Stops isBlank v.text := by
  have hword (c : Char) (h : isValueChar c = true) : isBlank c = false := by
    simp only [isValueChar, Bool.and_eq_true, Bool.not_eq_true'] at h
    exact h.1.1
  cases v with
  | word w =>
      have hstops := w.stops_append hword []
      rwa [List.append_nil] at hstops
  | more w gap rest => exact w.stops_append hword _

theorem stops_isBlank_reverse (v : Value) : Stops isBlank v.text.reverse := by
  induction v with
  | word w =>
      intro c hc
      have hmem : c ∈ w.text := List.mem_reverse.mp (List.mem_of_mem_head? hc)
      have hchar := w.all c hmem
      simp only [isValueChar, Bool.and_eq_true, Bool.not_eq_true'] at hchar
      exact hchar.1.1
  | more w gap rest ih =>
      rw [Value.text, List.reverse_append, List.reverse_append, List.append_assoc]
      exact stops_append_of_ne_nil (by simpa using rest.text_ne_nil) ih _

theorem no_mark (v : Value) : ∀ c ∈ v.text, (c != '#' && c != ';') = true := by
  have hword (w : Word isValueChar) : ∀ c ∈ w.text, (c != '#' && c != ';') = true := by
    intro c hc
    have hchar := w.all c hc
    simp only [isValueChar, Bool.and_eq_true] at hchar ⊢
    exact ⟨hchar.1.2, hchar.2⟩
  induction v with
  | word w => exact hword w
  | more w gap rest ih =>
      intro c hc
      simp only [Value.text, List.mem_append] at hc
      rcases hc with hc | hc | hc
      · exact hword w c hc
      · have hspace := gap.all c hc
        simp only [isSpace, Bool.or_eq_true, beq_iff_eq] at hspace
        rcases hspace with rfl | rfl <;> rfl
      · exact ih c hc

def textOf (value : Option (Value × Gap)) : Text := value.elim [] fun found => found.1.text

end Value

theorem no_mark_of_gap (g : Gap) : ∀ c ∈ g.text, (c != '#' && c != ';') = true := by
  intro c hc
  have hspace := g.all c hc
  simp only [isSpace, Bool.or_eq_true, beq_iff_eq] at hspace
  rcases hspace with rfl | rfl <;> rfl

section Item

variable (number start stop : Nat) (indent gap before after : Gap) (note : Option Note)

theorem item_blank :
    (Row.mk number start stop (Line.mk indent .blank note).text).item = .nothing := by
  have hrest : (Line.mk indent .blank note).text.dropWhile isSpace = Note.optionText note := by
    rw [Line.text_eq]
    exact dropWhile_run indent.all (Body.stops_isSpace .blank note)
  rw [Row.item, hrest]
  cases note with
  | none => rfl
  | some n =>
      obtain ⟨mark, text⟩ := n
      cases mark <;> rfl

theorem item_header (name : Word isNameChar) :
    (Row.mk number start stop (Line.mk indent (.header name gap) note).text).item =
      .header (trim name.text) := by
  have hrest : (Line.mk indent (.header name gap) note).text.dropWhile isSpace =
      '[' :: (name.text ++ ']' :: (gap.text ++ Note.optionText note)) := by
    rw [Line.text_header]
    exact dropWhile_run indent.all (by simp [isSpace])
  have hname : (name.text ++ ']' :: (gap.text ++ Note.optionText note)).takeWhile (· ≠ ']') =
      name.text := by
    refine takeWhile_run (fun c hc => ?_) (by simp)
    have hchar := name.all c hc
    simp only [isNameChar, Bool.and_eq_true, bne_iff_ne] at hchar
    simpa using hchar.1.1
  rw [Row.item, hrest]
  simp only [if_true, hname]

theorem item_of_key {row : Row} {key : Word isKeyChar} {tail : Text}
    (h : row.text.dropWhile isSpace = key.text ++ tail) :
    row.item = .entry (row.entry (key.text ++ tail)) := by
  rw [Row.item, h]
  obtain ⟨⟨text, hall⟩, hne⟩ := key
  cases text with
  | nil => exact absurd rfl hne
  | cons c text =>
      have hc := hall c List.mem_cons_self
      have hbracket : c ≠ '[' := by
        rintro rfl
        exact absurd hc (by decide)
      have hmark : ¬(c = '#' ∨ c = ';') := by
        rintro (rfl | rfl)
        · exact absurd hc (by decide)
        · exact absurd hc (by decide)
      simp only [List.cons_append, hbracket, hmark, if_false]

/-- The entry of a line with these parts. -/
def entryOf (key : Word isKeyChar) (separator : Separator) (value : Option (Value × Gap)) : Entry :=
  let keyStart := start + byteSize indent.text
  let valueStart := keyStart + byteSize key.text + byteSize before.text +
    separator.char.utf8Size + byteSize after.text
  { key := key.text
    value := Value.textOf value
    keySpan := ⟨keyStart, keyStart + byteSize key.text⟩
    valueSpan := value.map fun found => ⟨valueStart, valueStart + byteSize found.1.text⟩
    line := number }

/-- Up to a comment mark, there is nothing but the value behind a separator. -/
theorem trim_behind (value : Option (Value × Gap)) :
    trim ((after.text ++ (Piece.join (Value.optionPieces value) ++ Note.optionText note)).takeWhile
      fun c => c != '#' && c != ';') = Value.textOf value := by
  have hmarks : Stops (fun c => c != '#' && c != ';') (Note.optionText note) :=
    stops_note note rfl rfl
  have hafter : ∀ c ∈ after.text, isBlank c = true := fun c hc =>
    isBlank_of_isSpace (after.all c hc)
  cases value with
  | none =>
      have hcontent : (after.text ++ Note.optionText note).takeWhile
          (fun c => c != '#' && c != ';') = after.text :=
        takeWhile_run (no_mark_of_gap after) hmarks
      exact (congrArg trim hcontent).trans (trim_of_blank hafter)
  | some found =>
      obtain ⟨v, gap⟩ := found
      have hrun : ∀ c ∈ after.text ++ (v.text ++ gap.text), (c != '#' && c != ';') = true := by
        simp only [List.mem_append]
        rintro c (hc | hc | hc)
        · exact no_mark_of_gap after c hc
        · exact v.no_mark c hc
        · exact no_mark_of_gap gap c hc
      have hcontent := takeWhile_run hrun hmarks
      have hgap : ∀ c ∈ gap.text, isBlank c = true := fun c hc => isBlank_of_isSpace (gap.all c hc)
      have htrim := trim_append hafter hgap v.text_ne_nil v.stops_isBlank v.stops_isBlank_reverse
      rw [← hcontent] at htrim
      simpa [Value.optionPieces, Value.textOf] using htrim

theorem trimStart_behind (v : Value) :
    trimStart (after.text ++ (Piece.join (Value.optionPieces (some (v, gap))) ++
      Note.optionText note)) = v.text ++ (gap.text ++ Note.optionText note) := by
  have hsplit := trimStart_append (fun c hc => isBlank_of_isSpace (after.all c hc)) v.text_ne_nil
    v.stops_isBlank (gap.text ++ Note.optionText note)
  simpa [Value.optionPieces] using hsplit

theorem item_entry (key : Word isKeyChar) (separator : Separator) (value : Option (Value × Gap)) :
    (Row.mk number start stop
        (Line.mk indent (.entry key before separator after value) note).text).item =
      .entry (entryOf number start indent before after key separator value) := by
  let tail := Piece.join (Value.optionPieces value) ++ Note.optionText note
  have hkey : Stops isSpace
      (key.text ++ (before.text ++ separator.char :: (after.text ++ tail))) :=
    key.stops_append (fun c => isSpace_of_isKeyChar) _
  have hbefore : Stops isKeyChar (before.text ++ separator.char :: (after.text ++ tail)) := by
    refine before.stops_append (fun c => isKeyChar_of_isSpace) ?_
    cases separator <;> simp [Separator.char, isKeyChar]
  have hseparator : Stops isSpace (separator.char :: (after.text ++ tail)) := by
    cases separator <;> simp [Separator.char, isSpace]
  rw [Line.text_entry, item_of_key (dropWhile_run indent.all hkey)]
  simp only [Row.entry, takeWhile_run indent.all hkey, takeWhile_run key.all hbefore,
    dropWhile_run key.all hbefore, dropWhile_run before.all hseparator, List.tail_cons,
    trim_behind, tail]
  cases value with
  | none => rfl
  | some found =>
      obtain ⟨v, gap⟩ := found
      -- The value starts where the line, read from its end, has the value and what follows it.
      have hoffset : start + byteSize (indent.text ++ (key.text ++ (before.text ++
            separator.char :: (after.text ++ (Piece.join (Value.optionPieces (some (v, gap))) ++
              Note.optionText note))))) - byteSize (v.text ++ (gap.text ++ Note.optionText note)) =
          start + byteSize indent.text + byteSize key.text + byteSize before.text +
            separator.char.utf8Size + byteSize after.text := by
        simp only [Value.optionPieces, Piece.join_append, Value.join_pieces, Gap.join_pieces,
          byteSize_append, byteSize_cons]
        omega
      have hne : Value.textOf (some (v, gap)) ≠ [] := v.text_ne_nil
      simp only [trimStart_behind, hoffset, hne, if_false]
      rfl

variable {number start stop} {l : Line}

theorem exists_of_item_header {name : Text}
    (h : (Row.mk number start stop l.text).item = .header name) :
    ∃ word gap, l.body = .header word gap ∧ name = trim word.text := by
  obtain ⟨indent, body, note⟩ := l
  cases body with
  | blank =>
      rw [item_blank] at h
      exact absurd h (by simp)
  | header word gap =>
      rw [item_header] at h
      exact ⟨word, gap, rfl, (Item.header.inj h).symm⟩
  | entry key before separator after value =>
      rw [item_entry] at h
      exact absurd h (by simp)

theorem exists_of_item_entry {e : Entry} (h : (Row.mk number start stop l.text).item = .entry e) :
    ∃ key before separator after value, l.body = .entry key before separator after value ∧
      e = entryOf number start l.indent before after key separator value := by
  obtain ⟨indent, body, note⟩ := l
  cases body with
  | blank =>
      rw [item_blank] at h
      exact absurd h (by simp)
  | header word gap =>
      rw [item_header] at h
      exact absurd h (by simp)
  | entry key before separator after value =>
      rw [item_entry] at h
      exact ⟨key, before, separator, after, value, rfl, (Item.entry.inj h).symm⟩

end Item

end RuleLexer.Ini
