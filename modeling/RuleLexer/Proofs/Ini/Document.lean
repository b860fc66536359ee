import RuleLexer.Proofs.Ini.Acceptance
import RuleLexer.Proofs.Ini.Fold

/-!
# A parsed document is the one read line by line

By induction over the lines of an accepted file, its tokens leave the fold
with the sections that the lines themselves describe. The spans of every
entry cut its key and its value out of the source.
-/

namespace RuleLexer.Ini

open Text

variable {source : Source}

/-- A text of well-formed lines begins with one of them. -/
theorem exists_line {text : Text} (hall : ∀ line ∈ lines text, WellFormed line) :
    ∃ (l : Line) (brk : Break) (rest : Text), Begins text l.text brk rest ∧
      (brk ≠ .none → ∀ line ∈ lines rest, WellFormed line) := by
  obtain ⟨brk, rest, hbegins⟩ := exists_begins text
  rw [hbegins.lines_eq, List.forall_mem_cons] at hall
  obtain ⟨l, hline⟩ := (wellFormed_iff hbegins.noFeed).mp hall.1
  refine ⟨l, brk, rest, hline ▸ hbegins, ?_⟩
  intro hbrk
  rw [if_neg hbrk] at hall
  exact hall.2

namespace Fold

theorem AtLine.foldl_many {text front : Text} {n : Nat} {f : Fold}
    (h : f.AtLine (byteSize front)) (hfront : StartsLine front n)
    (htext : source.text = front ++ text) (hall : ∀ line ∈ lines text, WellFormed line) :
    ((Piece.tokensFrom (byteSize front) (rowReader.many text).1).foldl (step source) f).progress =
      (rowsFrom n (byteSize front) text).foldl Progress.addRow f.progress := by
  obtain ⟨l, brk, rest, hbegins, hrest⟩ := exists_line hall
  have hread := (rowReader_eq_some hbegins).mpr ⟨l, rfl, rfl, rfl⟩
  have hsplit : source.text = front ++ (l.text ++ (brk.text ++ rest)) := by
    rw [htext, hbegins.eq]
  have hrow := h.foldl_row brk hfront hbegins.noFeed hsplit
  have hjoin : byteSize (Piece.join (l.pieces ++ brk.pieces Kind.endOfLine)) =
      byteSize (l.text ++ brk.text) := by
    simp [Line.text, Break.pieces]
  rw [many_rowReader_append hread, Piece.tokensFrom_append, List.foldl_append, hjoin,
    rowsFrom_of_begins hbegins, List.foldl_cons, ← hrow]
  by_cases hbrk : brk = .none
  · rw [if_pos hbrk, hbegins.last hbrk, many_rowReader_nil]
    rfl
  · rw [if_neg hbrk]
    have hlt := hbegins.length_lt hbrk
    have hnext := h.foldl_atLine hfront hbegins.noFeed hsplit hbrk
    have hoffset : byteSize front + byteSize (l.text ++ brk.text) =
        byteSize (front ++ (l.text ++ brk.text)) := (byteSize_append _ _).symm
    have hlines : StartsLine (front ++ (l.text ++ brk.text)) (n + 1) :=
      hfront.append (hbegins.startsLine hbrk)
    rw [hoffset] at hnext ⊢
    exact hnext.foldl_many hlines (by simp [hsplit]) (hrest hbrk)
termination_by text.length

end Fold

/-- The spans of the entry cut its key and its value out of the source; without a value there is
no span. -/
structure Entry.Sliced (source : Source) (e : Entry) : Prop where
  key : source.slice e.keySpan = e.key
  value : ∀ span ∈ e.valueSpan, source.slice span = e.value
  noValue : e.valueSpan = none ↔ e.value = []

theorem sliced_entryOf {front rest : Text} {indent before after : Gap} {note : Option Note}
    {key : Word isKeyChar} {separator : Separator} {value : Option (Value × Gap)} (n : Nat)
    (htext : source.text = front ++
      ((Line.mk indent (.entry key before separator after value) note).text ++ rest)) :
    (entryOf n (byteSize front) indent before after key separator value).Sliced source where
  key := by
    have hsplit : source.text = (front ++ indent.text) ++ (key.text ++ (before.text ++
        separator.char :: (after.text ++ (Piece.join (Value.optionPieces value) ++
          (Note.optionText note ++ rest))))) := by
      rw [htext, Line.text_entry]
      simp
    have hslice := Source.slice_of_eq_append hsplit
    rwa [byteSize_append] at hslice
  value := by
    cases value with
    | none => simp [entryOf]
    | some found =>
        obtain ⟨v, gap⟩ := found
        have hsplit : source.text = (front ++ (indent.text ++ (key.text ++ (before.text ++
            separator.char :: after.text)))) ++ (v.text ++ (gap.text ++
              (Note.optionText note ++ rest))) := by
          rw [htext, Line.text_entry]
          simp [Value.optionPieces]
        have hslice := Source.slice_of_eq_append hsplit
        have hoffset : byteSize (front ++ (indent.text ++ (key.text ++ (before.text ++
            separator.char :: after.text)))) = byteSize front + byteSize indent.text +
              byteSize key.text + byteSize before.text + separator.char.utf8Size +
                byteSize after.text := by
          simp [Nat.add_assoc]
        rw [hoffset] at hslice
        intro span hspan
        obtain rfl := Option.some.inj hspan
        exact hslice
  noValue := by
    cases value with
    | none => exact iff_of_true rfl rfl
    | some found => exact iff_of_false (by simp [entryOf]) found.1.text_ne_nil

theorem sliced_rowsFrom {text front : Text} (n : Nat) (htext : source.text = front ++ text)
    (hall : ∀ line ∈ lines text, WellFormed line) :
    ∀ row ∈ rowsFrom n (byteSize front) text, ∀ e, row.item = .entry e → e.Sliced source := by
  obtain ⟨l, brk, rest, hbegins, hrest⟩ := exists_line hall
  have hsplit : source.text = front ++ (l.text ++ (brk.text ++ rest)) := by
    rw [htext, hbegins.eq]
  rw [rowsFrom_of_begins hbegins, List.forall_mem_cons]
  refine ⟨?_, ?_⟩
  · intro e he
    obtain ⟨key, before, separator, after, value, hbody, rfl⟩ := exists_of_item_entry he
    obtain ⟨indent, body, note⟩ := l
    obtain rfl : body = _ := hbody
    exact sliced_entryOf (n + 1) hsplit
  · by_cases hbrk : brk = .none
    · simp [hbrk]
    · rw [if_neg hbrk]
      have hlt := hbegins.length_lt hbrk
      have hoffset : byteSize front + byteSize (l.text ++ brk.text) =
          byteSize (front ++ (l.text ++ brk.text)) := (byteSize_append _ _).symm
      rw [hoffset]
      exact sliced_rowsFrom (n + 1) (by simp [hsplit]) (hrest hbrk)
termination_by text.length

namespace Progress

/-- Every entry that has been read satisfies the property. -/
def Forall (P : Entry → Prop) (p : Progress) : Prop :=
  (∀ s ∈ p.complete, ∀ e ∈ s.entries, P e) ∧ ∀ e ∈ p.current.entries, P e

variable {P : Entry → Prop} {p : Progress}

theorem Forall.sections (h : p.Forall P) : ∀ s ∈ p.sections, ∀ e ∈ s.entries, P e := by
  obtain ⟨hcomplete, hcurrent⟩ := h
  unfold Progress.sections
  split
  · exact hcomplete
  · simpa [or_imp, forall_and] using ⟨hcomplete, hcurrent⟩

theorem Forall.addRow (h : p.Forall P) {row : Row} (hrow : ∀ e, row.item = .entry e → P e) :
    (p.addRow row).Forall P := by
  unfold Progress.addRow
  cases hitem : row.item with
  | nothing => exact h
  | header name => exact ⟨h.sections, fun e he => absurd he List.not_mem_nil⟩
  | entry e => exact ⟨h.1, by simpa [or_imp, forall_and] using ⟨h.2, hrow e hitem⟩⟩

theorem Forall.foldl (h : p.Forall P) {rows : List Row}
    (hrows : ∀ row ∈ rows, ∀ e, row.item = .entry e → P e) :
    (rows.foldl Progress.addRow p).Forall P := by
  induction rows generalizing p with
  | nil => exact h
  | cons row rows ih =>
      rw [List.forall_mem_cons] at hrows
      exact ih (h.addRow hrows.1) hrows.2

end Progress

theorem Fold.atLine_start : Fold.start.AtLine (byteSize []) := ⟨rfl, rfl, Nat.le_refl 0, rfl⟩

theorem tokens_eq_of_done {l : Lexer Kind} (hsize : source.size < wordCount)
    (hl : tokenize source = .ok l) (hdone : l.state = .done) :
    l.accepted = .ok (Piece.tokensFrom 0 (rowReader.many source.text).1) ∧
      ∀ line ∈ lines source.text, WellFormed line := by
  have hsplit := many_rowReader_split source.text
  have hstart : (Lexer.start source : Lexer Kind).At
      (Piece.join (rowReader.many source.text).1 ++ (rowReader.many source.text).2) :=
    hsplit ▸ Lexer.at_start hsize
  obtain rfl : (Lexer.start source).readAll (rowReader.many source.text).1 = l :=
    Except.ok.inj ((tokenize_eq hsize).symm.trans hl)
  have hend : (rowReader.many source.text).2 = [] := by
    by_contra hne
    rw [hstart.readAll.state, if_neg hne] at hdone
    exact absurd hdone (by simp)
  refine ⟨?_, ?_⟩
  · have hisDone : ((Lexer.start source).readAll (rowReader.many source.text).1).isDone = true := by
      rw [hstart.readAll.isDone_eq, hend]
      rfl
    rw [Lexer.accepted, hisDone, if_pos rfl, hstart.tokens_readAll]
    rfl
  · rcases many_rowReader_lines source.text with ⟨hall, -⟩ | ⟨i, bad, -, -, -, -, hne⟩
    · exact hall
    · exact absurd hend hne

/-- A source of well-formed lines is accepted, and read line by line. -/
theorem parse_of_wellFormed (hsize : source.size < wordCount)
    (hall : ∀ line ∈ lines source.text, WellFormed line) :
    (∃ l, tokenize source = .ok l ∧ l.state = .done) ∧
      Document.parse source = .ok (Document.readLines source) := by
  have hend : (rowReader.many source.text).2 = [] := by
    rcases many_rowReader_lines source.text with ⟨-, hend⟩ | ⟨i, bad, hbad, hnot, -⟩
    · exact hend
    · exact absurd (hall bad (List.mem_of_getElem? hbad)) hnot
  have hstart : (Lexer.start source : Lexer Kind).At
      (Piece.join (rowReader.many source.text).1 ++ (rowReader.many source.text).2) :=
    many_rowReader_split source.text ▸ Lexer.at_start hsize
  have hl := tokenize_eq hsize
  have hdone : ((Lexer.start source).readAll (rowReader.many source.text).1).state = .done := by
    rw [hstart.readAll.state, if_pos hend]
  have htokens := (tokens_eq_of_done hsize hl hdone).1
  have hrun : ((Piece.tokensFrom 0 (rowReader.many source.text).1).foldl
      (Fold.step source) .start).progress = (rows source).foldl Progress.addRow .start :=
    Fold.atLine_start.foldl_many startsLine_nil (List.nil_append _).symm hall
  refine ⟨⟨_, hl, hdone⟩, ?_⟩
  simp only [Document.parse, hl, htokens, Document.ofTokens, Fold.finish_eq, hrun]
  rfl

/-- What an accepted source is parsed to is what its lines say, read from the top, and the spans of
its entries are those of their keys and values. -/
theorem parse_eq_readLines {l : Lexer Kind} (hsize : source.size < wordCount)
    (hl : tokenize source = .ok l) (hdone : l.state = .done) :
    Document.parse source = .ok (Document.readLines source) ∧
      ∀ s ∈ (Document.readLines source).sections, ∀ e ∈ s.entries, e.Sliced source := by
  obtain ⟨-, hall⟩ := tokens_eq_of_done hsize hl hdone
  have hfront : source.text = [] ++ source.text := rfl
  have hsliced : ∀ row ∈ rows source, ∀ e, row.item = .entry e → e.Sliced source :=
    sliced_rowsFrom 0 hfront hall
  have hempty : Progress.start.Forall (Entry.Sliced source) :=
    ⟨fun s hs => absurd hs List.not_mem_nil, fun e he => absurd he List.not_mem_nil⟩
  exact ⟨(parse_of_wellFormed hsize hall).2, (hempty.foldl hsliced).sections⟩

/-- A key above the first header, and a key without a value under it. -/
theorem parse_eq_readLines_header :
    Document.parse (Source.ofText "a=b c ;d\r\n[ s ]\n k:".toList) = .ok ⟨[
      ⟨none, ⟨0, 10⟩, 1, [⟨"a".toList, "b c".toList, ⟨0, 1⟩, some ⟨2, 5⟩, 1⟩]⟩,
      ⟨some "s".toList, ⟨10, 19⟩, 2, [⟨"k".toList, [], ⟨17, 18⟩, none, 3⟩]⟩]⟩ := by
  have hsize : (Source.ofText "a=b c ;d\r\n[ s ]\n k:".toList).size < wordCount := by decide
  have hall : (match tokenize (Source.ofText "a=b c ;d\r\n[ s ]\n k:".toList) with
      | .ok l => l.isDone
      | .error _ => false) = true := by decide +kernel
  cases htokenize : tokenize (Source.ofText "a=b c ;d\r\n[ s ]\n k:".toList) with
  | error fault =>
      rw [htokenize] at hall
      exact absurd hall (by simp)
  | ok l =>
      rw [htokenize] at hall
      have hdone : l.state = .done := of_decide_eq_true hall
      have hread : Document.readLines (Source.ofText "a=b c ;d\r\n[ s ]\n k:".toList) = ⟨[
          ⟨none, ⟨0, 10⟩, 1, [⟨"a".toList, "b c".toList, ⟨0, 1⟩, some ⟨2, 5⟩, 1⟩]⟩,
          ⟨some "s".toList, ⟨10, 19⟩, 2, [⟨"k".toList, [], ⟨17, 18⟩, none, 3⟩]⟩]⟩ := by
        decide +kernel
      rw [← hread]
      exact (parse_eq_readLines hsize htokenize hdone).1

end RuleLexer.Ini
