import RuleLexer.Proofs.Ini.Document
import Mathlib.Data.List.Chain

/-!
# The spans of sections

The sections of a parsed document lie side by side. A section begins with
the line of its header, or with the source if it has no name, and it ends
where the next one begins or where the source ends. Its entries lie within
it, and the lines of headers and entries are in order.

Rows lie side by side as well, and a row either extends the section that is
open or opens another one behind it.
-/

namespace RuleLexer

def Span.Within (inner outer : Span) : Prop :=
  outer.start ≤ inner.start ∧ inner.start ≤ inner.stop ∧ inner.stop ≤ outer.stop

namespace Ini

open Text

structure Entry.Within (e : Entry) (span : Span) : Prop where
  key : e.keySpan.Within span
  value : ∀ own ∈ e.valueSpan, own.Within span

theorem Entry.Within.mono {e : Entry} {a b : Span} (h : e.Within a) (hstart : b.start ≤ a.start)
    (hstop : a.stop ≤ b.stop) : e.Within b := by
  have hmono (own : Span) (hown : own.Within a) : own.Within b :=
    ⟨Nat.le_trans hstart hown.1, hown.2.1, Nat.le_trans hown.2.2 hstop⟩
  exact ⟨hmono _ h.key, fun own hvalue => hmono own (h.value own hvalue)⟩

namespace Section

/-- The line of the section is a header with its name, and the section starts where this line
does. -/
def BeginsAtHeader (source : Source) (s : Section) : Prop :=
  ∃ (i : Nat) (indent : Gap) (name : Word isNameChar) (gap : Gap) (note : Option Note),
    (lines source.text)[i]? = some (Line.mk indent (.header name gap) note).text ∧
    source.lines.starts[i]? = some s.span.start ∧ s.line = i + 1 ∧ s.name = some (trim name.text)

structure Placed (source : Source) (s : Section) : Prop where
  ordered : s.span.Ordered
  nameless : s.name = none → s.span.start = 0 ∧ s.line = 1
  named : s.name ≠ none → s.BeginsAtHeader source
  entries : ∀ e ∈ s.entries, e.Within s.span

/-- The lines of the header, if there is one, and of the entries. -/
def lineNumbers (s : Section) : List Nat :=
  (if s.name = none then [] else [s.line]) ++ s.entries.map (·.line)

/-- The section with more lines, which hold these entries. -/
def grow (s : Section) (stop : Nat) (es : List Entry) : Section :=
  { s with span := ⟨s.span.start, stop⟩, entries := s.entries ++ es }

theorem lineNumbers_grow (s : Section) (stop : Nat) (es : List Entry) :
    (s.grow stop es).lineNumbers = s.lineNumbers ++ es.map (·.line) := by
  rw [lineNumbers, lineNumbers, grow, List.map_append, ← List.append_assoc]

theorem Placed.grow {source : Source} {s : Section} (h : s.Placed source) {stop : Nat}
    (hstop : s.span.stop ≤ stop) {es : List Entry} (hes : ∀ e ∈ es, e.Within ⟨s.span.stop, stop⟩) :
    (s.grow stop es).Placed source where
  ordered := Nat.le_trans h.ordered hstop
  nameless := h.nameless
  named := h.named
  entries := by
    intro e he
    rcases List.mem_append.mp he with hold | hnew
    · exact (h.entries e hold).mono (Nat.le_refl _) hstop
    · exact (hes e hnew).mono h.ordered (Nat.le_refl _)

end Section

/-- Sections that lie side by side up to an offset, on the first `n` lines of a source. -/
structure Tiled (source : Source) (n stop : Nat) (ss : List Section) : Prop where
  follows : ss.IsChain fun s next => s.span.stop = next.span.start
  last : ∀ s ∈ ss.getLast?, s.span.stop = stop
  namesBehind : ∀ s ∈ ss.tail, s.name ≠ none
  placed : ∀ s ∈ ss, s.Placed source
  increasing : (ss.flatMap Section.lineNumbers).Pairwise (· < ·)
  lines_le : ∀ i ∈ ss.flatMap Section.lineNumbers, i ≤ n

namespace Tiled

variable {source : Source} {n offset stop : Nat} {ss : List Section} {s : Section}

theorem nil (source : Source) (n stop : Nat) : Tiled source n stop [] where
  follows := .nil
  last := by simp
  namesBehind := by simp
  placed := by simp
  increasing := .nil
  lines_le := by simp

theorem named_tail_append :
    (∀ t ∈ (ss ++ [s]).tail, t.name ≠ none) ↔
      (∀ t ∈ ss.tail, t.name ≠ none) ∧ (ss ≠ [] → s.name ≠ none) := by
  cases ss with
  | nil => simp
  | cons first rest => simp [or_imp, forall_and]

theorem lines_append (h : Tiled source n offset ss) {new : List Nat}
    (hnew : new = [] ∨ new = [n + 1]) :
    (ss.flatMap Section.lineNumbers ++ new).Pairwise (· < ·) ∧
      ∀ i ∈ ss.flatMap Section.lineNumbers ++ new, i ≤ n + 1 := by
  have hsingle : new.Pairwise (· < ·) ∧ ∀ i ∈ new, i = n + 1 := by
    rcases hnew with rfl | rfl
    · simp
    · simp
  refine ⟨List.pairwise_append.mpr ⟨h.increasing, hsingle.1, ?_⟩, ?_⟩
  · intro i hi j hj
    have hle := h.lines_le i hi
    have heq := hsingle.2 j hj
    omega
  · intro i hi
    rcases List.mem_append.mp hi with hold | hadded
    · exact Nat.le_succ_of_le (h.lines_le i hold)
    · exact Nat.le_of_eq (hsingle.2 i hadded)

/-- The last section takes in one more line. -/
theorem grow (h : Tiled source n offset (ss ++ [s])) (hstop : offset ≤ stop) (es : List Entry)
    (hes : ∀ e ∈ es, e.Within ⟨offset, stop⟩)
    (hnew : es.map (·.line) = [] ∨ es.map (·.line) = [n + 1]) :
    Tiled source (n + 1) stop (ss ++ [s.grow stop es]) := by
  have hlast : s.span.stop = offset := h.last s (by simp)
  have hlines : (ss ++ [s.grow stop es]).flatMap Section.lineNumbers =
      (ss ++ [s]).flatMap Section.lineNumbers ++ es.map (·.line) := by
    simp [Section.lineNumbers_grow]
  obtain ⟨hincreasing, hle⟩ := h.lines_append hnew
  refine ⟨?_, by simp [Section.grow], ?_, ?_, hlines ▸ hincreasing, hlines ▸ hle⟩
  · obtain ⟨hchain, -, hjoin⟩ := List.isChain_append.mp h.follows
    exact List.isChain_append.mpr ⟨hchain, .singleton _, by simpa [Section.grow] using hjoin⟩
  · obtain ⟨hnames, hname⟩ := named_tail_append.mp h.namesBehind
    exact named_tail_append.mpr ⟨hnames, hname⟩
  · obtain ⟨hold, hs⟩ := List.forall_mem_append.mp h.placed
    rw [List.forall_mem_singleton] at hs
    have hgrown := hs.grow (hlast ▸ hstop) fun e he => hlast ▸ hes e he
    exact List.forall_mem_append.mpr ⟨hold, List.forall_mem_singleton.mpr hgrown⟩

/-- A section behind the last one, which has its header and nothing else. -/
theorem push (h : Tiled source n offset ss) (hs : s.Placed source) (hname : s.name ≠ none)
    (hspan : s.span = ⟨offset, stop⟩) (hline : s.line = n + 1) (hentries : s.entries = []) :
    Tiled source (n + 1) stop (ss ++ [s]) := by
  have hnumbers : s.lineNumbers = [n + 1] := by
    simp [Section.lineNumbers, hname, hline, hentries]
  have hlines : (ss ++ [s]).flatMap Section.lineNumbers =
      ss.flatMap Section.lineNumbers ++ [n + 1] := by
    simp [hnumbers]
  obtain ⟨hincreasing, hle⟩ := h.lines_append (.inr rfl)
  refine ⟨?_, by simp [hspan], ?_, ?_, hlines ▸ hincreasing, hlines ▸ hle⟩
  · refine List.isChain_append.mpr ⟨h.follows, .singleton _, ?_⟩
    intro t ht next hnext
    obtain rfl : s = next := by simpa using hnext
    rw [h.last t ht, hspan]
  · exact named_tail_append.mpr ⟨h.namesBehind, fun _ => hname⟩
  · exact List.forall_mem_append.mpr ⟨h.placed, List.forall_mem_singleton.mpr hs⟩

end Tiled

/-- A row, with what it puts into a document, in its place. -/
structure Row.Placed (source : Source) (row : Row) : Prop where
  start_le : row.start ≤ row.stop
  header : ∀ name, row.item = .header name →
    Section.BeginsAtHeader source ⟨some name, ⟨row.start, row.stop⟩, row.number, []⟩
  entry : ∀ e, row.item = .entry e → e.Within ⟨row.start, row.stop⟩ ∧ e.line = row.number

/-- Rows that lie side by side from one offset to another, below `n` other lines. -/
inductive RowsTile (source : Source) : Nat → Nat → List Row → Nat → Prop
  | nil (n stop : Nat) : RowsTile source n stop [] stop
  | cons {n stop : Nat} {row : Row} {rows : List Row} : row.Placed source → row.number = n + 1 →
      RowsTile source (n + 1) row.stop rows stop →
      RowsTile source n row.start (row :: rows) stop

namespace Progress

variable {source : Source} {n offset stop : Nat} {p : Progress}

/-- The sections so far lie side by side. The complete ones count. -/
structure Tiled (source : Source) (n stop : Nat) (p : Progress) : Prop where
  tiled : Ini.Tiled source n stop (p.complete ++ [p.current])
  kept : ∀ s ∈ p.complete, s.name = none → s.entries ≠ []

theorem Tiled.sections (h : p.Tiled source n stop) :
    Ini.Tiled source n stop p.sections ∧ ∀ s ∈ p.sections, s.name = none → s.entries ≠ [] := by
  unfold Progress.sections
  split
  · rename_i hdrop
    -- Only the first section has no name, so nothing stands before the one that is dropped.
    have hfirst : p.complete = [] := by
      by_contra hne
      exact (Tiled.named_tail_append.mp h.tiled.namesBehind).2 hne hdrop.1
    rw [hfirst]
    exact ⟨.nil _ _ _, by simp⟩
  · rename_i hkeep
    refine ⟨h.tiled, ?_⟩
    intro s hs hname
    rcases List.mem_append.mp hs with hcomplete | hcurrent
    · exact h.kept s hcomplete hname
    · obtain rfl := List.mem_singleton.mp hcurrent
      exact fun hempty => hkeep ⟨hname, hempty⟩

theorem Tiled.addRow {row : Row} (h : p.Tiled source n row.start) (hrow : row.Placed source)
    (hnumber : row.number = n + 1) : (p.addRow row).Tiled source (n + 1) row.stop := by
  unfold Progress.addRow
  cases hitem : row.item with
  | nothing =>
      have hgrow := h.tiled.grow hrow.start_le [] (by simp) (.inl rfl)
      rw [Section.grow, List.append_nil] at hgrow
      exact ⟨hgrow, h.kept⟩
  | header name =>
      obtain ⟨hsections, hkept⟩ := h.sections
      have hplaced : Section.Placed source
          ⟨some name, ⟨row.start, row.stop⟩, row.number, []⟩ :=
        ⟨hrow.start_le, by simp, fun _ => hrow.header name hitem, by simp⟩
      exact ⟨hsections.push hplaced (by simp) rfl hnumber rfl, hkept⟩
  | entry e =>
      obtain ⟨hwithin, hline⟩ := hrow.entry e hitem
      have hgrow := h.tiled.grow hrow.start_le [e] (by simpa using hwithin)
        (.inr (by simp [hline, hnumber]))
      exact ⟨hgrow, h.kept⟩

theorem Tiled.foldl (h : p.Tiled source n offset) {rows : List Row}
    (hrows : RowsTile source n offset rows stop) :
    (rows.foldl Progress.addRow p).Tiled source (n + rows.length) stop := by
  induction hrows generalizing p with
  | nil => exact h
  | cons hrow hnumber _ ih =>
      have hrun := ih (h.addRow hrow hnumber)
      rwa [Nat.add_assoc, Nat.add_comm 1] at hrun

theorem tiled_start (source : Source) : start.Tiled source 0 0 where
  tiled := by
    change Ini.Tiled source 0 0 [⟨none, Span.zero, 1, []⟩]
    have hplaced : Section.Placed source ⟨none, Span.zero, 1, []⟩ :=
      ⟨Nat.le_refl 0, fun _ => ⟨rfl, rfl⟩, fun h => absurd rfl h, by simp⟩
    refine ⟨.singleton _, ?_, by simp, by simpa using hplaced, .nil, ?_⟩
    · intro s hs
      obtain rfl := Option.some.inj hs
      rfl
    · intro i hi
      exact absurd hi List.not_mem_nil
  kept := by simp [start]

end Progress

variable {source : Source}

theorem within_entryOf {indent before after : Gap} {note : Option Note} {key : Word isKeyChar}
    {separator : Separator} {value : Option (Value × Gap)} (n start : Nat) (brk : Break) :
    (entryOf n start indent before after key separator value).Within ⟨start, start + byteSize
      ((Line.mk indent (.entry key before separator after value) note).text ++ brk.text)⟩ := by
  rw [Line.text_entry]
  constructor
  · simp only [entryOf, Span.Within, byteSize_append]
    omega
  · cases value with
    | none => simp [entryOf]
    | some found =>
        intro own hown
        obtain rfl := Option.some.inj hown
        simp only [Span.Within, Value.optionPieces, Piece.join_append, Value.join_pieces,
          byteSize_append, byteSize_cons]
        omega

theorem placed_row {front text rest : Text} {brk : Break} {l : Line} {n : Nat}
    (hfront : StartsLine front n) (htext : source.text = front ++ text)
    (hlines : (lines source.text).drop n = lines text) (hbegins : Begins text l.text brk rest) :
    Row.Placed source ⟨n + 1, byteSize front, byteSize front + byteSize (l.text ++ brk.text),
      l.text⟩ := by
  have hline : (lines source.text)[n]? = some l.text := by
    rw [← List.head?_drop, hlines, hbegins.lines_eq]
    rfl
  have hstart : source.lines.starts[n]? = some (byteSize front) := by
    rw [source.lines_eq, htext]
    exact LineTable.starts_of_startsLine hfront text
  refine ⟨Nat.le_add_right _ _, ?_, ?_⟩
  · intro name hitem
    obtain ⟨word, gap, hbody, rfl⟩ := exists_of_item_header hitem
    obtain ⟨indent, body, note⟩ := l
    obtain rfl : body = _ := hbody
    exact ⟨n, indent, word, gap, note, hline, hstart, rfl, rfl⟩
  · intro e hitem
    obtain ⟨key, before, separator, after, value, hbody, rfl⟩ := exists_of_item_entry hitem
    obtain ⟨indent, body, note⟩ := l
    obtain rfl : body = _ := hbody
    exact ⟨within_entryOf _ _ brk, rfl⟩

theorem tile_rowsFrom {front text : Text} {n : Nat} (hfront : StartsLine front n)
    (htext : source.text = front ++ text) (hlines : (lines source.text).drop n = lines text)
    (hall : ∀ line ∈ lines text, WellFormed line) :
    RowsTile source n (byteSize front) (rowsFrom n (byteSize front) text) source.size := by
  obtain ⟨l, brk, rest, hbegins, hrest⟩ := exists_line hall
  rw [rowsFrom_of_begins hbegins]
  refine .cons (placed_row hfront htext hlines hbegins) rfl ?_
  have hsplit := htext.trans (hbegins.append_eq front)
  have hoffset : byteSize front + byteSize (l.text ++ brk.text) =
      byteSize (front ++ (l.text ++ brk.text)) := (byteSize_append _ _).symm
  by_cases hbrk : brk = .none
  · rw [if_pos hbrk]
    rw [hbegins.last hbrk, List.append_nil] at hsplit
    rw [hoffset, Source.size, hsplit]
    exact .nil _ _
  · rw [if_neg hbrk]
    have hlt := hbegins.length_lt hbrk
    have hnext := hfront.append (hbegins.startsLine hbrk)
    have hbelow : (lines source.text).drop (n + 1) = lines rest := by
      rw [← List.drop_drop, hlines, hbegins.lines_eq, if_neg hbrk]
      rfl
    simp only [hoffset]
    exact tile_rowsFrom hnext hsplit hbelow (hrest hbrk)
termination_by text.length

/-- The sections of an accepted source lie side by side up to its end. -/
theorem parse_tiled {l : Lexer Kind} (hsize : source.size < wordCount)
    (hl : tokenize source = .ok l) (hdone : l.state = .done) :
    ∃ d, Document.parse source = .ok d ∧
      Tiled source (lines source.text).length source.size d.sections ∧
      ∀ s ∈ d.sections, s.name = none → s.entries ≠ [] := by
  obtain ⟨-, hall⟩ := tokens_eq_of_done hsize hl hdone
  have hfront : source.text = [] ++ source.text := rfl
  have hrows : RowsTile source 0 0 (rows source) source.size :=
    tile_rowsFrom startsLine_nil hfront rfl hall
  have hrun := (Progress.tiled_start source).foldl hrows
  have hcount : 0 + (rows source).length = (lines source.text).length := by
    rw [rows, rowsFrom, List.length_mapIdx, Nat.zero_add]
  rw [hcount] at hrun
  exact ⟨_, (parse_of_wellFormed hsize hall).2, hrun.sections⟩

/-- Indentation belongs to the section of the header behind it, also at the end of the source. -/
theorem parse_tiled_indented :
    Tiled (.ofText "k=v\n [s]\n\tj:\n ".toList) 4 14 [
      ⟨none, ⟨0, 4⟩, 1, [⟨"k".toList, "v".toList, ⟨0, 1⟩, some ⟨2, 3⟩, 1⟩]⟩,
      ⟨some "s".toList, ⟨4, 14⟩, 2, [⟨"j".toList, [], ⟨10, 11⟩, none, 3⟩]⟩] := by
  have hsize : (Source.ofText "k=v\n [s]\n\tj:\n ".toList).size < wordCount := by decide
  obtain ⟨d, hparse, htiled, -⟩ := parse_tiled hsize rfl rfl
  cases hparse
  exact htiled

end Ini

end RuleLexer
