import RuleLexer.Proofs.Lexer.Primitive

/-!
# What the matchers of a window find

A window that is cut from a source covers a part of its text, or has an
empty text because its start or its end lies within a character. A matcher
finds the start of the text it asks for, and what it finds lies within the
window. The offsets computed on the way stay within the word range as long
as texts are at most half of it, also where there is no match.
-/

namespace RuleLexer

namespace Text

theorem literalFront_ne_nil {literal text : Text} :
    literalFront literal text ≠ [] ↔ literal ≠ [] ∧ literal <+: text := by
  rw [← startsWith_iff, literalFront]
  by_cases hstart : text.startsWith literal = true
  · simp [hstart]
  · simp [hstart]

theorem literalFront_eq_self {literal text : Text} (h : literal <+: text) :
    literalFront literal text = literal := if_pos (startsWith_iff.mpr h)

theorem singleton_isPrefix {c : Char} {text : Text} : [c] <+: text ↔ text.head? = some c := by
  cases text with
  | nil => simp
  | cons d text => simp [eq_comm]

end Text

namespace Window

/-- The span of a text at the start of the window. -/
def lead (w : Window) (front : Text) : Span :=
  ⟨w.span.start, w.span.start + Text.byteSize front⟩

/-- The text of the source is `before`, the text of the window and `after`, and the span says so. -/
structure Covers (w : Window) (before after : Text) : Prop where
  text : w.source.text = before ++ (w.text ++ after)
  start : Text.byteSize before = w.span.start
  stop : w.span.stop = w.span.start + Text.byteSize w.text

theorem exists_covers {w : Window} (hne : w.text ≠ []) : ∃ before after, w.Covers before after := by
  have htext := w.text_eq
  rw [Source.slice] at htext
  cases h : Text.between? w.source.text w.span with
  | none =>
      rw [h, Option.getD_none] at htext
      exact absurd htext hne
  | some found =>
      rw [h, Option.getD_some] at htext
      obtain ⟨before, after, hsplit, hstart, hstop⟩ := Text.between?_eq_some.mp h
      rw [← htext] at hsplit hstop
      exact ⟨before, after, hsplit, hstart, hstop⟩

theorem exists_covers_of_isPrefix {w : Window} {front : Text} (hne : front ≠ [])
    (hpre : front <+: w.text) : ∃ before after, w.Covers before after := by
  refine exists_covers fun hempty => ?_
  rw [hempty, List.prefix_nil] at hpre
  exact hne hpre

namespace Covers

variable {w : Window} {before after front : Text}

theorem slice_lead (h : w.Covers before after) (hfront : front <+: w.text) :
    w.source.slice (w.lead front) = front := by
  obtain ⟨rest, hrest⟩ := hfront
  have htext : w.source.text = before ++ (front ++ (rest ++ after)) := by
    rw [h.text, ← hrest, List.append_assoc]
  rw [lead, ← h.start]
  exact Source.slice_of_eq_append htext

theorem isBoundary_lead (h : w.Covers before after) (hfront : front <+: w.text) :
    Text.isBoundary w.source.text (w.lead front).stop = true := by
  obtain ⟨rest, hrest⟩ := hfront
  refine Text.isBoundary_iff.mpr ⟨before ++ front, rest ++ after, ?_, ?_⟩
  · rw [h.text, ← hrest]
    simp
  · rw [Text.byteSize_append, h.start, lead]

theorem contains_lead (h : w.Covers before after) (hfront : front <+: w.text) :
    w.span.contains (w.lead front) = true := by
  obtain ⟨rest, hrest⟩ := hfront
  have hsize := congrArg Text.byteSize hrest
  rw [Text.byteSize_append] at hsize
  have hstop := h.stop
  have hend : w.span.start + Text.byteSize front ≤ w.span.stop := by omega
  simp [Span.contains, lead, hend]

theorem line_eq (h : w.Covers before after) : w.line = w.lead w.lineText := by
  unfold line
  split
  · rfl
  · rename_i hfeed
    have hline : w.lineText = w.text := if_neg hfeed
    rw [hline, lead, ← h.stop]

end Covers

theorem lineText_isPrefix (w : Window) : w.lineText <+: w.text := Text.firstLine_isPrefix w.text

theorem slice_line (w : Window) : w.source.slice w.line = w.lineText := by
  by_cases hempty : w.text = []
  · have hfeed : '\n' ∉ w.text := by simp [hempty]
    rw [line, if_neg hfeed, lineText, if_neg hfeed, ← w.text_eq]
  · obtain ⟨before, after, h⟩ := exists_covers hempty
    rw [h.line_eq, h.slice_lead w.lineText_isPrefix]

/-- A window of a source, of all of it or of an ordered span of it, cut at its start any number of
times. -/
inductive CutFrom (source : Source) : Window → Prop
  | full : CutFrom source (full source)
  | new {span : Span} {w : Window} : span.Ordered → Window.new source span = .ok w →
      CutFrom source w
  | trimStart {w w' : Window} {n : Nat} : CutFrom source w → w.trimStart n = .ok w' →
      CutFrom source w'

/-- A window of the source whose bounds are in order and lie within the source. -/
structure Within (source : Source) (w : Window) : Prop where
  source_eq : w.source = source
  ordered : w.span.start ≤ w.span.stop
  stop_le : w.span.stop ≤ source.size

theorem CutFrom.within {source : Source} {w : Window} (h : CutFrom source w) :
    w.Within source := by
  induction h with
  | full => exact ⟨rfl, Nat.zero_le _, Nat.le_refl _⟩
  | @new span w hspan hnew =>
      unfold Window.new at hnew
      split at hnew
      · simp at hnew
      · rename_i hstop
        split at hnew
        · cases hnew
          exact ⟨rfl, hspan, Nat.le_of_not_lt hstop⟩
        · simp at hnew
  | @trimStart w w' n _ htrim ih =>
      unfold Window.trimStart at htrim
      split at htrim
      · cases htrim
        refine ⟨by rw [advance_source, ih.source_eq], ?_, ?_⟩
        · rw [advance_span]
          exact Nat.min_le_right _ _
        · rw [advance_span]
          exact ih.stop_le
      · simp at htrim

theorem Within.lead_stop_le {source : Source} {w : Window} (h : w.Within source) {front : Text}
    (hfront : front <+: w.text) : (w.lead front).stop ≤ source.size := by
  by_cases hempty : w.text = []
  · rw [hempty, List.prefix_nil] at hfront
    subst hfront
    exact Nat.le_trans h.ordered h.stop_le
  · obtain ⟨before, after, hcovers⟩ := exists_covers hempty
    have hinside := hcovers.contains_lead hfront
    simp only [Span.contains, Bool.and_eq_true, decide_eq_true_eq] at hinside
    exact Nat.le_trans hinside.2 h.stop_le

/-- What a matcher looks for at the start of a window. -/
inductive Matcher where
  | char (c : Char)
  | literal (text : Text)
  | run (p : Char → Bool)
  | pattern (p : Anchored)

namespace Matcher

def find? (m : Matcher) (w : Window) : Option Span :=
  match m with
  | char c => w.char? c
  | literal text => w.literal? text
  | run p => w.run? p
  | pattern p => w.lineMatch? p.prefixLength

/-- The start of the text that the matcher finds there, empty where there is no match. -/
def front : Matcher → Text → Text
  | char c => Text.literalFront [c]
  | literal text => Text.literalFront text
  | run p => List.takeWhile p
  | pattern p => p.front

theorem finds (m : Matcher) : Finds m.find? m.front := by
  cases m with
  | char c => exact finds_char c
  | literal text => exact finds_literal text
  | run p => exact finds_run p
  | pattern p => exact finds_lineMatch p

theorem find?_eq_some {m : Matcher} {w : Window} {found : Span} :
    m.find? w = some found ↔ m.front w.text ≠ [] ∧ found = w.lead (m.front w.text) := by
  by_cases hempty : m.front w.text = []
  · rw [m.finds.eq_none w hempty]
    simp [hempty]
  · rw [m.finds.eq_some w hempty, Option.some.injEq, eq_comm]
    simp [hempty, lead]

end Matcher

/-- The longest start of a text whose characters all satisfy `p`. -/
structure LongestRun (p : Char → Bool) (run text : Text) : Prop where
  isPrefix : run <+: text
  satisfies : ∀ c ∈ run, p c = true
  longest : ∀ other, other <+: text → (∀ c ∈ other, p c = true) → other <+: run

theorem longestRun_takeWhile (p : Char → Bool) (text : Text) :
    LongestRun p (text.takeWhile p) text where
  isPrefix := List.takeWhile_prefix p
  satisfies := fun _ hc => List.mem_takeWhile_imp hc
  longest := by
    rintro other ⟨rest, rfl⟩ hother
    rw [List.takeWhile_append_of_pos hother]
    exact List.prefix_append other _

theorem LongestRun.eq_takeWhile {p : Char → Bool} {run text : Text} (h : LongestRun p run text) :
    run = text.takeWhile p := by
  have hrun := longestRun_takeWhile p text
  have hle := hrun.longest run h.isPrefix h.satisfies
  have hge := h.longest _ hrun.isPrefix hrun.satisfies
  exact hle.eq_of_length_le hge.length_le

namespace Matcher

/-- What it means that a matcher finds a span in a window. -/
def Means (w : Window) (found : Span) : Matcher → Prop
  | char c => w.text.head? = some c ∧ found = w.lead [c]
  | literal text => text ≠ [] ∧ text <+: w.text ∧ found = w.lead text
  | run p => (∃ c, w.text.head? = some c ∧ p c = true) ∧
      ∃ front, LongestRun p front w.text ∧ found = w.lead front
  | pattern p => ∃ n, p.prefixLength (w.source.slice w.line) = some n ∧
      found = ⟨w.span.start, w.span.start + n⟩

theorem find?_literal (w : Window) (text : Text) (found : Span) :
    (literal text).find? w = some found ↔ Means w found (literal text) := by
  rw [find?_eq_some, front, Text.literalFront_ne_nil]
  constructor
  · rintro ⟨⟨hne, hpre⟩, hfound⟩
    rw [Text.literalFront_eq_self hpre] at hfound
    exact ⟨hne, hpre, hfound⟩
  · rintro ⟨hne, hpre, hfound⟩
    rw [Text.literalFront_eq_self hpre]
    exact ⟨⟨hne, hpre⟩, hfound⟩

theorem find?_char (w : Window) (c : Char) (found : Span) :
    (char c).find? w = some found ↔ Means w found (char c) := by
  have h := find?_literal w [c] found
  rw [find?_eq_some] at h ⊢
  have hmeans : Means w found (literal [c]) ↔ Means w found (char c) := by
    simp [Means, Text.singleton_isPrefix]
  exact h.trans hmeans

theorem find?_run (w : Window) (p : Char → Bool) (found : Span) :
    (run p).find? w = some found ↔ Means w found (run p) := by
  have hhead : w.text.takeWhile p ≠ [] ↔ ∃ c, w.text.head? = some c ∧ p c = true := by
    cases w.text with
    | nil => simp
    | cons c text =>
        by_cases hc : p c = true
        · simp [hc]
        · simp [hc]
  rw [find?_eq_some, front, hhead]
  constructor
  · rintro ⟨hc, hfound⟩
    exact ⟨hc, _, longestRun_takeWhile p w.text, hfound⟩
  · rintro ⟨hc, front, hrun, hfound⟩
    rw [← hrun.eq_takeWhile]
    exact ⟨hc, hfound⟩

theorem find?_pattern (w : Window) (p : Anchored) (found : Span) :
    (pattern p).find? w = some found ↔ Means w found (pattern p) := by
  rw [Means, slice_line, find?, lineMatch?, Option.map_eq_some_iff]
  simp only [eq_comm]

theorem find?_iff_means (m : Matcher) (w : Window) (found : Span) :
    m.find? w = some found ↔ m.Means w found := by
  cases m with
  | char c => exact find?_char w c found
  | literal text => exact find?_literal w text found
  | run p => exact find?_run w p found
  | pattern p => exact find?_pattern w p found

end Matcher

/-- The span begins where the window begins, is not empty, lies within the window and ends between
two characters. -/
structure Admits (w : Window) (found : Span) : Prop where
  start_eq : found.start = w.span.start
  nonempty : found.start < found.stop
  inside : w.span.contains found = true
  boundary : Text.isBoundary w.source.text found.stop = true

theorem Matcher.admits {m : Matcher} {w : Window} {found : Span} (h : m.find? w = some found) :
    w.Admits found := by
  obtain ⟨hne, rfl⟩ := find?_eq_some.mp h
  have hpre := m.finds.isPrefix w.text
  obtain ⟨before, after, hcovers⟩ := exists_covers_of_isPrefix hne hpre
  have hsize : Text.byteSize (m.front w.text) ≠ 0 := fun h => hne (Text.byteSize_eq_zero.mp h)
  refine ⟨rfl, ?_, hcovers.contains_lead hpre, hcovers.isBoundary_lead hpre⟩
  simp only [lead]
  omega

/-- The length of a line that ends before a newline, without a carriage return at its end. -/
def lengthWithoutReturn (before : Text) : Except Fault Nat :=
  let n := Text.byteSize before
  if before.getLast? = some '\r' then if 1 ≤ n then .ok (n - 1) else .error .subOverflow
  else .ok n

/-- The current line, with every sum and difference of offsets checked. -/
def lineChecked (w : Window) : Except Fault Span :=
  if '\n' ∈ w.text then
    (lengthWithoutReturn (w.text.takeWhile (· ≠ '\n'))).bind (Span.withLen w.span.start)
  else .ok w.span

/-- What the matcher finds, with every sum of offsets checked. All but the span of a pattern are
built before it is known whether there is a match. -/
def Matcher.findChecked (m : Matcher) (w : Window) : Except Fault (Option Span) :=
  match m with
  | char c => (Span.withLen w.span.start c.utf8Size).map fun span =>
      if w.text.head? = some c then some span else none
  | literal text => (Span.withLen w.span.start (Text.byteSize text)).map fun span =>
      if !text.isEmpty && w.text.startsWith text then some span else none
  | run p =>
      let n := Text.byteSize (w.text.takeWhile p)
      (Span.withLen w.span.start n).map fun span => if 0 < n then some span else none
  | pattern p => w.lineChecked.bind fun line =>
      match p.prefixLength (w.source.slice line) with
      | some n => (Span.withLen w.span.start n).map some
      | none => .ok none

/-- A literal is a text in memory, so it fills at most half of the word range. -/
def Matcher.Sized : Matcher → Prop
  | literal text => Text.byteSize text < wordCount / 2
  | _ => True

section Checked

variable {source : Source} {w : Window}

theorem withLen_eq {start n : Nat} (h : start + n < wordCount) :
    Span.withLen start n = .ok ⟨start, start + n⟩ := if_pos h

theorem lengthWithoutReturn_eq (before : Text) :
    lengthWithoutReturn before = .ok (Text.byteSize (dropReturn before)) := by
  by_cases hreturn : before.getLast? = some '\r'
  · obtain ⟨front, rfl⟩ := List.getLast?_eq_some_iff.mp hreturn
    have hlen : Text.byteSize (front ++ ['\r']) = Text.byteSize front + 1 := by
      rw [Text.byteSize_append]
      rfl
    simp [lengthWithoutReturn, Text.dropReturn_append_return, hlen]
  · simp [lengthWithoutReturn, Text.dropReturn_eq_self hreturn, hreturn]

theorem Within.withLen_lead (h : w.Within source) (hsize : source.size < wordCount / 2)
    {front : Text} (hfront : front <+: w.text) :
    Span.withLen w.span.start (Text.byteSize front) = .ok (w.lead front) := by
  have hstop := h.lead_stop_le hfront
  simp only [lead] at hstop
  exact withLen_eq (by omega)

theorem Within.lineChecked_eq (h : w.Within source) (hsize : source.size < wordCount / 2) :
    w.lineChecked = .ok w.line := by
  unfold lineChecked line
  split
  · rename_i hfeed
    have hline : w.lineText = dropReturn (w.text.takeWhile (· ≠ '\n')) := if_pos hfeed
    rw [lengthWithoutReturn_eq, bind_ok, ← hline]
    exact h.withLen_lead hsize w.lineText_isPrefix
  · rfl

theorem Matcher.findChecked_eq (h : w.Within source) (hsize : source.size < wordCount / 2)
    {m : Matcher} (hm : m.Sized) : m.findChecked w = .ok (m.find? w) := by
  have hstart : w.span.start ≤ source.size := Nat.le_trans h.ordered h.stop_le
  cases m with
  | char c =>
      have hc := c.utf8Size_le_four
      have hfour : 4 < wordCount / 2 := by decide
      rw [findChecked, withLen_eq (by omega), find?, char?]
      cases w.text with
      | nil => rfl
      | cons d text => simp [Except.map]
  | literal text =>
      have htext : Text.byteSize text < wordCount / 2 := hm
      rw [findChecked, withLen_eq (by omega)]
      rfl
  | run p =>
      rw [findChecked, h.withLen_lead hsize (List.takeWhile_prefix p)]
      rfl
  | pattern p =>
      rw [findChecked, h.lineChecked_eq hsize, bind_ok, slice_line, find?, lineMatch?]
      cases hlength : p.prefixLength w.lineText with
      | none => rfl
      | some n =>
          rw [Text.lineText_eq] at hlength
          obtain ⟨hpre, hn⟩ := Anchored.front_of_some hlength
          have hlead := h.withLen_lead hsize (hpre.trans w.lineText_isPrefix)
          rw [lead, hn] at hlead
          simp only [hlead]
          rfl

end Checked

/-- In every window of a source each matcher finds exactly what it asks for. What it finds is at
the start of the window and within it, and no offset on the way leaves the word range. -/
theorem matchers_find {source : Source} {w : Window} (hw : CutFrom source w)
    (hsize : source.size < wordCount / 2) :
    w.lineChecked = .ok w.line ∧ ∀ m : Matcher,
      (m.Sized → m.findChecked w = .ok (m.find? w)) ∧
      ∀ found, (m.find? w = some found ↔ m.Means w found) ∧
        (m.find? w = some found → w.Admits found) := by
  have h := hw.within
  refine ⟨h.lineChecked_eq hsize, ?_⟩
  intro m
  refine ⟨fun hm => Matcher.findChecked_eq h hsize hm, ?_⟩
  intro found
  exact ⟨m.find?_iff_means w found, Matcher.admits⟩

/-- Behind the accented letter the run is one byte long, and within that letter there is none. -/
theorem matchers_find_accent :
    let source := Source.exactly ['é', 'a', '\r', '\n', 'b']
    source.size < wordCount / 2 ∧
      (∃ w, CutFrom source w ∧ w.span = ⟨2, 6⟩ ∧ w.lineChecked = .ok ⟨2, 3⟩ ∧
        (Matcher.run (· ≠ '\r')).findChecked w = .ok (some ⟨2, 3⟩) ∧ w.Admits ⟨2, 3⟩) ∧
      ∃ w, CutFrom source w ∧ w.span = ⟨1, 6⟩ ∧
        (Matcher.run (· ≠ '\r')).findChecked w = .ok none := by
  intro source
  have hsize : source.size < wordCount / 2 := by decide
  have hcut (n : Nat) (hn : 0 + n < wordCount) : CutFrom source ((Window.full source).advance n) :=
    .trimStart .full (if_pos hn)
  have hbehind := hcut 2 (by decide)
  have hwithin := hcut 1 (by decide)
  obtain ⟨hline, hfind⟩ := matchers_find hbehind hsize
  obtain ⟨hchecked, hfound⟩ := hfind (.run (· ≠ '\r'))
  refine ⟨hsize, ⟨_, hbehind, by decide, ?_, ?_, (hfound ⟨2, 3⟩).2 (by decide)⟩, _, hwithin,
    by decide, ?_⟩
  · rw [hline]
    decide
  · rw [hchecked trivial]
    decide
  · rw [((matchers_find hwithin hsize).2 (.run (· ≠ '\r'))).1 trivial]
    decide

end Window

end RuleLexer
