import RuleLexer.Proofs.Lexer.Matchers

/-!
# Patterns stay on their line

A pattern sees the current line of a window and nothing else. So what it
matches ends before the line break, whatever the pattern asks for, and what
stands behind the first newline has no part in it.
-/

namespace RuleLexer

namespace Text

variable {front : Text}

theorem dropReturn_isPrefix (text : Text) : Window.dropReturn text <+: text := by
  unfold Window.dropReturn
  split
  · exact List.dropLast_prefix text
  · exact List.prefix_rfl

theorem firstLine_append (hfront : '\n' ∉ front) (rest : Text) :
    firstLine (front ++ '\n' :: rest) = Window.dropReturn front := by
  obtain ⟨brk, -, h⟩ := exists_begins_of_append hfront rest
  exact h.firstLine_eq

/-- The first line ends before every carriage return that a newline follows. -/
theorem firstLine_isPrefix_of_return (front rest : Text) :
    firstLine (front ++ '\r' :: '\n' :: rest) <+: front := by
  by_cases hfeed : '\n' ∈ front
  · obtain ⟨before, after, rfl, hbefore⟩ := List.eq_append_cons_of_mem hfeed
    have htext : before ++ '\n' :: after ++ '\r' :: '\n' :: rest =
        before ++ '\n' :: (after ++ '\r' :: '\n' :: rest) := by simp
    rw [htext, firstLine_append hbefore]
    exact (dropReturn_isPrefix before).trans (List.prefix_append _ _)
  · have htext : front ++ '\r' :: '\n' :: rest = (front ++ ['\r']) ++ '\n' :: rest := by simp
    have hreturn : '\n' ∉ front ++ ['\r'] := by simpa using hfeed
    have hline : firstLine (front ++ '\r' :: '\n' :: rest) = front := by
      rw [htext, firstLine_append hreturn, dropReturn_append_return]
    exact ⟨[], (List.append_nil _).trans hline⟩

end Text

namespace Window

theorem line_start (w : Window) : w.line.start = w.span.start := by
  unfold line
  split <;> rfl

theorem begins_line (w : Window) :
    ∃ brk rest, Text.Begins w.text (w.source.slice w.line) brk rest := by
  rw [slice_line, Text.lineText_eq]
  exact Text.exists_begins w.text

section LineMatch

variable {w : Window} {p : Anchored} {found : Span}

theorem lineMatch?_eq_some (h : w.lineMatch? p.prefixLength = some found) :
    ∃ front, front <+: w.lineText ∧ found = w.lead front ∧ w.source.slice found = front := by
  have hfront := p.front_isPrefix w.text
  obtain ⟨hne, rfl⟩ := (Matcher.find?_eq_some (m := .pattern p)).mp h
  obtain ⟨before, after, hcovers⟩ := exists_covers_of_isPrefix hne hfront
  exact ⟨p.front w.text, p.front_isPrefix_firstLine w.text, rfl, hcovers.slice_lead hfront⟩

theorem not_mem_lineMatch? (h : w.lineMatch? p.prefixLength = some found) :
    '\n' ∉ w.source.slice found := by
  obtain ⟨front, hpre, -, hslice⟩ := lineMatch?_eq_some h
  obtain ⟨brk, rest, hbegins⟩ := Text.exists_begins w.text
  rw [hslice]
  exact fun hfeed => hbegins.noFeed (hpre.subset hfeed)

theorem lineMatch?_stop_le (h : w.lineMatch? p.prefixLength = some found) {front rest : Text}
    (htext : w.text = front ++ '\r' :: '\n' :: rest) :
    found.stop ≤ w.span.start + Text.byteSize front := by
  obtain ⟨matched, hpre, rfl, -⟩ := lineMatch?_eq_some h
  have hline := Text.firstLine_isPrefix_of_return front rest
  rw [Text.lineText_eq, htext] at hpre
  obtain ⟨more, hmore⟩ := hpre.trans hline
  have hsize := congrArg Text.byteSize hmore
  rw [Text.byteSize_append] at hsize
  simp only [lead]
  omega

/-- A match depends on the start of the window and on the text before its first newline alone. -/
theorem lineMatch?_congr {w' : Window} {front rest rest' : Text} (hfront : '\n' ∉ front)
    (htext : w.text = front ++ '\n' :: rest) (hstart : w'.span.start = w.span.start)
    (htext' : w'.text = front ++ '\n' :: rest') :
    w'.lineMatch? p.prefixLength = w.lineMatch? p.prefixLength := by
  have hline : w'.lineText = w.lineText := by
    rw [Text.lineText_eq, Text.lineText_eq, htext, htext', Text.firstLine_append hfront,
      Text.firstLine_append hfront]
  rw [lineMatch?, lineMatch?, hline, hstart]

end LineMatch

/-- The current line of any window is cut at its first line break, and a pattern finds nothing but
a part of that line. -/
theorem patterns_stay_on_line (w : Window) :
    w.line.start = w.span.start ∧
    (∃ brk rest, Text.Begins w.text (w.source.slice w.line) brk rest) ∧
    ∀ p : Anchored,
      (∀ found, w.lineMatch? p.prefixLength = some found → '\n' ∉ w.source.slice found ∧
        ∀ front rest, w.text = front ++ '\r' :: '\n' :: rest →
          found.stop ≤ w.span.start + Text.byteSize front) ∧
      ∀ (front rest rest' : Text) (w' : Window), '\n' ∉ front → w.text = front ++ '\n' :: rest →
        w'.span.start = w.span.start → w'.text = front ++ '\n' :: rest' →
        w'.lineMatch? p.prefixLength = w.lineMatch? p.prefixLength := by
  refine ⟨w.line_start, w.begins_line, ?_⟩
  intro p
  constructor
  · intro found h
    refine ⟨not_mem_lineMatch? h, ?_⟩
    intro front rest htext
    exact lineMatch?_stop_le h htext
  · intro front rest rest' w' hfront htext hstart htext'
    exact lineMatch?_congr hfront htext hstart htext'

/-- A pattern that takes newlines for characters ends before the first return all the same. -/
theorem patterns_stay_on_line_returns :
    let w := full (Source.exactly "a\r\nb".toList)
    ∃ p, Anchored.compile .known .standard "(?s).+".toList = .ok p ∧
      w.lineMatch? p.prefixLength = some ⟨0, 1⟩ ∧ '\n' ∉ w.source.slice ⟨0, 1⟩ ∧
      (full (Source.exactly "a\r\n".toList)).lineMatch? p.prefixLength = some ⟨0, 1⟩ := by
  intro w
  have hp : ∃ p, Anchored.compile .known .standard "(?s).+".toList = .ok p := ⟨_, rfl⟩
  obtain ⟨p, hcompile⟩ := hp
  have hfound : w.lineMatch? p.prefixLength = some ⟨0, 1⟩ := by
    cases hcompile
    decide +kernel
  obtain ⟨-, -, h⟩ := patterns_stay_on_line w
  obtain ⟨hmatch, hbehind⟩ := h p
  have hsame := hbehind ['a', '\r'] ['b'] [] (full (Source.exactly "a\r\n".toList)) (by decide)
    rfl rfl rfl
  exact ⟨p, hcompile, hfound, (hmatch _ hfound).1, hsame.trans hfound⟩

end Window

end RuleLexer
