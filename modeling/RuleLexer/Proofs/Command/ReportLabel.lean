import RuleLexer.Proofs.Command.ReportPlace

/-!
# The label of a report

The offset of a rejection counts bytes, and the label of its report is a
range of characters. Between two characters the two agree on the character
that begins there. Behind the last one there is none, and the label goes to
the last character instead. A file that is rejected has something left to
read, so the label of its report is the first character that was not read.
-/

namespace RuleLexer

open Text

namespace Report

/-- The line is a part of the text, and the position is within it. -/
structure Line.Holds (line : Line) (text : Text) (target : Nat) : Prop where
  part : ∃ before after, text = before ++ (line.chars ++ after) ∧ before.length = line.start
  start_le : line.start ≤ target
  lt_stop : target < line.start + line.chars.length

theorem Line.Holds.getElem?_eq {line : Line} {text : Text} {target : Nat}
    (h : line.Holds text target) : line.chars[target - line.start]? = text[target]? := by
  obtain ⟨before, after, rfl, hstart⟩ := h.part
  have hle := h.start_le
  have hlt := h.lt_stop
  rw [List.getElem?_append_right (by omega), List.getElem?_append_left (by omega), hstart]

/-- Behind `before`, with `current` as the line that is under way, the line that is found for a
position holds it, if the position is on this line or still to come. -/
theorem lineFrom_holds (number : Nat) (before current : Text) {target : Nat} {rest : Text}
    (hle : before.length ≤ target)
    (hlt : target < before.length + (current.length + rest.length)) :
    (lineFrom target number before.length current rest).Holds
      (before ++ (current.reverse ++ rest)) target := by
  induction rest generalizing number before current with
  | nil => exact ⟨⟨before, [], rfl, rfl⟩, hle, by simpa [lineFrom] using hlt⟩
  | cons c rest ih =>
      rw [List.length_cons] at hlt
      have hstep : current.reverse ++ c :: rest = (c :: current).reverse ++ rest := by simp
      rw [lineFrom_cons, hstep]
      by_cases hends : endsLine c rest = true
      · rw [if_pos hends]
        by_cases hnext : before.length + current.length + 1 ≤ target
        · -- The line ends in front of the position, and the next one is empty so far.
          rw [if_pos hnext]
          have hlength : (before ++ (c :: current).reverse).length =
              before.length + current.length + 1 := by
            simp [Nat.add_assoc]
          have hline := ih (number + 1) (before ++ (c :: current).reverse) [] (by omega)
            (by rw [List.length_nil]; omega)
          rwa [hlength, List.append_assoc] at hline
        · rw [if_neg hnext]
          have hlength : (c :: current).reverse.length = current.length + 1 := by simp
          exact ⟨⟨before, rest, rfl, rfl⟩, hle, by dsimp only; omega⟩
      · rw [if_neg hends]
        exact ih number before (c :: current) hle (by rw [List.length_cons]; omega)

theorem lineOf_holds {text : Text} {target : Nat} (h : target < text.length) :
    (lineOf text target).Holds text target := by
  have hlt : target < ([] : Text).length + (([] : Text).length + text.length) := by simpa using h
  exact lineFrom_holds 1 [] [] (Nat.zero_le target) hlt

/-- The character at the marked place of the line that a report shows. The line is taken with the
blanks at its end, which are not drawn. -/
def marked? (text : Text) (offset : Nat) : Option Char :=
  let start := (labelRange text offset).1
  let line := lineOf text start
  line.chars[start - line.start]?

/-- For this offset a report on the text labels its character `c`, with `front` before it: the
range of the label is that of the one character, and it is the one that is marked on the line. -/
structure Labels (text : Text) (offset : Nat) (front : Text) (c : Char) : Prop where
  text_eq : ∃ rest, text = front ++ c :: rest
  range_eq : labelRange text offset = (front.length, front.length + 1)
  marked_eq : marked? text offset = some c

theorem labels_of_range {text front rest : Text} {offset : Nat} {c : Char}
    (htext : text = front ++ c :: rest)
    (hrange : labelRange text offset = (front.length, front.length + 1)) :
    Labels text offset front c := by
  have hchar : text[front.length]? = some c := by simp [htext]
  have hlength : front.length < text.length := (List.getElem?_eq_some_iff.mp hchar).1
  refine ⟨⟨rest, htext⟩, hrange, ?_⟩
  simp only [marked?, hrange]
  rw [(lineOf_holds hlength).getElem?_eq, hchar]

/-- The character that begins at the offset. -/
theorem labels_behind (front : Text) (c : Char) (rest : Text) :
    Labels (front ++ c :: rest) (byteSize front) front c :=
  labels_of_range rfl (labelRange_append front (List.cons_ne_nil c rest))

/-- At the end nothing begins, and the label goes one character back. -/
theorem labels_last (front : Text) (c : Char) :
    Labels (front ++ [c]) (byteSize (front ++ [c])) front c := by
  have htake : takeBytes? (front ++ [c]) (byteSize (front ++ [c])) = some (front ++ [c]) :=
    takeBytes?_eq_some.mpr ⟨⟨[], (List.append_nil _).symm⟩, rfl⟩
  refine labels_of_range rfl ?_
  simp only [labelRange, htake, List.length_append, List.length_singleton]
  rw [Nat.add_sub_cancel, Nat.min_eq_right (Nat.le_succ _), Nat.min_self]

/-- An offset between two characters, or at an end, of a text that is not empty. -/
theorem exists_labels {text : Text} {offset : Nat} (hoffset : isBoundary text offset = true)
    (hne : text ≠ []) :
    ∃ front c, Labels text offset front c ∧
      (offset < byteSize text → byteSize front = offset) ∧
      (offset = byteSize text → text = front ++ [c]) := by
  obtain ⟨front, rest, rfl, rfl⟩ := isBoundary_iff.mp hoffset
  rcases rest with _ | ⟨c, rest⟩
  · -- The offset is at the end, so `front` is all of the text.
    rw [List.append_nil] at hne ⊢
    obtain ⟨front, c, rfl⟩ := (List.eq_nil_or_concat' front).resolve_left hne
    exact ⟨front, c, labels_last front c, fun hlt => absurd hlt (Nat.lt_irrefl _), fun _ => rfl⟩
  · refine ⟨front, c, labels_behind front c rest, fun _ => rfl, fun hend => ?_⟩
    have hpos := c.utf8Size_pos
    simp only [byteSize_append, byteSize_cons] at hend
    omega

/-- Wherever the offset is, the label stays in the text. -/
theorem labelRange_bounds (text : Text) (offset : Nat) :
    (labelRange text offset).1 ≤ (labelRange text offset).2 ∧
      (labelRange text offset).2 ≤ text.length := by
  simp only [labelRange]
  omega

end Report

namespace FileReport

open Report

/-- A file that is rejected has a character at the offset of its rejection. -/
theorem exists_labels_of_rejected {source : Source} {l : Lexer Ini.Kind}
    (hsize : source.size < wordCount) (hl : Ini.tokenize source = .ok l) (hstop : l.state ≠ .done) :
    ∃ front c, Labels source.text l.rejection.offset front c ∧
      byteSize front = l.rejection.offset := by
  obtain ⟨front, left, htext, hleft, -, hrejection⟩ := exists_front_of_rejected hsize hl hstop
  obtain ⟨c, rest, rfl⟩ := List.exists_cons_of_ne_nil hleft
  have hoffset : l.rejection.offset = byteSize front := congrArg Rejection.offset hrejection
  rw [hoffset, htext]
  exact ⟨front, c, labels_behind front c rest, rfl⟩

/-- For an offset between two characters, or at an end of the text, the range of a report's label
is in the text. It is empty if the text is. Otherwise it is one character, the one that begins at
the offset, or the last one if the offset is at the end. A file can always be processed, and if it
is rejected, the label of its report is the character that begins at the offset of the rejection. -/
theorem label_is_character :
    (∀ (text : Text) (offset : Nat), isBoundary text offset = true →
      (labelRange text offset).1 ≤ (labelRange text offset).2 ∧
      (labelRange text offset).2 ≤ text.length ∧
      (text = [] → (labelRange text offset).1 = (labelRange text offset).2) ∧
      (text ≠ [] → ∃ front c, Labels text offset front c ∧
        (offset < byteSize text → byteSize front = offset) ∧
        (offset = byteSize text → text = front ++ [c]))) ∧
    ∀ (options : Options) (path : Text) (source : Source), source.size < wordCount →
      ∃ l report, Ini.tokenize source = .ok l ∧ process options path source = .ok report ∧
        (report.accepted = false → ∃ r front c, rejection? l = some r ∧
          report.diagnostic = some (render path source.text r options.color) ∧
          Labels source.text r.offset front c ∧ byteSize front = r.offset) := by
  refine ⟨fun text offset hoffset => ?_, fun options path source hsize => ?_⟩
  · obtain ⟨hle, hlength⟩ := labelRange_bounds text offset
    refine ⟨hle, hlength, ?_, exists_labels hoffset⟩
    rintro rfl
    rw [List.length_nil] at hlength
    omega
  · have hl := Ini.tokenize_eq hsize
    refine ⟨_, _, hl, process_eq options path hl, fun hrejected => ?_⟩
    have hstop := of_decide_eq_false hrejected
    obtain ⟨front, c, hlabels, hfront⟩ := exists_labels_of_rejected hsize hl hstop
    exact ⟨_, front, c, by rw [rejection?_eq, if_neg hstop], if_neg hstop, hlabels, hfront⟩

/-- The end of a text of two letters, and a file behind a byte order mark that is rejected at a
letter of three bytes, with one of two bytes above it. -/
theorem label_is_character_multibyte :
    (∃ front c, Labels "é日".toList 5 front c ∧ "é日".toList = front ++ [c]) ∧
      ∃ report r, process (.new .check) "x.ini".toList (.ofText "\uFEFFé=1\n日".toList) =
          .ok report ∧ report.accepted = false ∧ r.offset = 5 ∧
        report.diagnostic = some (render "x.ini".toList "é=1\n日".toList r false) ∧
        Labels "é=1\n日".toList 5 "é=1\n".toList '日' := by
  obtain ⟨hrange, hprocess⟩ := label_is_character
  constructor
  · obtain ⟨-, -, -, hlabels⟩ := hrange "é日".toList 5 (by decide)
    obtain ⟨front, c, hlabels, -, hend⟩ := hlabels (by decide)
    exact ⟨front, c, hlabels, hend (by decide)⟩
  · obtain ⟨l, report, hl, hreport, hlabels⟩ := hprocess (.new .check) "x.ini".toList
      (.ofText "\uFEFFé=1\n日".toList) (by decide)
    obtain ⟨l', hl', hstop, hrejection⟩ : ∃ l,
        Ini.tokenize (.ofText "\uFEFFé=1\n日".toList) = .ok l ∧ l.state ≠ .done ∧
        l.rejection = ⟨.matching, 5, 2, 1⟩ := ⟨_, rfl, by decide +kernel, by decide +kernel⟩
    obtain rfl := Except.ok.inj (hl.symm.trans hl')
    have hrejected : report.accepted = false := by
      obtain rfl := Except.ok.inj (hreport.symm.trans (process_eq _ _ hl))
      exact decide_eq_false hstop
    obtain ⟨r, front, c, hr, hdiagnostic, hlabels, hfront⟩ := hlabels hrejected
    rw [rejection?_eq, if_neg hstop, hrejection] at hr
    obtain rfl := Option.some.inj hr
    obtain ⟨rest, htext⟩ := hlabels.text_eq
    obtain rfl : front = "é=1\n".toList := by
      have htake := takeBytes?_eq_some.mpr ⟨⟨c :: rest, htext⟩, hfront⟩
      cases htake
      rfl
    obtain rfl : '日' = c := (List.cons.inj (List.append_cancel_left
      (show "é=1\n".toList ++ ['日'] = _ from htext))).1
    exact ⟨report, _, hreport, hrejected, rfl, hdiagnostic, hlabels⟩

end FileReport

end RuleLexer
