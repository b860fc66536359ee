import RuleLexer.Proofs.Command.Verdict
import RuleLexer.Proofs.Ini.Acceptance
import RuleLexer.Proofs.Text.Quoting

/-!
# The place in a report

A report names the place of a rejection twice. The message in its heading
has the line and the column of the rejection, and above the line that it
shows stands the place which the report has counted for itself. It counts
more line ends than the newline. So both are the same place exactly if the
text that has been read has no other line ends.
-/

namespace RuleLexer

open Text

namespace Report

/-- A new line begins behind `c` in a report, if `rest` follows. -/
def endsLine (c : Char) (rest : Text) : Bool :=
  isLineEnd c && !(c == '\r' && rest.head? == some '\n')

/-- The number of line ends in a text that are none for a rejection. -/
def strayEnds : Text → Nat
  | [] => 0
  | c :: rest => (if c ≠ '\n' ∧ endsLine c rest = true then 1 else 0) + strayEnds rest

/-- Every line end in the text is a newline, or the return in front of one. -/
def OnlyNewlines (text : Text) : Prop :=
  ∀ before c after, text = before ++ c :: after → isLineEnd c = true →
    c = '\n' ∨ c = '\r' ∧ after.head? = some '\n'

theorem endsLine_newline (rest : Text) : endsLine '\n' rest = true := rfl

theorem onlyNewlines_cons {c : Char} {rest : Text} :
    OnlyNewlines (c :: rest) ↔ ¬(c ≠ '\n' ∧ endsLine c rest = true) ∧ OnlyNewlines rest := by
  have hhead : (isLineEnd c = true → c = '\n' ∨ c = '\r' ∧ rest.head? = some '\n') ↔
      ¬(c ≠ '\n' ∧ endsLine c rest = true) := by
    simp only [endsLine, Bool.and_eq_true, Bool.not_eq_true', Bool.and_eq_false_iff,
      beq_eq_false_iff_ne]
    tauto
  rw [← hhead]
  constructor
  · intro h
    exact ⟨h [] c rest rfl, fun before d after heq => h (c :: before) d after (by rw [heq]; rfl)⟩
  · rintro ⟨hc, hrest⟩ before d after heq
    cases before with
    | nil =>
        obtain ⟨rfl, rfl⟩ := List.cons.inj heq
        exact hc
    | cons b before => exact hrest before d after (List.cons.inj heq).2

theorem strayEnds_eq_zero {text : Text} : strayEnds text = 0 ↔ OnlyNewlines text := by
  induction text with
  | nil =>
      refine iff_of_true rfl fun before c after h => ?_
      exact absurd h.symm (by simp)
  | cons c rest ih =>
      rw [onlyNewlines_cons, ← ih, strayEnds, Nat.add_eq_zero_iff]
      simp

/-- The line ends of a text are its newlines and the stray ones. -/
theorem count_add_strayEnds_cons (c : Char) (rest : Text) :
    (c :: rest).count '\n' + strayEnds (c :: rest) =
      (if endsLine c rest = true then 1 else 0) + (rest.count '\n' + strayEnds rest) := by
  rw [strayEnds, List.count_cons]
  by_cases hc : c = '\n'
  · subst hc
    simp [endsLine_newline]
    omega
  · simp [hc]
    omega

section Line

variable {target number start : Nat} {current text : Text}

theorem lineFrom_cons (c : Char) (rest : Text) :
    lineFrom target number start current (c :: rest) =
      if endsLine c rest = true then
        if start + current.length + 1 ≤ target then
          lineFrom target (number + 1) (start + current.length + 1) [] rest
        else ⟨number, start, (c :: current).reverse⟩
      else lineFrom target number start (c :: current) rest := by
  have hline : lineFrom target number start current (c :: rest) =
      if (endsLine c rest && decide (start + current.length + 1 ≤ target)) = true then
        lineFrom target (number + 1) (start + current.length + 1) [] rest
      else if endsLine c rest = true then ⟨number, start, (c :: current).reverse⟩
      else lineFrom target number start (c :: current) rest := by
    rw [lineFrom]
    rfl
  rw [hline]
  cases endsLine c rest <;> simp

/-- The line that is under way is the one of a position up to its next character. -/
theorem lineFrom_of_le (number : Nat) (text : Text) (h : target ≤ start + current.length) :
    (lineFrom target number start current text).number = number ∧
      (lineFrom target number start current text).start = start := by
  induction text generalizing current with
  | nil => exact ⟨rfl, rfl⟩
  | cons c rest ih =>
      rw [lineFrom_cons, if_neg (by omega : ¬start + current.length + 1 ≤ target)]
      by_cases hends : endsLine c rest = true
      · rw [if_pos hends]
        exact ⟨rfl, rfl⟩
      · rw [if_neg hends]
        exact ih (by rw [List.length_cons]; omega)

/-- A new line begins behind a newline, and its number counts all line ends in front of it. -/
theorem lineFrom_append (number : Nat) {front : Text} (rest : Text)
    (hfront : front = [] ∧ current = [] ∨ front.getLast? = some '\n')
    (htarget : target = start + current.length + front.length) :
    (lineFrom target number start current (front ++ rest)).number =
        number + (front.count '\n' + strayEnds front) ∧
      (lineFrom target number start current (front ++ rest)).start = target := by
  induction front generalizing number start current with
  | nil =>
      rcases hfront with ⟨-, rfl⟩ | hlast
      · obtain ⟨hnumber, hstart⟩ := lineFrom_of_le number rest
          (Nat.le_of_eq htarget : target ≤ start + ([] : Text).length)
        exact ⟨hnumber, hstart.trans htarget.symm⟩
      · exact absurd hlast (by simp)
  | cons c front ih =>
      have hlast : (c :: front).getLast? = some '\n' := by simpa using hfront
      rw [List.length_cons] at htarget
      rw [List.cons_append, lineFrom_cons, if_pos (by omega : start + current.length + 1 ≤ target),
        count_add_strayEnds_cons]
      rcases front with _ | ⟨d, front⟩
      · -- The last character is a newline, and ends its line whatever follows.
        obtain rfl : c = '\n' := by simpa using hlast
        have htarget' : target = start + current.length + 1 + ([] : Text).length := htarget
        obtain ⟨hnumber, hstart⟩ := lineFrom_of_le (number + 1) rest (Nat.le_of_eq htarget')
        exact ⟨hnumber, hstart.trans htarget'.symm⟩
      · have hlast' : (d :: front).getLast? = some '\n' := by simpa using hlast
        have hends : endsLine c (d :: front ++ rest) = endsLine c (d :: front) := rfl
        rw [hends]
        by_cases hline : endsLine c (d :: front) = true
        · have htarget' : target =
              start + current.length + 1 + ([] : Text).length + (d :: front).length := by
            rw [List.length_nil]
            omega
          obtain ⟨hnumber, hstart⟩ := ih (number + 1) (.inr hlast') htarget'
          rw [if_pos hline, if_pos hline, ← Nat.add_assoc]
          exact ⟨hnumber, hstart⟩
        · have htarget' : target = start + (c :: current).length + (d :: front).length := by
            rw [List.length_cons]
            omega
          obtain ⟨hnumber, hstart⟩ := ih number (.inr hlast') htarget'
          rw [if_neg hline, if_neg hline, Nat.zero_add]
          exact ⟨hnumber, hstart⟩

end Line

/-- Behind `front`, the label is one character wide. -/
theorem labelRange_append (front : Text) {left : Text} (hleft : left ≠ []) :
    labelRange (front ++ left) (byteSize front) = (front.length, front.length + 1) := by
  have htake : takeBytes? (front ++ left) (byteSize front) = some front :=
    takeBytes?_eq_some.mpr ⟨⟨left, rfl⟩, rfl⟩
  have hpos := List.length_pos_of_ne_nil hleft
  simp only [labelRange, htake, List.length_append, Prod.mk.injEq]
  omega

/-- Below its heading, which ends with this message, a report names this line and column. -/
def Locates (color : Bool) (name message : Text) (line column : Nat) (report : Text) : Prop :=
  ∃ indent below, report =
    paint color red "Error:".toList ++ " document rejected: ".toList ++ message ++ ['\n'] ++
      (blanks indent ++ (location color name line column ++ '\n' :: below))

theorem stops_isDigit_paint (color : Bool) {c : Char} (hc : c.isDigit = false) (code : String)
    (rest : Text) : Stops Char.isDigit (paint color code [c] ++ rest) := by
  cases color with
  | false => simpa [paint] using hc
  | true => simp [paint]

theorem Locates.unique {color : Bool} {name message report : Text} {line line' column column' : Nat}
    (h : Locates color name message line column report)
    (h' : Locates color name message line' column' report) : line = line' ∧ column = column' := by
  obtain ⟨indent, below, hreport⟩ := h
  obtain ⟨indent', below', hreport'⟩ := h'
  have hbelow := List.append_cancel_left (hreport.symm.trans hreport')
  have hblank (n : Nat) : ∀ c ∈ blanks n, decide (c = ' ') = true := by
    intro c hc
    exact decide_eq_true (List.eq_of_mem_replicate hc)
  have hstops (line column : Nat) (below : Text) :
      Stops (fun c => decide (c = ' ')) (location color name line column ++ '\n' :: below) := by
    cases color <;> simp [location, paint]
  have hplace := congrArg (List.dropWhile fun c => decide (c = ' ')) hbelow
  rw [dropWhile_run (hblank indent) (hstops line column below),
    dropWhile_run (hblank indent') (hstops line' column' below')] at hplace
  simp only [location, List.append_assoc] at hplace
  have hnumbers := List.append_cancel_left (List.append_cancel_left (List.append_cancel_left
    (List.append_cancel_left (List.append_cancel_left hplace))))
  obtain ⟨rfl, hcolumns⟩ := decimal_append_inj (by simp) (by simp) hnumbers
  have hcolumns := List.append_cancel_left hcolumns
  have hbracket := stops_isDigit_paint color (by decide : ']'.isDigit = false) gray
  exact ⟨rfl, (decimal_append_inj (hbracket _) (hbracket _) hcolumns).1⟩

/-- The report of a rejection at the start of a line. -/
theorem locates_render (front left : Text) {r : Rejection} (hleft : left ≠ [])
    (hfront : front = [] ∨ front.getLast? = some '\n') (hoffset : r.offset = byteSize front)
    (name : Text) (color : Bool) :
    Locates color name r.message (1 + (front.count '\n' + strayEnds front)) 1
      (render name (front ++ left) r color) := by
  have hempty : (front ++ left).isEmpty = false := by
    simpa using fun _ => hleft
  obtain ⟨hnumber, hstart⟩ := lineFrom_append 1 left
    (hfront.imp_left fun h => ⟨h, rfl⟩)
    (by simp : front.length = 0 + ([] : Text).length + front.length)
  simp only [render, hempty, hoffset, labelRange_append front hleft, lineOf, hnumber, hstart,
    Nat.sub_self, Bool.false_eq_true, if_false]
  exact ⟨_, _, by simp only [List.append_assoc, List.cons_append, List.nil_append]; rfl⟩

end Report

namespace FileReport

open Report

/-- Where a run stops, the lines above it are read, and the rejection counts their newlines. -/
theorem exists_front_of_rejected {source : Source} {l : Lexer Ini.Kind}
    (hsize : source.size < wordCount) (hl : Ini.tokenize source = .ok l) (hstop : l.state ≠ .done) :
    ∃ front left, source.text = front ++ left ∧ left ≠ [] ∧
      (front = [] ∨ front.getLast? = some '\n') ∧
      l.rejection = ⟨.matching, byteSize front, front.count '\n' + 1, 1⟩ := by
  obtain ⟨l', hl', hcases⟩ := Ini.exists_tokenize hsize
  obtain rfl := Except.ok.inj (hl.symm.trans hl')
  rcases hcases with ⟨hdone, -⟩ |
    ⟨i, -, front, left, -, -, -, htext, hleft, ⟨hedge, rfl⟩, -, -, haccepted⟩
  · exact absurd hdone hstop
  · have hnotDone : l.isDone = false := by simpa [Lexer.isDone] using hstop
    refine ⟨front, left, htext, hleft, hedge, ?_⟩
    simpa [Lexer.accepted, hnotDone] using haccepted

/-- The report on a source that is not accepted names a line and a column above the source. The
column is that of the rejection, and the line is behind that of the rejection by the line ends that
are no newlines. So the report and the rejection name the same place exactly if the text that has
been read has no line ends but newlines. -/
theorem process_locates {source : Source} {l : Lexer Ini.Kind} (hsize : source.size < wordCount)
    (hl : Ini.tokenize source = .ok l) (hstop : l.state ≠ .done) (options : Options)
    (path : Text) :
    ∃ report diagnostic front left,
      process options path source = .ok report ∧ report.accepted = false ∧
      report.diagnostic = some diagnostic ∧
      source.text = front ++ left ∧ byteSize front = l.rejection.offset ∧
      (∀ line column, Locates options.color path l.rejection.message line column diagnostic ↔
        line = l.rejection.line + strayEnds front ∧ column = l.rejection.column) ∧
      (Locates options.color path l.rejection.message l.rejection.line l.rejection.column
        diagnostic ↔ OnlyNewlines front) := by
  obtain ⟨front, left, htext, hleft, hedge, hrejection⟩ := exists_front_of_rejected hsize hl hstop
  have hlocates : Locates options.color path l.rejection.message
      (l.rejection.line + strayEnds front) l.rejection.column
      (render path source.text l.rejection options.color) := by
    have hrender := locates_render front left hleft hedge
      (congrArg Rejection.offset hrejection) path options.color
    rw [← htext, ← Nat.add_assoc, Nat.add_comm 1] at hrender
    rwa [congrArg Rejection.line hrejection, congrArg Rejection.column hrejection]
  have hplace (line column : Nat) :
      Locates options.color path l.rejection.message line column
        (render path source.text l.rejection options.color) ↔
      line = l.rejection.line + strayEnds front ∧ column = l.rejection.column := by
    constructor
    · exact fun h => h.unique hlocates
    · rintro ⟨rfl, rfl⟩
      exact hlocates
  refine ⟨_, _, front, left, process_eq options path hl, decide_eq_false hstop, if_neg hstop,
    htext, (congrArg Rejection.offset hrejection).symm, hplace, ?_⟩
  rw [hplace, ← strayEnds_eq_zero]
  simp

/-- A line with a letter of two bytes, above a line that is not well formed. -/
theorem process_locates_multibyte :
    ∃ report diagnostic,
      process (.new .check) "x.ini".toList (.ofText "é=1\r\n?".toList) = .ok report ∧
      report.diagnostic = some diagnostic ∧
      Locates false "x.ini".toList "unexpected input at 2:1".toList 2 1 diagnostic := by
  obtain ⟨l, hl, hstop, hrejection⟩ : ∃ l, Ini.tokenize (.ofText "é=1\r\n?".toList) = .ok l ∧
      l.state ≠ .done ∧ l.rejection = ⟨.matching, 6, 2, 1⟩ :=
    ⟨_, rfl, by decide +kernel, by decide +kernel⟩
  obtain ⟨report, diagnostic, front, left, hreport, -, hdiagnostic, htext, hfront, -, hplace⟩ :=
    process_locates (by decide) hl hstop (.new .check) "x.ini".toList
  rw [hrejection] at hplace hfront
  obtain rfl : front = "é=1\r\n".toList := by
    have htake := takeBytes?_eq_some.mpr ⟨⟨left, htext⟩, hfront⟩
    cases htake
    rfl
  exact ⟨report, diagnostic, hreport, hdiagnostic, hplace.mpr (strayEnds_eq_zero.mp (by decide))⟩

/-- A comment with a line separator in it. The rejection is on the second line and its report names
the third one. -/
theorem process_locates_line_separator :
    ∃ l report diagnostic, Ini.tokenize (.ofText "#\u2028\nbad".toList) = .ok l ∧
      process (.new .check) "x.ini".toList (.ofText "#\u2028\nbad".toList) = .ok report ∧
      report.accepted = false ∧ report.diagnostic = some diagnostic ∧
      l.rejection.line = 2 ∧ l.rejection.column = 1 ∧
      Locates false "x.ini".toList l.rejection.message 3 1 diagnostic ∧
      ¬Locates false "x.ini".toList l.rejection.message 2 1 diagnostic := by
  obtain ⟨l, hl, hstop, hrejection⟩ : ∃ l, Ini.tokenize (.ofText "#\u2028\nbad".toList) = .ok l ∧
      l.state ≠ .done ∧ l.rejection = ⟨.matching, 5, 2, 1⟩ :=
    ⟨_, rfl, by decide +kernel, by decide +kernel⟩
  have hlocates : Locates false "x.ini".toList l.rejection.message 3 1
      (render "x.ini".toList "#\u2028\nbad".toList l.rejection false) :=
    locates_render "#\u2028\n".toList "bad".toList (by decide) (by decide)
      (congrArg Rejection.offset hrejection) _ _
  refine ⟨l, _, _, hl, process_eq _ _ hl, decide_eq_false hstop, if_neg hstop,
    congrArg Rejection.line hrejection, congrArg Rejection.column hrejection, hlocates, ?_⟩
  intro hsame
  exact absurd (hlocates.unique hsame).1 (by decide)

end FileReport

end RuleLexer
