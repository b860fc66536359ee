import RuleLexer.Proofs.Text.LineLookup
import RuleLexer.Proofs.Text.Place
import Mathlib.Data.Prod.Lex

/-!
# Positions in the order of offsets

The position of an offset is a line and a column, and positions are compared
by lines first. Between two characters the column counts what stands before
the offset on its line, so positions grow with such offsets. Within a
character there is no such count: the offset gets column one, and its
position may come before that of an earlier offset on the same line.
-/

namespace RuleLexer

theorem Text.place_lt_append (front : Text) {more : Text} (h : more ≠ []) :
    toLex front.place < toLex (front ++ more).place := by
  rw [Prod.Lex.toLex_lt_toLex]
  by_cases hfeed : '\n' ∈ more
  · left
    have hcount : 0 < more.count '\n' := List.count_pos_iff.mpr hfeed
    simp only [place, List.count_append]
    omega
  · right
    rw [place_append_of_not_mem front hfeed]
    exact ⟨rfl, Nat.lt_add_of_pos_right (List.length_pos_of_ne_nil h)⟩

namespace Source

open Text

variable {source : Source} {a b offset : Nat}

/-- The offset is within a character of the text. -/
def Splits (source : Source) (offset : Nat) : Prop :=
  offset < source.size ∧ isBoundary source.text offset = false

instance : Decidable (source.Splits offset) := inferInstanceAs (Decidable (_ ∧ _))

theorem isBoundary_size (source : Source) : isBoundary source.text source.size = true :=
  isBoundary_iff.mpr ⟨source.text, [], by simp, by rw [size]⟩

/-- What an offset between two characters cuts off its text: the lines before it, of which there
are `above`, and the part of its own line before it. -/
structure Cut (source : Source) (offset above : Nat) (front before : Text) : Prop where
  text : ∃ rest, source.text = front ++ (before ++ rest)
  startsLine : StartsLine front above
  noFeed : '\n' ∉ before
  offset_eq : offset = byteSize front + byteSize before

theorem exists_cut (h : isBoundary source.text offset = true) :
    ∃ above front before, source.Cut offset above front before := by
  obtain ⟨front, rest, htext, rfl⟩ := isBoundary_iff.mp h
  have hsplit := List.rdropWhile_append_rtakeWhile (p := (· ≠ '\n')) (l := front)
  refine ⟨_, _, front.rtakeWhile (· ≠ '\n'), ⟨rest, ?_⟩, startsLine_rdropWhile front,
    fun hmem => ?_, ?_⟩
  · rw [← List.append_assoc, hsplit, htext]
  · simpa using List.mem_rtakeWhile_imp hmem
  · rw [← byteSize_append, hsplit]

namespace Cut

variable {above : Nat} {front before : Text}

theorem lineOf_eq (h : source.Cut offset above front before) :
    source.lineOf offset = above + 1 := by
  obtain ⟨rest, htext⟩ := h.text
  rw [Source.lineOf, source.lines_eq, htext, h.offset_eq]
  exact LineTable.lineOf_of_startsLine h.startsLine h.noFeed rest

theorem start_eq (h : source.Cut offset above front before) :
    source.lines.starts[above]? = some (byteSize front) := by
  obtain ⟨rest, htext⟩ := h.text
  rw [source.lines_eq, htext]
  exact LineTable.starts_of_startsLine h.startsLine _

theorem lineCol_eq (h : source.Cut offset above front before) :
    source.lineCol offset = (above + 1, before.length + 1) := by
  obtain ⟨rest, htext⟩ := h.text
  rw [Source.lineCol, source.lines_eq, htext, h.offset_eq]
  exact LineTable.lineCol_of_startsLine h.startsLine h.noFeed rest

theorem between?_eq (h : source.Cut offset above front before) :
    between? source.text ⟨byteSize front, offset⟩ = some before := by
  obtain ⟨rest, htext⟩ := h.text
  rw [h.offset_eq]
  exact between?_of_eq_append htext

end Cut

theorem lineCol_fst (source : Source) (offset : Nat) :
    (source.lineCol offset).1 = source.lineOf offset := by
  simp [lineCol, lineOf, LineTable.lineCol]

theorem lineCol_snd_pos (source : Source) (offset : Nat) : 0 < (source.lineCol offset).2 := by
  simp [lineCol, LineTable.lineCol]

theorem lineOf_mono (source : Source) (h : a ≤ b) : source.lineOf a ≤ source.lineOf b :=
  source.lines.lineOf_mono h

/-- No line starts past the end. -/
theorem lineOf_of_size_le (h : source.size ≤ offset) :
    source.lineOf offset = source.lineOf source.size := by
  rw [lineOf, lineOf, source.lines_eq, LineTable.lineOf_eq_count, LineTable.lineOf_eq_count]
  have hlength : (bytes source.text).length = source.size := length_bytes source.text
  rw [List.take_of_length_le (by omega), List.take_of_length_le (by omega)]

theorem lineCol_of_size_le (h : source.size ≤ offset) :
    source.lineCol offset = source.lineCol source.size := by
  have hline : source.lines.lineOf offset = source.lines.lineOf source.size :=
    lineOf_of_size_le h
  have hmin : min offset (byteSize source.text) = min source.size (byteSize source.text) := by
    rw [size] at h ⊢
    omega
  rw [lineCol, LineTable.lineCol, hline, hmin]
  rfl

theorem lineCol_min (source : Source) (offset : Nat) :
    source.lineCol (min offset source.size) = source.lineCol offset := by
  rcases Nat.le_total offset source.size with hle | hge
  · rw [Nat.min_eq_left hle]
  · rw [Nat.min_eq_right hge, lineCol_of_size_le hge]

theorem isBoundary_min (h : ¬source.Splits offset) :
    isBoundary source.text (min offset source.size) = true := by
  rcases Nat.lt_or_ge offset source.size with hlt | hge
  · rw [Nat.min_eq_left (Nat.le_of_lt hlt)]
    simpa [Splits, hlt] using h
  · rw [Nat.min_eq_right hge]
    exact source.isBoundary_size

theorem Splits.lineCol_eq (h : source.Splits offset) :
    source.lineCol offset = (source.lineOf offset, 1) := by
  obtain ⟨hsize, hsplit⟩ := h
  have hnone (start : Nat) : between? source.text ⟨start, offset⟩ = none :=
    between?_of_not_boundary hsplit
  have hmin : min offset (byteSize source.text) = offset := Nat.min_eq_left (Nat.le_of_lt hsize)
  simp only [lineCol, LineTable.lineCol, hmin, hnone, lineOf, Option.getD_none, List.length_nil]

/-- Positions between characters grow with the offset. -/
theorem lineCol_lt (ha : isBoundary source.text a = true) (hb : isBoundary source.text b = true)
    (h : a < b) : toLex (source.lineCol a) < toLex (source.lineCol b) := by
  obtain ⟨front, rest, htext, rfl⟩ := isBoundary_iff.mp ha
  obtain ⟨front', rest', htext', rfl⟩ := isBoundary_iff.mp hb
  rw [lineCol_of_append htext, lineCol_of_append htext']
  rcases List.append_eq_append_iff.mp (htext.symm.trans htext') with
    ⟨more, rfl, -⟩ | ⟨more, rfl, -⟩
  · refine front.place_lt_append fun hempty => ?_
    simp [hempty] at h
  · rw [byteSize_append] at h
    omega

theorem lineCol_inj (ha : isBoundary source.text a = true)
    (hb : isBoundary source.text b = true) (h : source.lineCol a = source.lineCol b) : a = b := by
  rcases Nat.lt_trichotomy a b with hlt | heq | hgt
  · exact absurd (congrArg toLex h) (lineCol_lt ha hb hlt).ne
  · exact heq
  · exact absurd (congrArg toLex h) (lineCol_lt hb ha hgt).ne'

/-- The table of a text lists the starts of its lines in increasing order, and the line of any
offset, found by halving the table, is one more than the number of newline bytes before it. The
position of an offset between two characters is that line and one more than the number of
characters between the start of the line and the offset, so it tells the offset, and it grows with
it. Past the end, every offset has the position of the end. -/
theorem lineCol_counts (source : Source) :
    source.lines.starts.Pairwise (· < ·) ∧
      (∀ offset, source.lineOf offset = source.lines.searchLine offset ∧
        source.lineOf offset = 1 + ((bytes source.text).take offset).count newlineByte ∧
        source.lineOf offset ≤ source.lineCount) ∧
      (∀ offset, isBoundary source.text offset = true → ∃ start before,
        source.lines.starts[source.lineOf offset - 1]? = some start ∧
        between? source.text ⟨start, offset⟩ = some before ∧ '\n' ∉ before ∧
        source.lineCol offset = (source.lineOf offset, 1 + before.length)) ∧
      (∀ a b, isBoundary source.text a = true → isBoundary source.text b = true →
        (source.lineCol a = source.lineCol b → a = b) ∧
        (a < b → toLex (source.lineCol a) < toLex (source.lineCol b))) ∧
      ∀ offset, source.size < offset → source.lineCol offset = source.lineCol source.size := by
  have hsorted : source.lines.starts.Pairwise (· < ·) :=
    source.lines_eq ▸ LineTable.starts_pairwise source.text
  refine ⟨hsorted, fun offset => ⟨(LineTable.searchLine_eq hsorted offset).symm, ?_, ?_⟩,
    fun offset h => ?_, fun a b ha hb => ⟨lineCol_inj ha hb, lineCol_lt ha hb⟩,
    fun offset h => lineCol_of_size_le (Nat.le_of_lt h)⟩
  · rw [lineOf, source.lines_eq]
    exact LineTable.lineOf_eq_count source.text offset
  · rw [lineOf, lineCount, source.lines_eq]
    exact LineTable.lineOf_le_lineCount source.text offset
  · obtain ⟨above, front, before, hcut⟩ := exists_cut h
    refine ⟨_, before, ?_, hcut.between?_eq, hcut.noFeed, ?_⟩
    · rw [hcut.lineOf_eq]
      exact hcut.start_eq
    · rw [hcut.lineOf_eq, hcut.lineCol_eq, Nat.add_comm 1]

/-- The last character of a text of two lines, the end of the text and an offset past it. -/
theorem lineCol_counts_past_end :
    (exactly "é\r\n日x".toList).lineOf 3 = 1 ∧
      (∃ start before, (exactly "é\r\n日x".toList).lines.starts[1]? = some start ∧
        between? "é\r\n日x".toList ⟨start, 7⟩ = some before ∧
        (exactly "é\r\n日x".toList).lineCol 7 = (2, 1 + before.length)) ∧
      toLex ((exactly "é\r\n日x".toList).lineCol 7) <
        toLex ((exactly "é\r\n日x".toList).lineCol 8) ∧
      (exactly "é\r\n日x".toList).lineCol 9 = (exactly "é\r\n日x".toList).lineCol 8 := by
  obtain ⟨-, hline, hcolumn, hgrows, hpast⟩ := lineCol_counts (exactly "é\r\n日x".toList)
  obtain ⟨start, before, hstart, hbefore, -, hcol⟩ := hcolumn 7 (by decide)
  refine ⟨(hline 3).2.1.trans (by decide), ⟨start, before, ?_, hbefore, ?_⟩,
    (hgrows 7 8 (by decide) (by decide)).2 (by decide), hpast 9 (by decide)⟩
  · rw [← hstart]
    decide
  · rw [hcol, show (exactly "é\r\n日x".toList).lineOf 7 = 2 by decide]

theorem lineCol_le (h : a ≤ b) (hb : ¬source.Splits b) :
    toLex (source.lineCol a) ≤ toLex (source.lineCol b) := by
  by_cases ha : source.Splits a
  · rw [ha.lineCol_eq, Prod.Lex.toLex_le_toLex, lineCol_fst]
    rcases Nat.lt_or_eq_of_le (source.lineOf_mono h) with hlt | heq
    · exact .inl hlt
    · exact .inr ⟨heq, source.lineCol_snd_pos b⟩
  · rw [← source.lineCol_min a, ← source.lineCol_min b]
    have hmin : min a source.size ≤ min b source.size := by omega
    rcases Nat.lt_or_eq_of_le hmin with hlt | heq
    · exact (lineCol_lt (isBoundary_min ha) (isBoundary_min hb) hlt).le
    · rw [heq]

/-- The column is one exactly at the start of a line and within a character. -/
theorem column_le_one_iff (h : a < source.size) :
    (source.lineCol a).2 ≤ 1 ↔ source.Splits a ∨ a ∈ source.lines.starts := by
  constructor
  · intro hle
    by_cases ha : source.Splits a
    · exact .inl ha
    · have hboundary : isBoundary source.text a = true := by simpa [Splits, h] using ha
      obtain ⟨above, front, before, hcut⟩ := exists_cut hboundary
      have hbefore : before = [] := by
        rw [hcut.lineCol_eq] at hle
        exact List.length_eq_zero_iff.mp (by simpa using hle)
      have ha : a = byteSize front := by simpa [hbefore] using hcut.offset_eq
      exact .inr (ha ▸ List.mem_of_getElem? hcut.start_eq)
  · rintro (ha | hmem)
    · rw [ha.lineCol_eq]
    · obtain ⟨k, hk⟩ := List.mem_iff_getElem?.mp hmem
      rw [source.lines_eq] at hk
      rw [lineCol, source.lines_eq, LineTable.lineCol_start hk]

theorem Splits.position_le_iff (hb : source.Splits b) (h : a ≤ b) :
    toLex (source.lineCol a) ≤ toLex (source.lineCol b) ↔
      (source.lineOf a = source.lineOf b → source.Splits a ∨ a ∈ source.lines.starts) := by
  rw [hb.lineCol_eq, Prod.Lex.toLex_le_toLex, lineCol_fst,
    column_le_one_iff (Nat.lt_of_le_of_lt h hb.1)]
  constructor
  · rintro (hlt | ⟨-, hor⟩) heq
    · exact absurd heq (Nat.ne_of_lt hlt)
    · exact hor
  · intro himp
    rcases Nat.lt_or_eq_of_le (source.lineOf_mono h) with hlt | heq
    · exact .inl hlt
    · exact .inr ⟨heq, himp heq⟩

/-- The line never goes back from an offset to a later one. Nor does the position, unless the later
offset is within a character and the earlier one is between two characters of the same line and
not at its start. -/
theorem lineCol_le_iff (h : a ≤ b) :
    (source.lineCol a).1 ≤ (source.lineCol b).1 ∧
      (toLex (source.lineCol a) ≤ toLex (source.lineCol b) ↔
        (source.Splits b → source.lineOf a = source.lineOf b →
          source.Splits a ∨ a ∈ source.lines.starts)) := by
  constructor
  · rw [lineCol_fst, lineCol_fst]
    exact source.lineOf_mono h
  · by_cases hb : source.Splits b
    · rw [hb.position_le_iff h]
      exact ⟨fun himp _ => himp, fun himp => himp hb⟩
    · exact iff_of_true (lineCol_le h hb) fun hsplit => absurd hsplit hb

/-- From the start of a line to an offset within its first character. -/
theorem lineCol_le_iff_first_character :
    4 ≤ 5 ∧ (exactly "aé\n€".toList).Splits 5 ∧
      toLex ((exactly "aé\n€".toList).lineCol 4) ≤ toLex ((exactly "aé\n€".toList).lineCol 5) :=
  ⟨by decide, by decide, (lineCol_le_iff (by decide)).2.mpr fun _ _ => .inr (by decide)⟩

/-- From before the accented letter to its second byte, the column goes back to one. -/
theorem lineCol_goes_back : ∃ (source : Source) (a b : Nat), a ≤ b ∧
    ¬toLex (source.lineCol a) ≤ toLex (source.lineCol b) :=
  ⟨exactly "aé".toList, 1, 2, by decide, by decide⟩

end Source

end RuleLexer
