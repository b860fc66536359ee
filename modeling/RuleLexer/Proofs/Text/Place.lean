import RuleLexer.Proofs.Text.Lines
import RuleLexer.Proofs.Text.Slice
import Mathlib.Data.List.DropRight

/-!
# The place behind a text

The place behind the first part of a text depends on that part alone. Its
newlines give the line, and what stands behind the last of them gives the
column. A line break behind it leads to the next line, anything else on a
line leads further to the right.
-/

namespace RuleLexer

open Text

/-- Line and column behind a text, both counted from one. -/
def Text.place (front : Text) : Nat × Nat :=
  (1 + front.count '\n', 1 + (front.rtakeWhile (· ≠ '\n')).length)

namespace Text

theorem place_append_of_not_mem (a : Text) {b : Text} (h : '\n' ∉ b) :
    place (a ++ b) = ((place a).1, (place a).2 + b.length) := by
  have hb : ∀ c ∈ b.reverse, decide (c ≠ '\n') = true := by
    intro c hc
    simpa using fun heq : c = '\n' => h (heq ▸ List.mem_reverse.mp hc)
  have hlast : (a ++ b).rtakeWhile (· ≠ '\n') = a.rtakeWhile (· ≠ '\n') ++ b := by
    rw [List.rtakeWhile, List.reverse_append, List.takeWhile_append_of_pos hb,
      List.reverse_append, List.reverse_reverse, List.rtakeWhile]
  rw [place, hlast, List.count_append, List.count_eq_zero_of_not_mem h, Nat.add_zero,
    List.length_append, ← Nat.add_assoc]
  rfl

theorem place_append_break (a : Text) {b : Text} (h : b = ['\n'] ∨ b = ['\r', '\n']) :
    place (a ++ b) = ((place a).1 + 1, 1) := by
  obtain ⟨front, hfront, hcount⟩ : ∃ front, a ++ b = front ++ ['\n'] ∧
      front.count '\n' = a.count '\n' := by
    rcases h with rfl | rfl
    · exact ⟨a, rfl, rfl⟩
    · exact ⟨a ++ ['\r'], by simp, by simp⟩
  rw [place, hfront, List.rtakeWhile_concat_neg _ _ _ (by simp), List.count_append, hcount]
  rfl

end Text

theorem Text.startsLine_rdropWhile (front : Text) :
    StartsLine (front.rdropWhile (· ≠ '\n')) (front.count '\n') where
  edge := by
    by_cases hempty : front.rdropWhile (· ≠ '\n') = []
    · exact .inl hempty
    · have hlast : (front.rdropWhile (· ≠ '\n')).getLast hempty = '\n' := by
        simpa using List.rdropWhile_last_not (· ≠ '\n') front hempty
      exact .inr (List.getLast?_eq_some_getLast hempty ▸ congrArg some hlast)
  count := by
    have hrest : (front.rtakeWhile (· ≠ '\n')).count '\n' = 0 :=
      List.count_eq_zero_of_not_mem fun hmem => by simpa using List.mem_rtakeWhile_imp hmem
    have hcount := congrArg (List.count '\n')
      (List.rdropWhile_append_rtakeWhile (p := (· ≠ '\n')) (l := front))
    rwa [List.count_append, hrest] at hcount

namespace LineTable

theorem length_starts (text : Text) : (ofText text).starts.length = text.count '\n' + 1 := by
  rw [ofText, List.length_cons, length_newlineEnds]

theorem lineCol_of_startsLine {front a : Text} {i : Nat} (h : StartsLine front i) (ha : '\n' ∉ a)
    (rest : Text) :
    (ofText (front ++ (a ++ rest))).lineCol (front ++ (a ++ rest)) (byteSize front + byteSize a) =
      (i + 1, a.length + 1) := by
  have hline := lineOf_of_startsLine h ha rest
  have hstart := starts_of_startsLine h (a ++ rest)
  have hbetween := between?_of_eq_append (a := front) (b := a) (c := rest) rfl
  have hmin : min (byteSize front + byteSize a) (byteSize (front ++ (a ++ rest))) =
      byteSize front + byteSize a := by
    simp only [byteSize_append]
    omega
  simp only [lineCol, hline, Nat.add_sub_cancel, hstart, Option.getD_some, hmin, hbetween]

end LineTable

theorem Source.lineCol_of_append {source : Source} {front rest : Text}
    (h : source.text = front ++ rest) : source.lineCol (byteSize front) = front.place := by
  have hsplit := List.rdropWhile_append_rtakeWhile (p := (· ≠ '\n')) (l := front)
  have hfeed : '\n' ∉ front.rtakeWhile (· ≠ '\n') := fun hmem => by
    simpa using List.mem_rtakeWhile_imp hmem
  have hplace := LineTable.lineCol_of_startsLine (startsLine_rdropWhile front) hfeed rest
  rw [← List.append_assoc, hsplit, ← byteSize_append, hsplit] at hplace
  simp only [Source.lineCol, source.lines_eq, h, hplace, place, Nat.add_comm 1]

end RuleLexer
