import RuleLexer.Proofs.Chain
import RuleLexer.Text.Window

/-!
# Spans without their first bytes

A span that is trimmed at its start keeps its end, and loses as many bytes
as are asked for, or all that it has. The new start is a sum that is taken
before it is compared with the end. Where this sum leaves the word range
there is a fault, even though the span would only have become empty.
-/

namespace RuleLexer

/-- The sum of two words, or the greatest word where the sum is not a word. -/
def saturatingSum (n m : Nat) : Nat := min (n + m) (wordCount - 1)

namespace Span

/-- The span without as many of its first bytes, or without all that it has. -/
structure Shortens (s : Span) (n : Nat) (t : Span) : Prop where
  stop_eq : t.stop = s.stop
  len_eq : ∃ size, s.len = .ok size ∧ t.len = .ok (size - min n size)
  ordered : t.Ordered
  contained : s.contains t = true

variable {s t : Span} {n m : Nat}

theorem trimStart_of_lt (h : s.start + n < wordCount) :
    s.trimStart n = .ok ⟨min (s.start + n) s.stop, s.stop⟩ := if_pos h

theorem trimStart_of_le (h : wordCount ≤ s.start + n) : s.trimStart n = .error .addOverflow :=
  if_neg (Nat.not_lt.mpr h)

theorem Ordered.shortens (hs : s.Ordered) (n : Nat) :
    s.Shortens n ⟨min (s.start + n) s.stop, s.stop⟩ := by
  have hle : s.start ≤ s.stop := hs
  refine ⟨rfl, ⟨s.stop - s.start, if_pos hle, ?_⟩, Nat.min_le_right _ _, ?_⟩
  · have hsize : s.stop - min (s.start + n) s.stop =
        s.stop - s.start - min n (s.stop - s.start) := by omega
    rw [len, if_pos (Nat.min_le_right _ _), hsize]
  · simp only [contains, Bool.and_eq_true, decide_eq_true_eq]
    omega

/-- The end stops both ways of trimming at the same place, also where the sum of the two numbers is
not a word. -/
theorem min_min_add (hs : s.Ordered) (hstop : s.stop < wordCount) :
    min (min (s.start + n) s.stop + m) s.stop = min (s.start + saturatingSum n m) s.stop := by
  have hle : s.start ≤ s.stop := hs
  unfold saturatingSum
  rcases Nat.lt_or_ge (n + m) wordCount with hsum | hsum
  · rw [Nat.min_eq_left (Nat.le_sub_one_of_lt hsum)]
    omega
  · rw [Nat.min_eq_right (by omega : wordCount - 1 ≤ n + m)]
    omega

/-- Trimming an ordered span is a fault exactly if the start and the number of bytes have no sum
that is a word. Otherwise the span keeps its end and loses the smaller of this number and its
length, and trimming twice is trimming by the saturating sum. A window is trimmed along with its
span. -/
theorem trimStart_saturates (hs : s.Ordered) (hstop : s.stop < wordCount) (hn : n < wordCount) :
    (wordCount ≤ s.start + n ∧ s.trimStart n = .error .addOverflow ∨
        s.start + n < wordCount ∧ ∃ t, s.trimStart n = .ok t ∧ s.Shortens n t) ∧
      (∀ m, min (s.start + n) s.stop + m < wordCount → s.start + saturatingSum n m < wordCount →
        ∃ t, (s.trimStart n).bind (·.trimStart m) = .ok t ∧
          s.trimStart (saturatingSum n m) = .ok t) ∧
      ∀ w : Window, w.span = s →
        w.trimStart n = (s.trimStart n).map (Window.ofSpan w.source) := by
  refine ⟨?_, fun m htwice hsum => ?_, ?_⟩
  · rcases Nat.lt_or_ge (s.start + n) wordCount with hlt | hge
    · exact .inr ⟨hlt, _, trimStart_of_lt hlt, hs.shortens n⟩
    · exact .inl ⟨hge, trimStart_of_le hge⟩
  · have hfirst : s.start + n < wordCount := by
      have hle : n ≤ saturatingSum n m :=
        Nat.le_min.mpr ⟨Nat.le_add_right n m, Nat.le_sub_one_of_lt hn⟩
      omega
    refine ⟨_, ?_, trimStart_of_lt hsum⟩
    rw [trimStart_of_lt hfirst, bind_ok, trimStart_of_lt htwice, min_min_add hs hstop]
  · rintro w rfl
    exact w.trimStart_eq n

/-- The second number is the greatest with which no sum leaves the word range. -/
theorem trimStart_saturates_end :
    ∃ t, ((⟨2, 8⟩ : Span).trimStart 3).bind (·.trimStart (wordCount - 6)) = .ok t ∧
      (⟨2, 8⟩ : Span).trimStart (saturatingSum 3 (wordCount - 6)) = .ok t ∧ t.isEmpty = true := by
  obtain ⟨-, htwice, -⟩ := trimStart_saturates (s := ⟨2, 8⟩) (n := 3) (by decide) (by decide)
    (by decide)
  obtain ⟨t, hchain, hsum⟩ := htwice (wordCount - 6) (by decide) (by decide)
  cases hsum
  exact ⟨_, hchain, rfl, rfl⟩

/-- A span of one byte, and the greatest word to trim it by. -/
theorem trimStart_leaves_words :
    ∃ s : Span, s.Ordered ∧ s.stop < wordCount ∧ s.start + (wordCount - 1) = wordCount ∧
      s.trimStart (wordCount - 1) = .error .addOverflow :=
  ⟨⟨1, 2⟩, by decide, by decide, by decide, trimStart_of_le (by decide)⟩

end Span

end RuleLexer
