import RuleLexer.Text.Source

/-!
# Slices at known splits

A source that is written as a sequence of texts is sliced at the byte
sizes of its parts. A boundary is the size of the first of two parts. A
text without a byte order mark is the text of its source.
-/

namespace RuleLexer

namespace Text

theorem isBoundary_iff {text : Text} {n : Nat} :
    isBoundary text n = true ↔ ∃ front rest, text = front ++ rest ∧ byteSize front = n := by
  unfold isBoundary
  rw [Option.isSome_iff_exists]
  constructor
  · rintro ⟨rest, h⟩
    obtain ⟨front, htext, hsize⟩ := dropBytes?_eq_some.mp h
    exact ⟨front, rest, htext, hsize⟩
  · rintro ⟨front, rest, htext, hsize⟩
    exact ⟨rest, dropBytes?_eq_some.mpr ⟨front, htext, hsize⟩⟩

theorem isBoundary_zero (text : Text) : isBoundary text 0 = true := by
  simp [isBoundary]

theorem between?_of_eq_append {text a b c : Text} (h : text = a ++ (b ++ c)) :
    between? text ⟨byteSize a, byteSize a + byteSize b⟩ = some b := by
  have hdrop : dropBytes? text (byteSize a) = some (b ++ c) :=
    dropBytes?_eq_some.mpr ⟨a, h, rfl⟩
  have htake : takeBytes? (b ++ c) (byteSize b) = some b :=
    takeBytes?_eq_some.mpr ⟨⟨c, rfl⟩, rfl⟩
  simp only [between?, Nat.le_add_right, if_true, hdrop, Option.bind_some]
  rwa [Nat.add_sub_cancel_left]

theorem between?_eq_some {text found : Text} {s : Span} :
    between? text s = some found ↔
      ∃ before after, text = before ++ (found ++ after) ∧ byteSize before = s.start ∧
        s.stop = s.start + byteSize found := by
  constructor
  · intro h
    unfold between? at h
    split at h
    · rename_i hle
      obtain ⟨tail, hdrop, htake⟩ := Option.bind_eq_some_iff.mp h
      obtain ⟨before, rfl, hbefore⟩ := dropBytes?_eq_some.mp hdrop
      obtain ⟨⟨after, rfl⟩, hfound⟩ := takeBytes?_eq_some.mp htake
      exact ⟨before, after, rfl, hbefore, by omega⟩
    · simp at h
  · rintro ⟨before, after, htext, hbefore, hstop⟩
    have h := between?_of_eq_append htext
    rwa [hbefore, ← hstop] at h

theorem exists_between? {text : Text} {a b : Nat} (ha : isBoundary text a = true)
    (hb : isBoundary text b = true) (h : a ≤ b) : ∃ found, between? text ⟨a, b⟩ = some found := by
  obtain ⟨front, rest, htext, rfl⟩ := isBoundary_iff.mp ha
  obtain ⟨front', rest', htext', rfl⟩ := isBoundary_iff.mp hb
  rcases List.append_eq_append_iff.mp (htext.symm.trans htext') with
    ⟨found, rfl, rfl⟩ | ⟨found, rfl, -⟩
  · rw [byteSize_append]
    exact ⟨found, between?_of_eq_append htext⟩
  · -- The other way round, the two positions are the same.
    rw [byteSize_append] at h
    obtain rfl : found = [] := byteSize_eq_zero.mp (by omega)
    rw [List.append_nil]
    exact ⟨[], between?_eq_some.mpr ⟨front', rest', htext', rfl, rfl⟩⟩

/-- Nothing lies between two positions if the second one is within a character. -/
theorem between?_of_not_boundary {text : Text} {s : Span} (h : isBoundary text s.stop = false) :
    between? text s = none := by
  rw [Option.eq_none_iff_forall_ne_some]
  intro found hfound
  obtain ⟨before, after, htext, hbefore, hstop⟩ := between?_eq_some.mp hfound
  have hboundary : isBoundary text s.stop = true :=
    isBoundary_iff.mpr ⟨before ++ found, after, by simp [htext], by simp [hbefore, hstop]⟩
  simp [hboundary] at h

end Text

namespace Source

theorem slice_of_eq_append {source : Source} {a b c : Text} (h : source.text = a ++ (b ++ c)) :
    source.slice ⟨Text.byteSize a, Text.byteSize a + Text.byteSize b⟩ = b := by
  simp [slice, Text.between?_of_eq_append h]

theorem slice_to_end {source : Source} {a b : Text} (h : source.text = a ++ b) :
    source.slice ⟨Text.byteSize a, source.size⟩ = b := by
  have hsize : source.size = Text.byteSize a + Text.byteSize b := by
    rw [size, h, Text.byteSize_append]
  rw [hsize]
  have hsplit : source.text = a ++ (b ++ []) := by simpa using h
  exact slice_of_eq_append hsplit

theorem text_ofText {text : Text} (h : text.head? ≠ some byteOrderMark) :
    (ofText text).text = text := by
  cases text with
  | nil => rfl
  | cons c rest =>
      have hc : c ≠ byteOrderMark := fun heq => h (congrArg some heq)
      rw [ofText, if_neg hc]
      rfl

/-- What stands before the text of its source in a text is a byte order mark, or there is nothing.
It can be put before another text as well. -/
theorem text_ofText_append {text front : Text}
    (h : text = front ++ (ofText text).text) {text' : Text}
    (hhead : (ofText text).text.head? ≠ some byteOrderMark →
      text'.head? ≠ some byteOrderMark) : (ofText (front ++ text')).text = text' := by
  cases text with
  | nil =>
      obtain rfl := (List.append_eq_nil_iff.mp h.symm).1
      exact text_ofText (hhead (by simp [ofText, exactly]))
  | cons c rest =>
      by_cases hmark : c = byteOrderMark
      · have hrest : (ofText (c :: rest)).text = rest := by
          rw [ofText, if_pos hmark]
          rfl
        rw [hrest] at h
        obtain rfl : [c] = front := List.append_cancel_right h
        rw [List.singleton_append, ofText, if_pos hmark]
        rfl
      · have hall : (ofText (c :: rest)).text = c :: rest := by
          rw [ofText, if_neg hmark]
          rfl
        rw [hall] at h hhead
        obtain rfl : [] = front := List.append_cancel_right h
        exact text_ofText (hhead (by simpa using hmark))

end Source

end RuleLexer
