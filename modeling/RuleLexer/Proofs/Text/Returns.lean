import RuleLexer.Proofs.Text.Place

/-!
# Carriage returns before newlines

A text whose lines end with newlines can be given a carriage return before
each of them. Unless it had carriage returns before, its lines stay as they
were, and so does the place behind every part of it.
-/

namespace RuleLexer

namespace Text

/-- The text with a carriage return before each of its newlines. -/
def withReturns (text : Text) : Text :=
  text.flatMap fun c => if c = '\n' then ['\r', '\n'] else [c]

@[simp] theorem withReturns_nil : withReturns [] = [] := rfl

@[simp] theorem withReturns_append (a b : Text) :
    withReturns (a ++ b) = withReturns a ++ withReturns b := List.flatMap_append

theorem withReturns_cons_of_ne {c : Char} (h : c ≠ '\n') (text : Text) :
    withReturns (c :: text) = c :: withReturns text := by
  simp [withReturns, h]

theorem withReturns_of_not_mem {text : Text} (h : '\n' ∉ text) : withReturns text = text := by
  induction text with
  | nil => rfl
  | cons c text ih =>
      rw [List.mem_cons, not_or] at h
      rw [withReturns_cons_of_ne (Ne.symm h.1), ih h.2]

theorem withReturns_eq_nil {text : Text} : withReturns text = [] ↔ text = [] := by
  constructor
  · intro h
    cases text with
    | nil => rfl
    | cons c text =>
        have hc := (List.flatMap_eq_nil_iff.mp h) c List.mem_cons_self
        split at hc <;> simp at hc
  · rintro rfl
    rfl

theorem byteSize_le_withReturns (text : Text) : byteSize text ≤ byteSize (withReturns text) := by
  induction text with
  | nil => exact Nat.le_refl _
  | cons c text ih =>
      by_cases hc : c = '\n'
      · have hcons : withReturns (c :: text) = '\r' :: '\n' :: withReturns text := by
          simp [withReturns, hc]
        rw [hcons, hc, byteSize_cons, byteSize_cons, byteSize_cons]
        omega
      · rw [withReturns_cons_of_ne hc, byteSize_cons, byteSize_cons]
        omega

theorem place_withReturns (text : Text) : place (withReturns text) = place text := by
  induction text using List.reverseRecOn with
  | nil => rfl
  | append_singleton text c ih =>
      rw [withReturns_append]
      by_cases hc : c = '\n'
      · subst hc
        have hbreak : withReturns ['\n'] = ['\r', '\n'] := rfl
        rw [hbreak, place_append_break _ (.inr rfl), place_append_break _ (.inl rfl), ih]
      · have hfeed : '\n' ∉ [c] := by simpa using Ne.symm hc
        rw [withReturns_of_not_mem hfeed, place_append_of_not_mem _ hfeed,
          place_append_of_not_mem _ hfeed, ih]

/-- The break with a carriage return, if it has a newline. -/
def Break.withReturn : Break → Break
  | none => none
  | feed => returnFeed
  | returnFeed => returnFeed

theorem Break.withReturn_eq_none {brk : Break} : brk.withReturn = none ↔ brk = none := by
  cases brk <;> simp [withReturn]

namespace Begins

variable {text line rest : Text} {brk : Break}

theorem withReturns (h : Begins text line brk rest) (hreturn : '\r' ∉ text) :
    Begins (withReturns text) line brk.withReturn (withReturns rest) where
  eq := by
    have hbrk : Text.withReturns brk.text = brk.withReturn.text := by
      cases brk with
      | none => rfl
      | feed => rfl
      | returnFeed => simp [h.eq, Break.text] at hreturn
    rw [h.eq, withReturns_append, withReturns_append, withReturns_of_not_mem h.noFeed, hbrk]
  noFeed := h.noFeed
  last := by
    intro hnone
    rw [h.last (Break.withReturn_eq_none.mp hnone)]
    rfl
  noReturn := by
    intro hfeed
    cases brk <;> simp [Break.withReturn] at hfeed

theorem not_mem_rest (h : Begins text line brk rest) {c : Char} (hc : c ∉ text) : c ∉ rest := by
  intro hmem
  rw [h.eq] at hc
  simp [hmem] at hc

end Begins

theorem lines_withReturns {text : Text} (hreturn : '\r' ∉ text) :
    lines (withReturns text) = lines text := by
  obtain ⟨brk, rest, h⟩ := exists_begins text
  rw [h.lines_eq, (h.withReturns hreturn).lines_eq]
  simp only [Break.withReturn_eq_none]
  by_cases hbrk : brk = .none
  · rw [if_pos hbrk, if_pos hbrk]
  · have hlt := h.length_lt hbrk
    rw [if_neg hbrk, if_neg hbrk, lines_withReturns (h.not_mem_rest hreturn)]
termination_by text.length

end Text

theorem Source.text_ofText_suffix (text : Text) : (ofText text).text <:+ text := by
  cases text with
  | nil => exact List.suffix_rfl
  | cons c text =>
      rw [ofText]
      split
      · exact List.suffix_cons c text
      · exact List.suffix_rfl

/-- The byte order mark of a text is dropped with carriage returns as without them. -/
theorem Source.text_ofText_withReturns (text : Text) :
    (ofText text.withReturns).text = (ofText text).text.withReturns := by
  cases text with
  | nil => rfl
  | cons c text =>
      by_cases hfeed : c = '\n'
      · subst hfeed
        rfl
      · rw [Text.withReturns_cons_of_ne hfeed, ofText, ofText]
        by_cases hmark : c = byteOrderMark
        · rw [if_pos hmark, if_pos hmark]
          rfl
        · rw [if_neg hmark, if_neg hmark]
          exact (Text.withReturns_cons_of_ne hfeed text).symm

end RuleLexer
