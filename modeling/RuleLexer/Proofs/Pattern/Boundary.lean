import RuleLexer.Pattern.Anchored
import RuleLexer.Proofs.Text.Slice

/-!
# Matches end between two characters

Every length that the search for a match computes at a position is the size
of whole characters of the text that follows. So a match of any expression
in any text begins and ends at a character boundary.
-/

namespace RuleLexer

namespace Text

theorem isBoundary_cons {c : Char} {text : Text} {n : Nat} (h : isBoundary text n = true) :
    isBoundary (c :: text) (c.utf8Size + n) = true := by
  obtain ⟨front, rest, htext, hn⟩ := isBoundary_iff.mp h
  exact isBoundary_iff.mpr ⟨c :: front, rest, by simp [htext], by simp [hn]⟩

/-- The length, if there is one, is that of whole characters at the start of the text. -/
def Cuts (text : Text) (length : Option Nat) : Prop := ∀ n ∈ length, isBoundary text n = true

@[simp] theorem cuts_none (text : Text) : Cuts text none := by simp [Cuts]

theorem cuts_zero (text : Text) : Cuts text (some 0) := by
  simp [Cuts, isBoundary_zero]

theorem Cuts.orElse {text : Text} {a b : Option Nat} (ha : Cuts text a) (hb : Cuts text b) :
    Cuts text (a <|> b) := by
  cases a with
  | none => exact hb
  | some n => exact ha

theorem Cuts.cons {text : Text} {a : Option Nat} (h : Cuts text a) (c : Char) :
    Cuts (c :: text) (a.map (c.utf8Size + ·)) := by
  intro n hn
  obtain ⟨m, hm, rfl⟩ := Option.map_eq_some_iff.mp hn
  exact isBoundary_cons (h m hm)

end Text

namespace Regex

open Text

namespace Reach

structure Cuts (text : Text) (reach : Reach) : Prop where
  first : Text.Cuts text reach.first
  last : Text.Cuts text reach.last

variable {text : Text} {a b : Reach}

theorem Cuts.progress (h : a.Cuts text) : Text.Cuts text a.progress := h.first.orElse h.last

theorem Cuts.followedBy (h : a.Cuts text) {k : Option Nat} (hk : Text.Cuts text k) :
    Text.Cuts text (a.followedBy k) := by
  refine h.first.orElse (.orElse ?_ h.last)
  split
  · exact hk
  · exact cuts_none text

theorem Cuts.cat (ha : a.Cuts text) (hb : b.Cuts text) : (a.cat b).Cuts text := by
  unfold Reach.cat
  split
  · exact ⟨ha.first.orElse hb.first, hb.last.orElse ha.last⟩
  · exact ⟨ha.first.orElse (hb.progress.orElse ha.last), cuts_none text⟩

theorem Cuts.alt (ha : a.Cuts text) (hb : b.Cuts text) : (a.alt b).Cuts text := by
  unfold Reach.alt
  split
  · exact ⟨ha.first, ha.last.orElse hb.progress⟩
  · exact ⟨ha.progress.orElse hb.first, hb.last⟩

end Reach

/-- Every length in the column is one of whole characters. -/
def Column.Cuts (text : Text) : (r : Regex) → Column r → Prop
  | set _, k => Text.Cuts text k
  | cat p q, next => Cuts text p next.1 ∧ Cuts text q next.2
  | alt p q, next => Cuts text p next.1 ∧ Cuts text q next.2
  | plus _ p, next => Cuts text p next
  | empty, _ => True
  | assert _, _ => True

theorem Column.cuts_blank (text : Text) (r : Regex) : Cuts text r (blank r) := by
  induction r with
  | empty => trivial
  | set s => exact cuts_none text
  | assert a => trivial
  | cat p q ihp ihq => exact ⟨ihp, ihq⟩
  | alt p q ihp ihq => exact ⟨ihp, ihq⟩
  | plus greedy p ih => exact ih

theorem reach_cuts (r : Regex) (text : Text) {here : Surround} (hafter : here.after = text.head?)
    {next : Column r} (h : Column.Cuts text.tail r next) : (reach r here next).Cuts text := by
  induction r with
  | empty => exact ⟨cuts_none text, cuts_none text⟩
  | assert a => exact ⟨cuts_none text, cuts_none text⟩
  | set s =>
      cases text with
      | nil =>
          simp only [reach, hafter, List.head?_nil]
          exact ⟨cuts_none [], cuts_none []⟩
      | cons c text =>
          simp only [reach, hafter, List.head?_cons]
          refine ⟨?_, cuts_none _⟩
          split
          · exact Text.Cuts.cons h c
          · exact cuts_none _
  | cat p q ihp ihq =>
      have hp := ihp h.1
      simp only [reach]
      split
      · exact hp.cat (ihq h.2)
      · exact ⟨hp.progress, cuts_none text⟩
  | alt p q ihp ihq => exact (ihp h.1).alt (ihq h.2)
  | plus greedy p ih => exact ih h

theorem column_cuts (r : Regex) (text : Text) {here : Surround} (hafter : here.after = text.head?)
    {next : Column r} (h : Column.Cuts text.tail r next) {k : Option Nat} (hk : Text.Cuts text k) :
    Column.Cuts text r (column r here next k) := by
  induction r generalizing k with
  | empty => trivial
  | assert a => trivial
  | set s => exact hk
  | cat p q ihp ihq => exact ⟨ihp h.1 ((reach_cuts q text hafter h.2).followedBy hk), ihq h.2 hk⟩
  | alt p q ihp ihq => exact ⟨ihp h.1 hk, ihq h.2 hk⟩
  | plus greedy p ih =>
      have hagain := (reach_cuts p text hafter h).progress
      refine ih h ?_
      split
      · exact hagain.orElse hk
      · exact hk.orElse hagain

theorem scan_cuts (r : Regex) (before : Option Char) (text : Text) :
    Column.Cuts text r (scan r before text).1 ∧
      ∀ found ∈ (scan r before text).2, isBoundary text (found.1 + found.2) = true := by
  induction text generalizing before with
  | nil =>
      rw [scan_nil]
      have hblank := Column.cuts_blank [] r
      refine ⟨column_cuts r [] rfl hblank (cuts_zero _), ?_⟩
      intro found hfound
      obtain ⟨n, hn, rfl⟩ := Option.map_eq_some_iff.mp hfound
      simpa using (reach_cuts r [] rfl hblank).followedBy (cuts_zero _) n hn
  | cons c text ih =>
      obtain ⟨hnext, hlater⟩ := ih (some c)
      rw [scan_cons]
      refine ⟨column_cuts r (c :: text) rfl hnext (cuts_zero _), ?_⟩
      intro found hfound
      dsimp only at hfound
      split at hfound
      · rename_i n hn
        cases hfound
        simpa using (reach_cuts r (c :: text) rfl hnext).followedBy (cuts_zero _) n hn
      · obtain ⟨later, hmem, rfl⟩ := Option.map_eq_some_iff.mp hfound
        have := isBoundary_cons (c := c) (hlater later hmem)
        simpa [Nat.add_assoc] using this

end Regex

theorem Anchored.isBoundary_prefixLength {p : Anchored} {text : Text} {n : Nat}
    (h : p.prefixLength text = some n) : 0 < n ∧ Text.isBoundary text n = true := by
  unfold prefixLength Regex.find? at h
  split at h
  · rename_i skipped length hfound
    split at h
    · rename_i hpos
      cases h
      exact ⟨hpos, (p.regex.scan_cuts none text).2 _ hfound⟩
    · simp at h
  · simp at h

end RuleLexer
