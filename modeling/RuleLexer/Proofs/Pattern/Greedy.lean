import RuleLexer.Pattern.Anchored
import RuleLexer.Proofs.Pattern.Leading
import RuleLexer.Proofs.Text.Runs
import RuleLexer.Text.Bytes

/-!
# Matches of simple anchored expressions

Behind an anchor, a match is found at the start of a text or not at all. Two
kinds of expressions are given as functions on the text: a greedy run of one
set, and greedy runs of one set, which cannot be empty, with greedy runs of
another set between them.
-/

namespace RuleLexer

open Text

namespace Regex

/-- The preferred match at the start of a text behind `before`. -/
def lengthAt (r : Regex) (before : Option Char) : Text → Option Nat
  | [] => (reach r ⟨before, none⟩ (Column.blank r)).followedBy (some 0)
  | c :: text => (reach r ⟨before, some c⟩ (scan r (some c) text).1).followedBy (some 0)

theorem column_anchored (r : Regex) (before : Option Char) (text : Text) :
    (scan (.cat (.assert .textStart) r) before text).1 = ((), (scan r before text).1) := by
  induction text generalizing before with
  | nil =>
      rw [scan_nil, scan_nil]
      rfl
  | cons c text ih =>
      rw [scan_cons, scan_cons, ih]
      rfl

theorem followedBy_anchored (r : Regex) (after : Option Char) (next : Column r) (k : Option Nat) :
    (reach (.cat (.assert .textStart) r) ⟨none, after⟩ ((), next)).followedBy k =
      (reach r ⟨none, after⟩ next).followedBy k := by
  change ((⟨none, true, none⟩ : Reach).cat (reach r ⟨none, after⟩ next)).followedBy k = _
  cases reach r ⟨none, after⟩ next with
  | mk first nothing last =>
      cases nothing <;> cases first <;> cases last <;> cases k <;> rfl

theorem find?_anchored (r : Regex) (text : Text) :
    find? (.cat (.assert .textStart) r) text = (lengthAt r none text).map (0, ·) := by
  cases text with
  | nil =>
      rw [find?, scan_nil]
      exact congrArg (Option.map _) (followedBy_anchored r none _ _)
  | cons c text =>
      have hlength : (reach (.cat (.assert .textStart) r) ⟨none, some c⟩
          ((), (scan r (some c) text).1)).followedBy (some 0) = lengthAt r none (c :: text) :=
        followedBy_anchored r (some c) _ _
      have hleads : (cat (.assert .textStart) r).leads = true := rfl
      rw [find?, scan_cons, column_anchored, scan_inside hleads]
      simp only
      split
      · next n hread => rw [hlength.symm.trans hread, Option.map_some]
      · next hread => rw [hlength.symm.trans hread, Option.map_none, Option.map_none]

theorem prefixLength_anchored (pattern : Text) (r : Regex) (text : Text) :
    (⟨pattern, .cat (.assert .textStart) r⟩ : Anchored).prefixLength text =
      (lengthAt r none text).filter (0 < ·) := by
  simp only [Anchored.prefixLength, find?_anchored]
  cases lengthAt r none text with
  | none => rfl
  | some n => simp [Option.filter_some]

section Run

variable (s : CharSet)

/-- A greedy run of a set. -/
def run : Regex := .plus true (.set s)

theorem column_run (before : Option Char) (text : Text) :
    (scan (run s) before text).1 = some (byteSize (text.takeWhile s.mem)) := by
  induction text generalizing before with
  | nil => rfl
  | cons c text ih =>
      rw [scan_cons, ih]
      have hstep : (((if s.mem c then some (c.utf8Size + byteSize (text.takeWhile s.mem))
          else none) <|> none) <|> (some 0 : Option Nat)) =
          some (byteSize ((c :: text).takeWhile s.mem)) := by
        cases hc : s.mem c with
        | false => simp [hc]
        | true => simp [hc]
      exact hstep

theorem lengthAt_run (before : Option Char) (text : Text) :
    lengthAt (run s) before text =
      if text.takeWhile s.mem = [] then none else some (byteSize (text.takeWhile s.mem)) := by
  cases text with
  | nil => rfl
  | cons c text =>
      rw [lengthAt, column_run]
      change ((if s.mem c = true then some (c.utf8Size + byteSize (text.takeWhile s.mem))
        else none) <|> (none <|> none)) = _
      cases hc : s.mem c with
      | false => simp [hc]
      | true => simp [hc]

end Run

section Words

variable (chars blanks : CharSet)

/-- Greedy runs of `chars` with greedy runs of `blanks` between them. -/
def words : Regex := .cat (run chars) (.star true (.cat (run blanks) (run chars)))

mutual

/-- The bytes that a match still takes within a word. -/
def inWord : Text → Nat
  | [] => 0
  | c :: text =>
      if chars.mem c then c.utf8Size + inWord text
      else if blanks.mem c then ((inGap text).map (c.utf8Size + ·)).getD 0
      else 0

/-- The bytes that a match still takes within a gap, if a word follows. -/
def inGap : Text → Option Nat
  | [] => none
  | c :: text =>
      if chars.mem c then some (c.utf8Size + inWord text)
      else if blanks.mem c then (inGap text).map (c.utf8Size + ·)
      else none

end

variable {chars blanks}

theorem column_words (hdisjoint : ∀ c, blanks.mem c = true → chars.mem c = false)
    (before : Option Char) (text : Text) :
    (scan (words chars blanks) before text).1 = (some (inWord chars blanks text),
      ((inGap chars blanks text, some (inWord chars blanks text)), ())) := by
  induction text generalizing before with
  | nil => rfl
  | cons c text ih =>
      rw [scan_cons, ih]
      let toWord : Option Nat :=
        if chars.mem c then some (c.utf8Size + inWord chars blanks text) else none
      let toGap : Option Nat :=
        if blanks.mem c then (inGap chars blanks text).map (c.utf8Size + ·) else none
      have hfirst : ((toWord <|> none) <|> (((toGap <|> none) <|> none) <|> none) <|>
          some 0 <|> none) = some (inWord chars blanks (c :: text)) := by
        simp only [toWord, toGap, inWord]
        cases chars.mem c <;> cases blanks.mem c <;> cases inGap chars blanks text <;> rfl
      have hgap : ((toGap <|> none) <|> toWord <|> none <|> none) =
          inGap chars blanks (c :: text) := by
        have hdisjoint := hdisjoint c
        revert hdisjoint
        simp only [toWord, toGap, inGap]
        cases chars.mem c <;> cases blanks.mem c <;> cases inGap chars blanks text <;> simp
      have hlater : ((toWord <|> none) <|> ((toGap <|> none) <|> none) <|> some 0) =
          some (inWord chars blanks (c :: text)) := by
        simp only [toWord, toGap, inWord]
        cases chars.mem c <;> cases blanks.mem c <;> cases inGap chars blanks text <;> rfl
      exact Prod.ext hfirst (Prod.ext (Prod.ext hgap hlater) rfl)

theorem lengthAt_words (hdisjoint : ∀ c, blanks.mem c = true → chars.mem c = false)
    (before : Option Char) (text : Text) :
    lengthAt (words chars blanks) before text =
      if text.takeWhile chars.mem = [] then none else some (inWord chars blanks text) := by
  cases text with
  | nil => rfl
  | cons c text =>
      rw [lengthAt, column_words hdisjoint]
      have hreach : (((if chars.mem c then some (c.utf8Size + inWord chars blanks text)
          else none) <|> none) <|> (none <|> none : Option Nat)) =
          if (c :: text).takeWhile chars.mem = [] then none
          else some (inWord chars blanks (c :: text)) := by
        cases hc : chars.mem c with
        | false => simp [hc]
        | true => simp [hc, inWord]
      exact hreach

theorem inWord_run {front : Text} (h : ∀ c ∈ front, chars.mem c = true) (text : Text) :
    inWord chars blanks (front ++ text) = byteSize front + inWord chars blanks text := by
  induction front with
  | nil => simp
  | cons c front ih =>
      rw [List.forall_mem_cons] at h
      simp [inWord, h.1, ih h.2, Nat.add_assoc]

theorem inGap_of_not_stops {text : Text} (h : ¬Stops chars.mem text) :
    inGap chars blanks text = some (inWord chars blanks text) := by
  cases text with
  | nil => exact absurd stops_nil h
  | cons c text =>
      have hc : chars.mem c = true := by simpa using h
      simp [inGap, inWord, hc]

theorem inGap_blanks (hdisjoint : ∀ c, blanks.mem c = true → chars.mem c = false) {front : Text}
    (h : ∀ c ∈ front, blanks.mem c = true) (text : Text) :
    inGap chars blanks (front ++ text) =
      (inGap chars blanks text).map (byteSize front + ·) := by
  induction front with
  | nil => simp
  | cons c front ih =>
      rw [List.forall_mem_cons] at h
      simp only [List.cons_append, inGap, hdisjoint c h.1, h.1, ih h.2, byteSize_cons]
      cases inGap chars blanks text <;> simp [Nat.add_assoc]

theorem inWord_blanks (hdisjoint : ∀ c, blanks.mem c = true → chars.mem c = false) {front : Text}
    (h : ∀ c ∈ front, blanks.mem c = true) (hne : front ≠ []) (text : Text) :
    inWord chars blanks (front ++ text) =
      ((inGap chars blanks text).map (byteSize front + ·)).getD 0 := by
  cases front with
  | nil => exact absurd rfl hne
  | cons c front =>
      rw [List.forall_mem_cons] at h
      simp only [List.cons_append, inWord, hdisjoint c h.1, h.1, inGap_blanks hdisjoint h.2,
        byteSize_cons]
      cases inGap chars blanks text <;> simp [Nat.add_assoc]

theorem inWord_stops {text : Text} (hchars : Stops chars.mem text)
    (hblanks : Stops blanks.mem text) : inWord chars blanks text = 0 := by
  cases text with
  | nil => rfl
  | cons c text => simp [inWord, stops_cons.mp hchars, stops_cons.mp hblanks]

theorem inGap_stops {text : Text} (hchars : Stops chars.mem text)
    (hblanks : Stops blanks.mem text) : inGap chars blanks text = none := by
  cases text with
  | nil => rfl
  | cons c text => simp [inGap, stops_cons.mp hchars, stops_cons.mp hblanks]

end Words

end Regex

end RuleLexer
