import RuleLexer.Pattern.Search

/-!
# Expressions that lead from the start of a text

If every branch of an expression begins with the assertion of the start of the text, then no match
of it begins behind the first character.
-/

namespace RuleLexer.Regex

/-- Every branch begins with the assertion of the start of the text. -/
def leads : Regex → Bool
  | empty => false
  | set _ => false
  | assert a => a == .textStart
  | cat p _ => p.leads
  | alt p q => p.leads && q.leads
  | plus _ p => p.leads

theorem reach_inside {r : Regex} (h : r.leads = true) (b : Char) (after : Option Char)
    (next : Column r) : reach r ⟨some b, after⟩ next = ⟨none, false, none⟩ := by
  induction r with
  | empty => cases h
  | set s => cases h
  | assert a =>
      obtain rfl : a = .textStart := beq_iff_eq.mp h
      rfl
  | cat p q ihp ihq =>
      rw [reach, ihp h next.1]
      rfl
  | alt p q ihp ihq =>
      obtain ⟨hp, hq⟩ := (Bool.and_eq_true _ _).mp h
      rw [reach, ihp hp next.1, ihq hq next.2]
      rfl
  | plus greedy p ih => exact ih h next

theorem scan_inside {r : Regex} (h : r.leads = true) (b : Char) (text : Text) :
    (scan r (some b) text).2 = none := by
  induction text generalizing b with
  | nil =>
      rw [scan_nil, reach_inside h]
      rfl
  | cons c text ih =>
      rw [scan_cons, reach_inside h, ih]
      rfl

theorem find?_of_leads {r : Regex} (h : r.leads = true) {text : Text} {skipped length : Nat}
    (hfind : find? r text = some (skipped, length)) : skipped = 0 := by
  cases text with
  | nil =>
      rw [find?, scan_nil] at hfind
      obtain ⟨n, -, hn⟩ := Option.map_eq_some_iff.mp hfind
      exact (congrArg Prod.fst hn).symm
  | cons c text =>
      rw [find?, scan_cons, scan_inside h] at hfind
      dsimp only at hfind
      split at hfind
      · cases hfind
        rfl
      · cases hfind

end RuleLexer.Regex
