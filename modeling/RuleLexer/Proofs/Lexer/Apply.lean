import RuleLexer.Lexer.Repeat
import RuleLexer.Proofs.Chain

/-!
# Applications of compound rules

What a compound rule does, as a chain of the applications of its parts.
-/

namespace RuleLexer

namespace Rule

variable {K : Type} (a b r : Rule K) (rs : List (Rule K)) (l : Lexer K)

theorem apply_text (literal : Text) (kind : K) :
    (text literal kind).apply l = l.matchSpan (·.literal? literal) kind := rfl

theorem apply_char (c : Char) (kind : K) :
    (char c kind).apply l = l.matchSpan (·.char? c) kind := rfl

theorem apply_run (p : Char → Bool) (kind : K) :
    (run p kind).apply l = l.matchSpan (·.run? p) kind := rfl

theorem apply_pattern (p : Anchored) (kind : K) :
    (pattern p kind).apply l = l.matchSpan (·.lineMatch? p.prefixLength) kind := rfl

theorem apply_eof : (eof : Rule K).apply l = .ok (if l.isDone then l else l.fail) := rfl

theorem apply_sequence : (sequence a b).apply l = (a.apply l).bind fun m =>
    if m.failed then .ok l.fail
    else (b.apply m).bind fun n => if n.failed then .ok l.fail else .ok n := rfl

theorem apply_choice : (choice a b).apply l = (a.apply l).bind fun m =>
    if m.failed then b.apply l else .ok m := rfl

theorem apply_option : (option a).apply l = (a.apply l).bind fun m =>
    if m.failed then .ok l else .ok m := rfl

theorem apply_not : (not a).apply l = if l.failed then .ok l.fail
    else (a.apply l).bind fun m => if m.failed then .ok l else .ok l.fail := rfl

theorem applyAll_cons (origin : Lexer K) : applyAll origin (r :: rs) l = (r.apply l).bind fun m =>
    if m.failed then .ok origin.fail else applyAll origin rs m := rfl

theorem applyFirst_cons : applyFirst l (r :: rs) = (r.apply l).bind fun m =>
    if m.failed then applyFirst l rs else .ok m := rfl

theorem iterate_succ (max fuel count : Nat) : iterate r max (fuel + 1) count l =
    if count < max then (r.apply l).bind fun m =>
      match m.state with
      | .noMatch => .ok ⟨count, l, false⟩
      | .done => .ok ⟨count + 1, m, false⟩
      | .matching =>
          if m.position = l.position then .ok ⟨count, l, true⟩
          else iterate r max fuel (count + 1) m
    else .ok ⟨count, l, false⟩ := rfl

theorem apply_repeatCounts_none : (repeatCounts r none).apply l = .ok l.fail := rfl

theorem apply_repeatCounts_some (counts : Counts) : (repeatCounts r (some counts)).apply l =
    if l.failed then .ok l
    else (iterate r counts.max (l.bytesLeft + 1) 0 l).bind fun done =>
      if counts.min ≤ done.count ∨ done.saturated then .ok done.lexer else .ok l.fail := rfl

end Rule

end RuleLexer
