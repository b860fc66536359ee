import RuleLexer.Lexer.Rule

/-!
# Rules that refer to one another

A family of rules may be given by bodies in which every rule of the family may occur. Such a rule
is unrolled only as far as the input asks for: between two steps that read something, no rule can
meet itself in the same state without doing so forever.
-/

namespace RuleLexer.Rule

variable {K ι : Type}

/-- The rules of a family, with at most `depth` rules inside one another. -/
def unroll (body : (ι → Rule K) → ι → Rule K) : Nat → ι → Rule K
  | 0, _ => of fun _ => .error .endlessRule
  | depth + 1, i => of fun l => (body (unroll body depth) i).apply l

/-- How many rules of a family of this size can be inside one another at a lexer: each in each of
the three states, at each place of the text that is left. -/
def nesting (size : Nat) (l : Lexer K) : Nat := 3 * size * (l.bytesLeft + 1)

/-- A rule of a family of `size` rules. -/
def recursive (size : Nat) (body : (ι → Rule K) → ι → Rule K) (i : ι) : Rule K :=
  of fun l => (unroll body (nesting size l) i).apply l

end RuleLexer.Rule
