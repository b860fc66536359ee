import RuleLexer.Proofs.Lexer.Reachable

/-!
# Rules see only the text that is left

Two lexers stand before the same text, each at a place of its own in a
source of its own. A built rule fails on both or on neither. Where it does
not fail it reads the same tokens from both, and the spans of these tokens
differ as the two places do.
-/

namespace RuleLexer

variable {K : Type}

/-- The token `n` bytes further on. -/
def Token.shift (n : Nat) (t : Token K) : Token K :=
  ⟨⟨t.span.start + n, t.span.stop + n⟩, t.kind⟩

namespace Piece

theorem tokensFrom_add (offset n : Nat) (ps : List (Piece K)) :
    tokensFrom (offset + n) ps = (tokensFrom offset ps).map (Token.shift n) := by
  induction ps generalizing offset with
  | nil => rfl
  | cons p ps ih =>
      have hnext : offset + n + p.size = offset + p.size + n := Nat.add_right_comm _ _ _
      rw [tokensFrom_cons, tokensFrom_cons, List.map_cons, hnext, ih]
      rfl

end Piece

namespace Lexer

/-- On the ways from `l` to `l'` in `a` and from `m` to `m'` in `b` the same tokens were read, each
counted from where its lexer stood, and the same text is left behind them. -/
structure Parallel (a b : Source) (l l' m m' : Lexer K) : Prop where
  tokens : ∃ ts : List (Token K), l'.tokens = l.tokens ++ ts.map (Token.shift l.position) ∧
    m'.tokens = m.tokens ++ ts.map (Token.shift m.position) ∧
    ∀ t ∈ ts, (t.shift l.position).text a = (t.shift m.position).text b
  state_eq : l'.state = m'.state
  rest_eq : l'.remaining.text = m'.remaining.text

variable {a b : Source} {l m : Lexer K}

theorem At.tokens_readAll_shift {ps : List (Piece K)} {rest : Text}
    (h : l.At (Piece.join ps ++ rest)) :
    (l.readAll ps).tokens = l.tokens ++ (Piece.tokensFrom 0 ps).map (Token.shift l.position) := by
  rw [h.tokens_readAll, ← Piece.tokensFrom_add, Nat.zero_add]

theorem At.map_text_shift {ps : List (Piece K)} {rest : Text} (h : l.At (Piece.join ps ++ rest)) :
    ((Piece.tokensFrom 0 ps).map (Token.shift l.position)).map (·.text l.source) =
      ps.map (·.text) := by
  obtain ⟨front, htext, hfront⟩ := h.exists_front
  rw [← Piece.tokensFrom_add, Nat.zero_add, ← hfront]
  exact Piece.map_text_tokensFrom htext

theorem At.parallel {ps : List (Piece K)} {rest : Text} (hl : l.At (Piece.join ps ++ rest))
    (hm : m.At (Piece.join ps ++ rest)) :
    Parallel l.source m.source l (l.readAll ps) m (m.readAll ps) where
  tokens := by
    refine ⟨Piece.tokensFrom 0 ps, hl.tokens_readAll_shift, hm.tokens_readAll_shift, ?_⟩
    have htexts := hl.map_text_shift.trans hm.map_text_shift.symm
    rw [List.map_map, List.map_map, List.map_inj_left] at htexts
    exact htexts
  state_eq := by rw [hl.readAll.state, hm.readAll.state]
  rest_eq := by rw [hl.readAll.text_eq, hm.readAll.text_eq]

theorem At.exists_parallel {r : Rule K} {f : Reader K} (hr : r.ReadsAs f) {text : Text}
    (hl : l.At text) (hm : m.At text) :
    ∃ l' m', r.apply l = .ok l' ∧ r.apply m = .ok m' ∧
      (l'.state = .noMatch ↔ m'.state = .noMatch) ∧
      (l'.state ≠ .noMatch → Parallel l.source m.source l l' m m') := by
  refine ⟨_, _, hr.apply_eq hl, hr.apply_eq hm, ?_⟩
  cases hread : f text with
  | none =>
      rw [after_none, after_none]
      exact ⟨iff_of_true rfl rfl, fun hstate => absurd rfl hstate⟩
  | some found =>
      obtain ⟨ps, rest⟩ := found
      rw [hr.split hread] at hl hm
      have hparallel := hl.parallel hm
      rw [after_some, after_some]
      exact ⟨by rw [hparallel.state_eq], fun _ => hparallel⟩

/-- What a built rule does to a reachable lexer that has not failed depends on nothing but the text
that is left. -/
theorem Reachable.apply_parallel (ha : a.size < wordCount) (hb : b.size < wordCount)
    (hl : l.Reachable a) (hm : m.Reachable b) (hl' : l.state ≠ .noMatch) (hm' : m.state ≠ .noMatch)
    (htext : l.remaining.text = m.remaining.text) {r : Rule K} (hr : r.Built) :
    ∃ l' m', r.apply l = .ok l' ∧ r.apply m = .ok m' ∧
      (l'.state = .noMatch ↔ m'.state = .noMatch) ∧
      (l'.state ≠ .noMatch → Parallel a b l l' m m') := by
  have hlive {n : Lexer K} (h : n.state ≠ .noMatch) : n.failed = false :=
    Bool.eq_false_iff.mpr fun hfailed => h (failed_iff.mp hfailed)
  obtain ⟨text, hat⟩ := hl.exists_at ha (hlive hl')
  obtain ⟨text', hat'⟩ := hm.exists_at hb (hlive hm')
  obtain rfl : text = text' := by rw [← hat.text_eq, htext, hat'.text_eq]
  obtain ⟨f, hf⟩ := hr.exists_readsAs
  have happly := hat.exists_parallel hf hat'
  rwa [(hl.sound ha).source_eq, (hm.sound hb).source_eq] at happly

/-- A word boundary before the text that is left does not depend on what has been read. -/
theorem Reachable.apply_parallel_boundary :
    ∃ l' m m' : Lexer Nat, m.tokens = [⟨⟨0, 1⟩, 1⟩] ∧ l'.tokens = [⟨⟨0, 1⟩, 7⟩] ∧
      m'.tokens = [⟨⟨0, 1⟩, 1⟩, ⟨⟨1, 2⟩, 7⟩] ∧
      Parallel (Source.exactly "b c".toList) (Source.exactly "ab c".toList)
        (Lexer.start (Source.exactly "b c".toList)) l' m m' := by
  let p : Anchored := ⟨"\\bb".toList,
    .cat (.assert .textStart) (.cat (.assert .wordBoundary) (.set (.single 'b')))⟩
  have hstart : (Lexer.start (Source.exactly "b c".toList) : Lexer Nat).Reachable _ := .start
  have hread : Reachable (Source.exactly "ab c".toList) _ := .apply .start (.char 'a' 1) rfl
  have hbuilt : (Rule.pattern p 7).Built := .pattern p 7
  obtain ⟨l', m', hl', hm', -, hparallel⟩ := hstart.apply_parallel (by decide) (by decide) hread
    (by decide) (by decide) rfl hbuilt
  cases hl'
  cases hm'
  exact ⟨_, _, _, rfl, rfl, rfl, hparallel (by decide)⟩

end Lexer

end RuleLexer
