import RuleLexer.Proofs.Lexer.Reader

/-!
# What a repetition reads

A repetition takes at most one step for each byte that is left, and one
more at the end of the text, so the bound on its steps is never met. Without
an upper count it is the reader `many`, which recurs on the rest.
-/

namespace RuleLexer

variable {K : Type}

namespace Reader

/-- How a repeated reader ended: the readings that count, their pieces, what is left, and whether
a further reading was of nothing. -/
structure Iteration (K : Type) where
  count : Nat
  pieces : List (Piece K)
  rest : Text
  saturated : Bool

/-- The iteration behind pieces that were read before it. -/
def Iteration.behind (ps : List (Piece K)) (i : Iteration K) : Iteration K :=
  { i with pieces := ps ++ i.pieces }

def iterate (f : Reader K) (max : Nat) : Nat → Nat → Text → Iteration K
  | 0, count, text => ⟨count, [], text, false⟩
  | fuel + 1, count, text =>
      if count < max then
        match f text with
        | none => ⟨count, [], text, false⟩
        | some (ps, rest) =>
            if rest = [] then ⟨count + 1, ps, rest, false⟩
            else if ps.isEmpty then ⟨count, [], text, true⟩
            else (iterate f max fuel (count + 1) rest).behind ps
      else ⟨count, [], text, false⟩

def repeatCounts (f : Reader K) (counts : Option Counts) : Reader K := fun text =>
  match counts with
  | none => none
  | some counts =>
      let found := f.iterate counts.max (Text.byteSize text + 1) 0 text
      if counts.min ≤ found.count ∨ found.saturated then some (found.pieces, found.rest) else none

/-- The reader again and again, until it fails, reads nothing or has read all of the text. -/
def many (f : Reader K) (text : Text) : List (Piece K) × Text :=
  match f text with
  | none => ([], text)
  | some (ps, rest) =>
      if _h : rest ≠ [] ∧ rest.length < text.length then
        (ps ++ (many f rest).1, (many f rest).2)
      else (ps, rest)
termination_by text.length

theorem many_of_none {f : Reader K} {text : Text} (h : f text = none) :
    f.many text = ([], text) := by
  rw [many, h]

theorem many_of_end {f : Reader K} {text : Text} {ps : List (Piece K)}
    (h : f text = some (ps, [])) : f.many text = (ps, []) := by
  rw [many, h]
  simp

theorem many_of_some {f : Reader K} {text rest : Text} {ps : List (Piece K)}
    (h : f text = some (ps, rest)) (hrest : rest ≠ []) (hlt : rest.length < text.length) :
    f.many text = (ps ++ (f.many rest).1, (f.many rest).2) := by
  rw [many, h]
  simp only [hrest, hlt, ne_eq, not_false_eq_true, and_self, dite_true]

/-- A reader that has nothing to add at the end of the text is repeated on the rest in any case. -/
theorem many_append {f : Reader K} (hnil : f.many [] = ([], [])) {text rest : Text}
    {ps : List (Piece K)} (h : f text = some (ps, rest))
    (hlt : rest ≠ [] → rest.length < text.length) :
    f.many text = (ps ++ (f.many rest).1, (f.many rest).2) := by
  by_cases hrest : rest = []
  · subst hrest
    rw [many_of_end h, hnil, List.append_nil]
  · exact many_of_some h hrest (hlt hrest)

end Reader

namespace Rule

variable {r : Rule K} {f : Reader K}

theorem ReadsAs.length_rest (hr : r.ReadsAs f) {text rest : Text} {ps : List (Piece K)}
    (hf : f text = some (ps, rest)) (hps : ps ≠ []) :
    rest.length < text.length ∧ Text.byteSize rest < Text.byteSize text := by
  have hne : Piece.join ps ≠ [] := fun h => hps (Piece.join_eq_nil.mp h)
  have hlength := List.length_pos_of_ne_nil hne
  have hsize : 0 < Text.byteSize (Piece.join ps) :=
    Nat.pos_of_ne_zero fun h => hne (Text.byteSize_eq_zero.mp h)
  rw [hr.split hf, List.length_append, Text.byteSize_append]
  omega

theorem ReadsAs.iterate_split (hr : r.ReadsAs f) (max fuel count : Nat) (text : Text) :
    text = Piece.join (f.iterate max fuel count text).pieces ++ (f.iterate max fuel count text).rest
    := by
  induction fuel generalizing count text with
  | zero => rfl
  | succ fuel ih =>
      unfold Reader.iterate
      split
      · split
        · rfl
        · rename_i ps rest hf
          split
          · exact hr.split hf
          · split
            · rfl
            · simp only [Reader.Iteration.behind, Piece.join_append, List.append_assoc]
              rw [← ih (count + 1) rest]
              exact hr.split hf
      · rfl

/-- The loop of a repetition ends within one step more than there are bytes left. -/
theorem ReadsAs.iterate_eq (hr : r.ReadsAs f) (max : Nat) {fuel count : Nat} {l : Lexer K}
    {text : Text} (hl : l.At text) (hfuel : Text.byteSize text < fuel) :
    iterate r max fuel count l =
      .ok ⟨(f.iterate max fuel count text).count,
        l.readAll (f.iterate max fuel count text).pieces,
        (f.iterate max fuel count text).saturated⟩ := by
  induction fuel generalizing count l text with
  | zero => exact absurd hfuel (Nat.not_lt_zero _)
  | succ fuel ih =>
      rw [iterate_succ, Reader.iterate]
      by_cases hcount : count < max
      · rw [if_pos hcount, if_pos hcount, hr.apply_eq hl, bind_ok]
        cases hf : f text with
        | none => rfl
        | some found =>
            obtain ⟨ps, rest⟩ := found
            have hrest := hr.at_rest hl hf
            simp only [Lexer.after_some, hrest.state]
            by_cases hend : rest = []
            · simp [hend]
            · simp only [hend, if_false]
              have hposition : (l.readAll ps).position =
                  l.position + Text.byteSize (Piece.join ps) :=
                Lexer.At.position_readAll (hr.split hf ▸ hl)
              by_cases hps : ps = []
              · rw [if_pos (by simp [hps])]
                simp [hps]
              · have hlt := (hr.length_rest hf hps).2
                have hsize : Text.byteSize (Piece.join ps) ≠ 0 := fun h =>
                  hps (Piece.join_eq_nil.mp (Text.byteSize_eq_zero.mp h))
                have hmoved : (l.readAll ps).position ≠ l.position := by omega
                rw [ih hrest (by omega)]
                simp [hps, hmoved, Reader.Iteration.behind, Lexer.readAll_append]
      · rw [if_neg hcount, if_neg hcount]
        rfl

theorem ReadsAs.repeatCounts (hr : r.ReadsAs f) (counts : Option Counts) :
    (Rule.repeatCounts r counts).ReadsAs (f.repeatCounts counts) where
  split := by
    intro text ps rest h
    cases counts with
    | none => simp [Reader.repeatCounts] at h
    | some counts =>
        simp only [Reader.repeatCounts, Option.ite_none_right_eq_some, Option.some.injEq,
          Prod.mk.injEq] at h
        rw [← h.2.1, ← h.2.2]
        exact hr.iterate_split _ _ _ _
  apply_eq := by
    intro l text hl
    cases counts with
    | none => rfl
    | some counts =>
        rw [apply_repeatCounts_some, hl.not_failed, hl.bytesLeft_eq,
          hr.iterate_eq counts.max hl (Nat.lt_succ_self _), bind_ok, Reader.repeatCounts]
        simp only [Bool.false_eq_true, if_false]
        split <;> rfl

theorem ReadsAs.repeated (hr : r.ReadsAs f) (low high : Bound) :
    (Rule.repeated r low high).ReadsAs (f.repeatCounts (Counts.between? low high)) :=
  hr.repeatCounts _

/-- Where the text is too short for the upper count, a repetition reads all that it can. -/
theorem ReadsAs.iterate_eq_many (hr : r.ReadsAs f) {max fuel count : Nat} {text : Text}
    (hfuel : Text.byteSize text < fuel) (hmax : count + Nat.max 1 (Text.byteSize text) ≤ max) :
    ((f.iterate max fuel count text).pieces, (f.iterate max fuel count text).rest) = f.many text ∧
      count ≤ (f.iterate max fuel count text).count ∧
      ((f text).isSome → count < (f.iterate max fuel count text).count ∨
        (f.iterate max fuel count text).saturated) := by
  induction fuel generalizing count text with
  | zero => exact absurd hfuel (Nat.not_lt_zero _)
  | succ fuel ih =>
      have hone : 1 ≤ Nat.max 1 (Text.byteSize text) := Nat.le_max_left _ _
      have hsize : Text.byteSize text ≤ Nat.max 1 (Text.byteSize text) := Nat.le_max_right _ _
      rw [Reader.iterate, if_pos (by omega)]
      cases hf : f text with
      | none => simp [Reader.many_of_none hf]
      | some found =>
          obtain ⟨ps, rest⟩ := found
          by_cases hend : rest = []
          · subst hend
            simp [Reader.many_of_end hf]
          · by_cases hps : ps = []
            · subst hps
              have htext : text = rest := hr.split hf
              rw [Reader.many, hf]
              simp [hend, htext]
            · obtain ⟨hlength, hlt⟩ := hr.length_rest hf hps
              have hrest : 0 < Text.byteSize rest :=
                Nat.pos_of_ne_zero fun h => hend (Text.byteSize_eq_zero.mp h)
              have hmax' : count + 1 + Nat.max 1 (Text.byteSize rest) ≤ max := by
                have : Nat.max 1 (Text.byteSize rest) = Text.byteSize rest := Nat.max_eq_right hrest
                omega
              have hfuel' : Text.byteSize rest < fuel := by omega
              obtain ⟨hmany, hle, -⟩ := ih hfuel' hmax'
              rw [Reader.many_of_some hf hend hlength, ← hmany]
              simp only [hend, hps, List.isEmpty_iff, if_false, Reader.Iteration.behind]
              exact ⟨trivial, by omega, fun _ => .inl (by omega)⟩

theorem ReadsAs.many_split (hr : r.ReadsAs f) (text : Text) :
    text = Piece.join (f.many text).1 ++ (f.many text).2 := by
  have hmany := (hr.iterate_eq_many (Nat.lt_succ_self (Text.byteSize text))
    (Nat.le_of_eq (Nat.zero_add _))).1
  rw [← hmany]
  exact hr.iterate_split _ _ _ _

/-- A repetition of at least one reading fails where there is none. -/
theorem ReadsAs.repeatCounts_eq_many (hr : r.ReadsAs f) {min max : Nat} {text : Text}
    (hmin : min ≤ 1) (hmax : Nat.max 1 (Text.byteSize text) ≤ max) :
    f.repeatCounts (some ⟨min, max⟩) text =
      if min = 0 ∨ (f text).isSome then some (f.many text) else none := by
  have hone : 1 ≤ Nat.max 1 (Text.byteSize text) := Nat.le_max_left _ _
  obtain ⟨hmany, -, hcount⟩ := hr.iterate_eq_many (Nat.lt_succ_self (Text.byteSize text))
    (show 0 + Nat.max 1 (Text.byteSize text) ≤ max by omega)
  have henough : (min ≤ (f.iterate max (Text.byteSize text + 1) 0 text).count ∨
      (f.iterate max (Text.byteSize text + 1) 0 text).saturated = true) ↔
      (min = 0 ∨ (f text).isSome = true) := by
    cases hf : f text with
    | some found =>
        refine iff_of_true ?_ (.inr rfl)
        rcases hcount (by rw [hf]; rfl) with hread | hread
        · exact .inl (by simp only [Nat.succ_eq_add_one] at hread; omega)
        · exact .inr hread
    | none =>
        have hmax' : 0 < max := by omega
        simp [Reader.iterate, hmax', hf]
  simp only [Reader.repeatCounts, ← hmany, henough]

end Rule

end RuleLexer
