import RuleLexer.Proofs.Lexer.Iteration
import RuleLexer.Proofs.Lexer.Laws

/-!
# Repetitions compose

A repetition without a lower count is a number of readings one behind the
other, as many as there can be. So counts add up where two repetitions
follow one another, and a repetition without bounds can be unfolded. Where
a rule reads nothing or has read all of the text, the repetition stops and
the unfolded rules go on, but there is nothing to which they could lead.
-/

namespace RuleLexer

variable {K : Type}

namespace Reader

variable {f : Reader K} {text rest : Text} {ps : List (Piece K)}

/-- Up to `n` readings, each of what the one before has left. -/
def upTo (f : Reader K) : Nat → Text → List (Piece K) × Text
  | 0, text => ([], text)
  | n + 1, text =>
      match f text with
      | none => ([], text)
      | some (ps, rest) => (ps ++ (upTo f n rest).1, (upTo f n rest).2)

theorem upTo_zero (f : Reader K) (text : Text) : f.upTo 0 text = ([], text) := rfl

theorem upTo_of_none (h : f text = none) (n : Nat) : f.upTo n text = ([], text) := by
  cases n with
  | zero => rfl
  | succ n => simp [upTo, h]

theorem upTo_succ (h : f text = some (ps, rest)) (n : Nat) :
    f.upTo (n + 1) text = (ps ++ (f.upTo n rest).1, (f.upTo n rest).2) := by
  simp [upTo, h]

/-- What is read without a step forward can be read any number of times. -/
theorem upTo_of_still (h : f text = some ([], text)) (n : Nat) : f.upTo n text = ([], text) := by
  induction n with
  | zero => rfl
  | succ n ih => rw [upTo_succ h, ih, List.nil_append]

theorem upTo_add (f : Reader K) (m n : Nat) (text : Text) :
    f.upTo (m + n) text = ((f.upTo m text).1 ++ (f.upTo n (f.upTo m text).2).1,
      (f.upTo n (f.upTo m text).2).2) := by
  induction m generalizing text with
  | zero => simp [upTo_zero]
  | succ m ih =>
      cases hf : f text with
      | none => simp [upTo_of_none hf]
      | some found =>
          obtain ⟨ps, rest⟩ := found
          rw [Nat.add_right_comm, upTo_succ hf, upTo_succ hf, ih]
          simp

/-- What an iteration has read, if it has come to the least count. -/
def Iteration.found (i : Iteration K) (min : Nat) : Option (List (Piece K) × Text) :=
  if min ≤ i.count ∨ i.saturated then some (i.pieces, i.rest) else none

theorem Iteration.found_behind (i : Iteration K) (ps : List (Piece K)) (min : Nat) :
    (i.behind ps).found min = (i.found min).map fun (qs, rest) => (ps ++ qs, rest) := by
  unfold found behind
  split <;> rfl

theorem repeatCounts_some (f : Reader K) (min max : Nat) (text : Text) :
    f.repeatCounts (some ⟨min, max⟩) text =
      (f.iterate max (Text.byteSize text + 1) 0 text).found min := rfl

end Reader

namespace Rule

/-- The rule fails wherever all input has been read. -/
def FailsAtEnd (r : Rule K) : Prop :=
  ∀ {source : Source} {l : Lexer K}, source.size < wordCount → l.Reachable source →
    l.state = .done → ∃ m, r.apply l = .ok m ∧ m.state = .noMatch

variable {a b r : Rule K} {f g : Reader K} {text rest : Text} {ps : List (Piece K)}

theorem ReadsAs.rest_eq (hr : r.ReadsAs f) (h : f text = some ([], rest)) : rest = text :=
  (hr.split h).symm

theorem ReadsAs.upTo_of_nothing (hr : r.ReadsAs f) (h : f text = some ([], rest)) (n : Nat) :
    f.upTo n text = ([], text) :=
  Reader.upTo_of_still (hr.rest_eq h ▸ h) n

theorem ReadsAs.upTo_nil (hr : r.ReadsAs f) (n : Nat) : f.upTo n [] = ([], []) := by
  cases hf : f [] with
  | none => exact Reader.upTo_of_none hf n
  | some found =>
      obtain ⟨ps, rest⟩ := found
      have hjoin : Piece.join ps = [] := (List.append_eq_nil_iff.mp (hr.split hf).symm).1
      obtain rfl := Piece.join_eq_nil.mp hjoin
      exact hr.upTo_of_nothing hf n

/-- The loop of a repetition stops early only where further readings would add nothing. -/
theorem ReadsAs.iterate_upTo (hr : r.ReadsAs f) {n fuel count : Nat}
    (hfuel : Text.byteSize text < fuel) :
    (f.iterate (count + n) fuel count text).found 0 = some (f.upTo n text) := by
  induction fuel generalizing n count text with
  | zero => exact absurd hfuel (Nat.not_lt_zero _)
  | succ fuel ih =>
      rw [Reader.iterate]
      cases n with
      | zero => simp [Reader.Iteration.found, Reader.upTo_zero]
      | succ n =>
          have hmore : count < count + (n + 1) := by omega
          rw [if_pos hmore]
          cases hf : f text with
          | none => simp [Reader.Iteration.found, Reader.upTo_of_none hf]
          | some found =>
              obtain ⟨ps, rest⟩ := found
              by_cases hend : rest = []
              · subst hend
                simp [Reader.Iteration.found, Reader.upTo_succ hf, hr.upTo_nil]
              · by_cases hps : ps = []
                · subst hps
                  simp [Reader.Iteration.found, hend, hr.upTo_of_nothing hf]
                · have hlt := (hr.length_rest hf hps).2
                  have hcount : count + (n + 1) = count + 1 + n := by omega
                  simp only [hend, hps, List.isEmpty_iff, if_false, Reader.Iteration.found_behind,
                    hcount, ih (Nat.lt_of_lt_of_le hlt (Nat.le_of_lt_succ hfuel)),
                    Reader.upTo_succ hf, Option.map_some]

theorem ReadsAs.repeatCounts_upTo (hr : r.ReadsAs f) (n : Nat) (text : Text) :
    f.repeatCounts (some ⟨0, n⟩) text = some (f.upTo n text) := by
  rw [← hr.iterate_upTo (Nat.lt_succ_self (Text.byteSize text)), Nat.zero_add,
    Reader.repeatCounts_some]

/-- There is no more to read than there are bytes. -/
theorem ReadsAs.upTo_succ_of_le (hr : r.ReadsAs f) {n : Nat} (h : Text.byteSize text ≤ n) :
    f.upTo (n + 1) text = f.upTo n text := by
  induction n generalizing text with
  | zero =>
      obtain rfl := Text.byteSize_eq_zero.mp (Nat.le_zero.mp h)
      rw [hr.upTo_nil, hr.upTo_nil]
  | succ n ih =>
      cases hf : f text with
      | none => rw [Reader.upTo_of_none hf, Reader.upTo_of_none hf]
      | some found =>
          obtain ⟨ps, rest⟩ := found
          by_cases hps : ps = []
          · subst hps
            rw [hr.upTo_of_nothing hf, hr.upTo_of_nothing hf]
          · have hlt := (hr.length_rest hf hps).2
            rw [Reader.upTo_succ hf, Reader.upTo_succ hf, ih (by omega)]

/-- Repetitions up to `m` and up to `n`. -/
theorem ReadsAs.repeatCounts_andThen (hr : r.ReadsAs f) (m n : Nat) (text : Text) :
    (f.repeatCounts (some ⟨0, m⟩)).andThen (f.repeatCounts (some ⟨0, n⟩)) text =
      f.repeatCounts (some ⟨0, m + n⟩) text := by
  have hfirst : f.repeatCounts (some ⟨0, m⟩) text = some ((f.upTo m text).1, (f.upTo m text).2) :=
    hr.repeatCounts_upTo m text
  rw [Reader.andThen_of_some hfirst, hr.repeatCounts_upTo, hr.repeatCounts_upTo, Reader.upTo_add]
  rfl

/-- A repetition that has counts enough for all of the text is the option of one more step. -/
theorem ReadsAs.repeatCounts_unfold (hr : r.ReadsAs f) {n : Nat} (h : Text.byteSize text ≤ n) :
    (f.andThen (f.repeatCounts (some ⟨0, n⟩))).option text =
      f.repeatCounts (some ⟨0, n⟩) text := by
  rw [hr.repeatCounts_upTo, ← hr.upTo_succ_of_le h]
  cases hf : f text with
  | none => rw [Reader.option_of_none (Reader.andThen_of_none hf _), Reader.upTo_of_none hf]
  | some found =>
      obtain ⟨ps, rest⟩ := found
      have hstep : f.andThen (f.repeatCounts (some ⟨0, n⟩)) text =
          some (ps ++ (f.upTo n rest).1, (f.upTo n rest).2) := by
        rw [Reader.andThen_of_some hf, hr.repeatCounts_upTo]
        rfl
      rw [Reader.option_of_some hstep, Reader.upTo_succ hf]

theorem ReadsAs.seq_replicate_of_nothing (hr : r.ReadsAs f) (h : f text = some ([], rest))
    (n : Nat) : Reader.seq (List.replicate n f) text = some ([], text) := by
  obtain rfl := hr.rest_eq h
  induction n with
  | zero => rfl
  | succ n ih =>
      rw [List.replicate_succ]
      exact Reader.seq_cons_of_some h ih

/-- The loop that is to end with `count + n` readings, `count` of which are behind it. -/
theorem ReadsAs.iterate_exact (hr : r.ReadsAs f) (hend : f [] = none) {n fuel count : Nat}
    (hfuel : Text.byteSize text < fuel) :
    (f.iterate (count + n) fuel count text).found (count + n) =
      Reader.seq (List.replicate n f) text := by
  induction fuel generalizing n count text with
  | zero => exact absurd hfuel (Nat.not_lt_zero _)
  | succ fuel ih =>
      rw [Reader.iterate]
      cases n with
      | zero => simp [Reader.Iteration.found, Reader.seq_nil_eq]
      | succ n =>
          have hmore : count < count + (n + 1) := by omega
          rw [if_pos hmore, List.replicate_succ, Reader.seq_cons]
          cases hf : f text with
          | none => simp [Reader.Iteration.found, Reader.andThen_of_none hf, Nat.not_le.mpr hmore]
          | some found =>
              obtain ⟨ps, rest⟩ := found
              rw [Reader.andThen_of_some hf]
              by_cases hstop : rest = []
              · subst hstop
                cases n with
                | zero => simp [Reader.Iteration.found, Reader.seq_nil_eq]
                | succ n =>
                    have hshort : ¬count + (n + 1 + 1) ≤ count + 1 := by omega
                    simp [Reader.Iteration.found, hshort, List.replicate_succ, Reader.seq_cons,
                      Reader.andThen_of_none hend]
              · by_cases hps : ps = []
                · subst hps
                  obtain rfl := hr.rest_eq hf
                  simp [Reader.Iteration.found, hstop, hr.seq_replicate_of_nothing hf]
                · have hlt := (hr.length_rest hf hps).2
                  have hcount : count + (n + 1) = count + 1 + n := by omega
                  simp only [hstop, hps, List.isEmpty_iff, if_false, Reader.Iteration.found_behind,
                    hcount, ih (Nat.lt_of_lt_of_le hlt (Nat.le_of_lt_succ hfuel))]

theorem ReadsAs.repeatCounts_exact (hr : r.ReadsAs f) (hend : f [] = none) (n : Nat)
    (text : Text) :
    f.repeatCounts (some ⟨n, n⟩) text = Reader.seq (List.replicate n f) text := by
  rw [← hr.iterate_exact hend (Nat.lt_succ_self (Text.byteSize text)), Nat.zero_add,
    Reader.repeatCounts_some]

/-- A rule fails at the end of every source or of none. -/
theorem ReadsAs.failsAtEnd_iff (hr : r.ReadsAs f) : r.FailsAtEnd ↔ f [] = none := by
  constructor
  · intro h
    have hsize : (Source.exactly []).size < wordCount := by decide
    have hat : (Lexer.start (Source.exactly []) : Lexer K).At [] := Lexer.at_start hsize
    obtain ⟨m, hm, hstate⟩ := h hsize .start rfl
    cases hf : f [] with
    | none => rfl
    | some found =>
        obtain ⟨ps, rest⟩ := found
        obtain rfl := Except.ok.inj (hm.symm.trans (hr.apply_eq hat))
        have hlive := (hr.at_rest hat hf).not_failed
        rw [hf, Lexer.after_some] at hstate
        simp [Lexer.failed, hstate] at hlive
  · intro hf source l hsize hl hdone
    obtain ⟨text, hat⟩ := hl.exists_at hsize (by simp [Lexer.failed, hdone])
    have hempty := hat.isDone_eq
    obtain rfl : text = [] := by simpa [Lexer.isDone, hdone] using hempty
    refine ⟨_, hr.apply_eq hat, ?_⟩
    rw [hf]
    rfl

theorem forall₂_replicate (hr : r.ReadsAs f) (n : Nat) :
    List.Forall₂ ReadsAs (List.replicate n r) (List.replicate n f) := by
  induction n with
  | zero => exact .nil
  | succ n ih => exact .cons hr ih

end Rule

namespace Lexer

variable {source : Source} {l : Lexer K} {a b r : Rule K} {f g : Reader K}

/-- Built rules that read the same from every text lead from a reachable lexer to the same lexer. -/
theorem Reachable.agreeAt (hsize : source.size < wordCount) (h : l.Reachable source)
    (ha : a.Built) (hb : b.Built) (hf : a.ReadsAs f) (hg : b.ReadsAs g)
    (heq : ∀ text, Text.byteSize text < wordCount → f text = g text) : a.AgreeAt b l := by
  cases hl : l.failed with
  | true => exact ⟨l, ha.apply_of_failed hl, hb.apply_of_failed hl⟩
  | false =>
      obtain ⟨text, hat⟩ := h.exists_at hsize hl
      have hfits := hat.fits
      rw [hat.size_eq] at hfits
      refine ⟨l.after (f text), hf.apply_eq hat, ?_⟩
      rw [heq text (by omega)]
      exact hg.apply_eq hat

/-- Repetitions that follow one another, a repetition that is unfolded, and a repetition of one
exact count. -/
theorem Reachable.repetitions_compose (hsize : source.size < wordCount) (h : l.Reachable source)
    (hr : r.Built) :
    (∀ m n, (Rule.sequence (r.repeated (.included 0) (.included m))
        (r.repeated (.included 0) (.included n))).AgreeAt
          (r.repeated (.included 0) (.included (m + n))) l) ∧
      (r.repeated (.included 0) .unbounded).AgreeAt
        (.option (.sequence r (r.repeated (.included 0) .unbounded))) l ∧
      (r.FailsAtEnd → ∀ n,
        (r.repeated (.included n) (.included n)).AgreeAt (.seq (List.replicate n r)) l) := by
  obtain ⟨f, hf⟩ := hr.exists_readsAs
  have hupTo (n : Nat) : (r.repeated (.included 0) (.included n)).ReadsAs
      (f.repeatCounts (some ⟨0, n⟩)) := hf.repeatCounts _
  have hall : (r.repeated (.included 0) .unbounded).ReadsAs
      (f.repeatCounts (some ⟨0, wordCount - 1⟩)) := hf.repeatCounts _
  refine ⟨fun m n => ?_, ?_, fun hend n => ?_⟩
  · refine h.agreeAt hsize (.sequence (.repeated _ _ hr) (.repeated _ _ hr)) (.repeated _ _ hr)
      ((hupTo m).sequence (hupTo n)) (hupTo (m + n)) fun text _ => ?_
    exact hf.repeatCounts_andThen m n text
  · refine h.agreeAt hsize (.repeated _ _ hr) (.option (.sequence hr (.repeated _ _ hr)))
      hall (hf.sequence hall).option fun text hfits => ?_
    exact (hf.repeatCounts_unfold (Nat.le_sub_one_of_lt hfits)).symm
  · have hexact : (r.repeated (.included n) (.included n)).ReadsAs
        (f.repeatCounts (some ⟨n, n⟩)) := by
      have hcounts : Counts.between? (.included n) (.included n) = some ⟨n, n⟩ :=
        Counts.between?_eq_some.mpr ⟨rfl, rfl, Nat.le_refl n⟩
      exact hcounts ▸ hf.repeated _ _
    refine h.agreeAt hsize (.repeated _ _ hr) (.seq ?_) hexact (.seq (Rule.forall₂_replicate hf n))
      fun text _ => ?_
    · intro r' hr'
      rwa [List.eq_of_mem_replicate hr']
    · exact hf.repeatCounts_exact (hf.failsAtEnd_iff.mp hend) n text

/-- One repetition and a further one, and two steps by a rule that fails at the end. -/
theorem Reachable.repetitions_compose_abaa :
    ∃ m n : Lexer Nat, (Rule.sequence
        ((Rule.sequence (.char 'a' 0) (.option (.char 'b' 1))).repeated (.included 0) (.included 1))
        ((Rule.sequence (.char 'a' 0) (.option (.char 'b' 1))).repeated (.included 0)
          (.included 2))).apply (Lexer.start (Source.exactly "abaa".toList)) = .ok m ∧
      m.tokens = [⟨⟨0, 1⟩, 0⟩, ⟨⟨1, 2⟩, 1⟩, ⟨⟨2, 3⟩, 0⟩, ⟨⟨3, 4⟩, 0⟩] ∧
      (Rule.seq [.sequence (.char 'a' 0) (.option (.char 'b' 1)),
        .sequence (.char 'a' 0) (.option (.char 'b' 1))]).apply
          (Lexer.start (Source.exactly "abaa".toList)) = .ok n ∧
      n.tokens = [⟨⟨0, 1⟩, 0⟩, ⟨⟨1, 2⟩, 1⟩, ⟨⟨2, 3⟩, 0⟩] := by
  have hstart : Reachable (Source.exactly "abaa".toList)
      (Lexer.start (Source.exactly "abaa".toList) : Lexer Nat) := .start
  have hbuilt : (Rule.sequence (.char 'a' 0) (.option (.char 'b' 1))).Built :=
    .sequence (.char 'a' 0) (.option (.char 'b' 1))
  have hends : (Rule.sequence (.char 'a' 0) (.option (.char 'b' 1))).FailsAtEnd :=
    ((Rule.ReadsAs.char 'a' 0).sequence (Rule.ReadsAs.char 'b' 1).option).failsAtEnd_iff.mpr rfl
  obtain ⟨hsum, -, hexact⟩ := hstart.repetitions_compose (by decide) hbuilt
  obtain ⟨m, hm, hm'⟩ := hsum 1 2
  obtain ⟨n, hn, hn'⟩ := hexact hends 2
  refine ⟨m, n, hm, ?_, hn', ?_⟩
  · cases hm'
    rfl
  · cases hn
    rfl

end Lexer

end RuleLexer
