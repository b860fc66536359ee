import RuleLexer.Proofs.Lexer.Reachable
import Mathlib.Logic.Function.Iterate
import Mathlib.Order.Bounds.Basic
import Mathlib.Tactic.Choose

/-!
# Repetitions and the lexers along them

Applying a rule again and again to a lexer gives a sequence of lexers. A
repetition ends at the last one up to which every application reads
something, or fails for want of applications. Its bounds say how many
applications there may be: the counts that both of them admit.
-/

namespace RuleLexer

open Set

namespace Bound

/-- As a lower bound, the bound admits the count. -/
def AdmitsFrom : Bound → Nat → Prop
  | unbounded, _ => True
  | included n, count => n ≤ count
  | excluded n, count => n < count

/-- As an upper bound, the bound admits the count. -/
def AdmitsTo : Bound → Nat → Prop
  | unbounded, _ => True
  | included n, count => count ≤ n
  | excluded n, count => count < n

/-- The count that the bound names is a machine word. -/
def IsWord : Bound → Prop
  | unbounded => True
  | included n => n < wordCount
  | excluded n => n < wordCount

theorem isWord_unbounded : unbounded.IsWord := trivial

end Bound

namespace Counts

/-- The machine words that both bounds admit. -/
def range (low high : Bound) : Set Nat :=
  {n | n < wordCount ∧ low.AdmitsFrom n ∧ high.AdmitsTo n}

variable {low high : Bound} {n : Nat}

theorem admitsFrom_iff (hn : n < wordCount) :
    low.AdmitsFrom n ↔ ∃ min, lower low = some min ∧ min ≤ n := by
  cases low with
  | unbounded => simp [Bound.AdmitsFrom, lower]
  | included a => simp [Bound.AdmitsFrom, lower]
  | excluded a =>
      by_cases ha : a + 1 < wordCount
      · have hlower : lower (.excluded a) = some (a + 1) := if_pos ha
        rw [hlower]
        constructor
        · exact fun hlt => ⟨a + 1, rfl, hlt⟩
        · rintro ⟨_, ⟨⟩, hle⟩
          exact hle
      · have hle : n ≤ a := by omega
        simpa [Bound.AdmitsFrom, lower, ha] using hle

theorem admitsTo_iff (hn : n < wordCount) :
    high.AdmitsTo n ↔ ∃ max, upper high = some max ∧ n ≤ max := by
  cases high with
  | unbounded => simpa [Bound.AdmitsTo, upper] using Nat.le_sub_one_of_lt hn
  | included a => simp [Bound.AdmitsTo, upper]
  | excluded a =>
      by_cases ha : a = 0
      · simp [Bound.AdmitsTo, upper, ha]
      · simpa [Bound.AdmitsTo, upper, ha] using Nat.lt_iff_le_pred (Nat.pos_of_ne_zero ha)

theorem upper_lt_wordCount (h : high.IsWord) {max : Nat} (hmax : upper high = some max) :
    max < wordCount := by
  cases high with
  | unbounded =>
      obtain rfl := Option.some.inj hmax
      decide
  | included a =>
      obtain rfl := Option.some.inj hmax
      exact h
  | excluded a =>
      obtain ⟨-, rfl⟩ : a ≠ 0 ∧ a - 1 = max := by simpa [upper] using hmax
      exact Nat.lt_of_le_of_lt (Nat.sub_le a 1) h

theorem between?_eq_some {min max : Nat} :
    between? low high = some ⟨min, max⟩ ↔
      lower low = some min ∧ upper high = some max ∧ min ≤ max := by
  unfold between?
  constructor
  · intro h
    split at h
    · rename_i hlower hupper
      obtain ⟨hle, heq⟩ := Option.ite_none_right_eq_some.mp h
      obtain ⟨rfl, rfl⟩ := Counts.mk.inj (Option.some.inj heq)
      exact ⟨hlower, hupper, hle⟩
    · simp at h
  · rintro ⟨hlower, hupper, hle⟩
    simp only [hlower, hupper, hle, if_true]

/-- The counts between two bounds are those from the least to the greatest of them. -/
theorem range_of_some {counts : Counts} (hhigh : high.IsWord)
    (h : between? low high = some counts) :
    counts.min ≤ counts.max ∧ range low high = Icc counts.min counts.max := by
  obtain ⟨hlower, hupper, hle⟩ := between?_eq_some.mp h
  refine ⟨hle, Set.ext fun n => ?_⟩
  have hword := upper_lt_wordCount hhigh hupper
  constructor
  · rintro ⟨hn, hfrom, hto⟩
    simpa [admitsFrom_iff hn, admitsTo_iff hn, hlower, hupper] using And.intro hfrom hto
  · rintro ⟨hmin, hmax⟩
    have hn : n < wordCount := by omega
    exact ⟨hn, (admitsFrom_iff hn).mpr ⟨_, hlower, hmin⟩, (admitsTo_iff hn).mpr ⟨_, hupper, hmax⟩⟩

theorem range_of_none (h : between? low high = none) : range low high = ∅ := by
  refine Set.eq_empty_of_forall_notMem ?_
  rintro n ⟨hn, hfrom, hto⟩
  obtain ⟨min, hlower, hmin⟩ := (admitsFrom_iff hn).mp hfrom
  obtain ⟨max, hupper, hmax⟩ := (admitsTo_iff hn).mp hto
  have hsome := between?_eq_some.mpr ⟨hlower, hupper, hmin.trans hmax⟩
  simp [h] at hsome

theorem between?_eq_some_iff (hhigh : high.IsWord) {min max : Nat} :
    between? low high = some ⟨min, max⟩ ↔
      IsLeast (range low high) min ∧ IsGreatest (range low high) max := by
  constructor
  · intro h
    obtain ⟨hle, hrange⟩ := range_of_some hhigh h
    rw [hrange]
    exact ⟨isLeast_Icc hle, isGreatest_Icc hle⟩
  · rintro ⟨hmin, hmax⟩
    cases h : between? low high with
    | none =>
        rw [range_of_none h] at hmin
        exact absurd hmin.1 (Set.notMem_empty min)
    | some counts =>
        obtain ⟨hle, hrange⟩ := range_of_some hhigh h
        rw [hrange] at hmin hmax
        obtain rfl := hmin.unique (isLeast_Icc hle)
        obtain rfl := hmax.unique (isGreatest_Icc hle)
        rfl

theorem between?_eq_none_iff (hhigh : high.IsWord) :
    between? low high = none ↔ range low high = ∅ := by
  constructor
  · exact range_of_none
  · intro hempty
    cases h : between? low high with
    | none => rfl
    | some counts =>
        have hleast := ((between?_eq_some_iff hhigh).mp h).1.1
        rw [hempty] at hleast
        exact absurd hleast (Set.notMem_empty _)

end Counts

variable {K : Type} {source : Source}

/-- The lexers to which the rule leads when it is applied again and again. -/
def Rule.Follows (r : Rule K) (ls : Nat → Lexer K) : Prop :=
  ∀ i, r.apply (ls i) = .ok (ls (i + 1))

namespace Lexer

/-- Up to the lexer at `k`, every step succeeds and leads further, and no step begins where all
input has been read. -/
def Climbs (ls : Nat → Lexer K) (k : Nat) : Prop :=
  (∀ i < k, (ls (i + 1)).state ≠ .noMatch ∧ (ls i).position < (ls (i + 1)).position) ∧
    ∀ i, 0 < i → i < k → (ls i).state ≠ .done

/-- Input remains at the lexer at `k`, and the step from there succeeds and leads no further. -/
def RestsAt (ls : Nat → Lexer K) (k : Nat) : Prop :=
  (ls k).state = .matching ∧ (ls (k + 1)).state ≠ .noMatch ∧
    (ls (k + 1)).position = (ls k).position

instance (ls : Nat → Lexer K) (k : Nat) : Decidable (RestsAt ls k) :=
  inferInstanceAs (Decidable (_ ∧ _ ∧ _))

variable {ls : Nat → Lexer K} {i k max : Nat}

theorem climbs_zero (ls : Nat → Lexer K) : Climbs ls 0 :=
  ⟨fun _ hi => absurd hi (Nat.not_lt_zero _), fun _ _ hi => absurd hi (Nat.not_lt_zero _)⟩

theorem Climbs.succ (h : Climbs ls k) (hk : (ls k).state ≠ .done)
    (hnext : (ls (k + 1)).state ≠ .noMatch) (hlt : (ls k).position < (ls (k + 1)).position) :
    Climbs ls (k + 1) := by
  refine ⟨fun i hi => ?_, fun i hpos hi => ?_⟩
  · rcases Nat.lt_succ_iff_lt_or_eq.mp hi with hi | rfl
    · exact h.1 i hi
    · exact ⟨hnext, hlt⟩
  · rcases Nat.lt_succ_iff_lt_or_eq.mp hi with hi | rfl
    · exact h.2 i hpos hi
    · exact hk

/-- Where the climb cannot be continued, it has come as far as it can. -/
theorem Climbs.isGreatest (h : Climbs ls k) (hk : k ≤ max)
    (hstop : ∀ j, k < j → j ≤ max → ¬Climbs ls j) : IsGreatest {k | k ≤ max ∧ Climbs ls k} k :=
  ⟨⟨hk, h⟩, fun j hj => Nat.le_of_not_lt fun hlt => hstop j hlt hj.1 hj.2⟩

/-- The bytes before and behind the position of a reachable lexer are those of its source. -/
theorem Reachable.bytesLeft_eq {l : Lexer K} (hsize : source.size < wordCount)
    (h : l.Reachable source) : l.bytesLeft = source.size - l.position := by
  rw [bytesLeft, (h.sound hsize).window_stop]
  rfl

theorem Reachable.position_le {l : Lexer K} (hsize : source.size < wordCount)
    (h : l.Reachable source) (hlive : l.failed = false) : l.position ≤ source.size := by
  obtain ⟨rest, hat⟩ := h.exists_at hsize hlive
  have := hat.size_eq
  rw [(h.sound hsize).source_eq] at this
  omega

/-- A built rule can be followed from every reachable lexer. -/
theorem Reachable.exists_follows {l : Lexer K} (hsize : source.size < wordCount)
    (h : l.Reachable source) {r : Rule K} (hr : r.Built) :
    ∃ ls : Nat → Lexer K, ls 0 = l ∧ r.Follows ls ∧ ∀ i, (ls i).Reachable source := by
  have hstep (m : {m : Lexer K // m.Reachable source}) :
      ∃ n : {n : Lexer K // n.Reachable source}, r.apply m.1 = .ok n.1 := by
    obtain ⟨n, hn, -⟩ := m.2.exists_apply hsize hr
    exact ⟨⟨n, m.2.apply hr hn⟩, hn⟩
  choose next hnext using hstep
  refine ⟨fun i => (next^[i] ⟨l, h⟩).1, rfl, fun i => ?_, fun i => (next^[i] ⟨l, h⟩).2⟩
  simpa only [Function.iterate_succ_apply'] using hnext (next^[i] ⟨l, h⟩)

end Lexer

namespace Rule

open Lexer

variable {r : Rule K} {ls : Nat → Lexer K}

/-- A step that succeeds and leads no further changes nothing; one that leads further leaves less
to be read. -/
theorem Follows.step (hsize : source.size < wordCount) (hls : r.Follows ls) (hr : r.Built)
    (hreach : ∀ i, (ls i).Reachable source) (i : Nat) (hnext : (ls (i + 1)).state ≠ .noMatch) :
    ls (i + 1) = ls i ∨ (ls i).position < (ls (i + 1)).position ∧
      (ls (i + 1)).bytesLeft < (ls i).bytesLeft := by
  obtain ⟨m, hm, hadvance⟩ := (hreach i).exists_apply hsize hr
  obtain rfl : m = ls (i + 1) := Except.ok.inj (hm.symm.trans (hls i))
  obtain ⟨-, hle, hstill⟩ := hadvance hnext
  rcases Nat.lt_or_eq_of_le hle with hlt | heq
  · have hlive := failed_eq_false hnext
    have hinside := (hreach (i + 1)).position_le hsize hlive
    rw [(hreach i).bytesLeft_eq hsize, (hreach (i + 1)).bytesLeft_eq hsize]
    exact .inr ⟨hlt, by omega⟩
  · exact .inl (hstill heq.symm)

/-- The loop of a repetition climbs as far as it can. -/
theorem Follows.iterate (hsize : source.size < wordCount) (hls : r.Follows ls) (hr : r.Built)
    (hreach : ∀ i, (ls i).Reachable source) {max fuel i : Nat} (hi : i ≤ max)
    (hclimb : Climbs ls i) (hstate : (ls i).state = .matching) (hfuel : (ls i).bytesLeft < fuel) :
    ∃ k, IsGreatest {k | k ≤ max ∧ Climbs ls k} k ∧
      r.iterate max fuel i (ls i) = .ok ⟨k, ls k, decide (k < max ∧ RestsAt ls k)⟩ := by
  induction fuel generalizing i with
  | zero => exact absurd hfuel (Nat.not_lt_zero _)
  | succ fuel ih =>
      rw [iterate_succ]
      by_cases hmax : i < max
      · rw [if_pos hmax, hls i, bind_ok]
        cases hnext : (ls (i + 1)).state with
        | noMatch =>
            refine ⟨i, hclimb.isGreatest hi fun j hj _ hclimbs => (hclimbs.1 i hj).1 hnext, ?_⟩
            simp [RestsAt, hnext]
        | done =>
            have hmoved := (hls.step hsize hr hreach i (by simp [hnext])).resolve_left
              fun heq => by simp [heq, hstate] at hnext
            have hclimb' := hclimb.succ (by simp [hstate]) (by simp [hnext]) hmoved.1
            refine ⟨i + 1, hclimb'.isGreatest hmax fun j hj _ hclimbs => ?_, ?_⟩
            · exact hclimbs.2 (i + 1) (Nat.succ_pos i) hj hnext
            · simp [RestsAt, hnext]
        | matching =>
            rcases hls.step hsize hr hreach i (by simp [hnext]) with heq | ⟨hlt, hless⟩
            · refine ⟨i, hclimb.isGreatest hi fun j hj _ hclimbs => ?_, ?_⟩
              · have hlt := (hclimbs.1 i hj).2
                simp [heq] at hlt
              · simp [RestsAt, heq, hstate, hmax]
            · have hclimb' := hclimb.succ (by simp [hstate]) (by simp [hnext]) hlt
              rw [if_neg (Nat.ne_of_gt hlt)]
              exact ih hmax hclimb' hnext (by omega)
      · have heq : i = max := Nat.le_antisymm hi (Nat.le_of_not_lt hmax)
        rw [if_neg hmax]
        refine ⟨i, hclimb.isGreatest hi fun j hj hle => absurd hj (by omega), ?_⟩
        simp [heq]

end Rule

namespace Lexer

variable {l m : Lexer K} {r : Rule K} {low high : Bound}

/-- A repetition of a built rule, on a reachable lexer with input left. With `k` the number of steps
that the rule can be followed for, within the greatest count, and reads something in each, it leads
to the lexer behind these steps if they are enough, or if the next one would read nothing. -/
theorem Reachable.apply_repeated (hsize : source.size < wordCount) (h : l.Reachable source)
    (hl : l.state = .matching) (hr : r.Built) (low : Bound) (hhigh : high.IsWord) :
    ∃ ls : Nat → Lexer K, ls 0 = l ∧ r.Follows ls ∧
      (Counts.range low high = ∅ → (r.repeated low high).apply l = .ok l.fail) ∧
      ((Counts.range low high).Nonempty → ∃ min max k, IsLeast (Counts.range low high) min ∧
        IsGreatest (Counts.range low high) max ∧ IsGreatest {k | k ≤ max ∧ Climbs ls k} k ∧
        (r.repeated low high).apply l =
          .ok (if min ≤ k ∨ k < max ∧ RestsAt ls k then ls k else l.fail)) := by
  obtain ⟨ls, rfl, hls, hreach⟩ := h.exists_follows hsize hr
  refine ⟨ls, rfl, hls, fun hempty => ?_, fun hnonempty => ?_⟩
  · rw [Rule.repeated, (Counts.between?_eq_none_iff hhigh).mpr hempty]
    rfl
  · obtain ⟨⟨min, max⟩, hcounts⟩ : ∃ counts, Counts.between? low high = some counts := by
      rw [← Option.ne_none_iff_exists', Ne, Counts.between?_eq_none_iff hhigh]
      exact hnonempty.ne_empty
    obtain ⟨hmin, hmax⟩ := (Counts.between?_eq_some_iff hhigh).mp hcounts
    have hlive : (ls 0).failed = false := by simp [failed, hl]
    obtain ⟨k, hk, hloop⟩ := hls.iterate hsize hr hreach (Nat.zero_le max) (climbs_zero ls) hl
      (Nat.lt_succ_self _)
    refine ⟨min, max, k, hmin, hmax, hk, ?_⟩
    rw [Rule.repeated, hcounts, Rule.apply_repeatCounts_some, hlive, if_neg Bool.false_ne_true,
      hloop, bind_ok]
    simp only [decide_eq_true_eq]
    split <;> rfl

/-- Two or three steps are asked for, and the third fails. -/
theorem Reachable.apply_repeated_twice :
    ∃ (ls : Nat → Lexer Nat) (k : Nat), ls 0 = Lexer.start (Source.exactly "abac".toList) ∧
      IsGreatest {k | k ≤ 3 ∧ Climbs ls k} k ∧
      (Rule.repeated (.sequence (.char 'a' 0) (.option (.char 'b' 1))) (.excluded 1)
        (.excluded 4)).apply (ls 0) = .ok (ls k) ∧
      (ls k).tokens = [⟨⟨0, 1⟩, 0⟩, ⟨⟨1, 2⟩, 1⟩, ⟨⟨2, 3⟩, 0⟩] := by
  have hstart : Reachable (Source.exactly "abac".toList)
      (Lexer.start (Source.exactly "abac".toList) : Lexer Nat) := .start
  have hbuilt : (Rule.sequence (.char 'a' 0) (.option (.char 'b' 1))).Built :=
    .sequence (.char 'a' 0) (.option (.char 'b' 1))
  have hhigh : (Bound.excluded 4).IsWord := by unfold Bound.IsWord; decide
  have hcounts : Counts.between? (.excluded 1) (.excluded 4) = some ⟨2, 3⟩ := rfl
  obtain ⟨hleast, hgreatest⟩ := (Counts.between?_eq_some_iff hhigh).mp hcounts
  obtain ⟨ls, hls, -, -, hresult⟩ :=
    hstart.apply_repeated (by decide) rfl hbuilt (.excluded 1) hhigh
  obtain ⟨min, max, k, hmin, hmax, hk, happly⟩ := hresult ⟨2, hleast.1⟩
  obtain rfl := hmin.unique hleast
  obtain rfl := hmax.unique hgreatest
  split at happly
  · refine ⟨ls, k, hls, hk, by rw [hls, happly], ?_⟩
    rw [← Except.ok.inj happly]
    rfl
  · exact absurd (congrArg state (Except.ok.inj happly)) (by decide)

/-- A step that succeeds and reads nothing can be repeated as often as is asked for while input is
left. Where none is left it counts as a single step. -/
theorem Reachable.apply_repeated_of_still (hsize : source.size < wordCount)
    (h : l.Reachable source) (hl : l.state ≠ .noMatch) (hr : r.Built) (hm : r.apply l = .ok m)
    (hm' : m.state ≠ .noMatch) (hstill : m.position = l.position) (hhigh : high.IsWord)
    {min max : Nat} (hmin : IsLeast (Counts.range low high) min)
    (hmax : IsGreatest (Counts.range low high) max) (hone : 1 ≤ max) :
    (r.repeated low high).apply l = .ok (if l.state = .done ∧ 1 < min then l.fail else l) := by
  obtain ⟨m', happly, hadvance⟩ := h.exists_apply hsize hr
  obtain rfl : m' = m := Except.ok.inj (happly.symm.trans hm)
  obtain rfl := (hadvance hm').2.2 hstill
  have hcounts := (Counts.between?_eq_some_iff hhigh).mpr ⟨hmin, hmax⟩
  have hlive : m'.failed = false := by simpa [failed] using hl
  rw [Rule.repeated, hcounts, Rule.apply_repeatCounts_some, hlive, if_neg Bool.false_ne_true,
    Rule.iterate_succ, if_pos (Nat.zero_lt_of_lt hone), hm, bind_ok]
  cases hstate : m'.state with
  | noMatch => exact absurd hstate hl
  | done =>
      -- The step counts and ends the loop, so it stands for no more than itself.
      by_cases hmany : 1 < min
      · simp [bind_ok, hmany]
      · simp [bind_ok, hmany, Nat.le_of_not_lt hmany]
  | matching => simp [bind_ok]

/-- Two steps are asked for, and the first reads nothing. -/
theorem Reachable.apply_repeated_of_still_optional :
    (Rule.repeated (.option (.char 'x' 0)) (.included 2) .unbounded).apply
      (Lexer.start (Source.exactly "ab".toList) : Lexer Nat) =
        .ok (Lexer.start (Source.exactly "ab".toList)) := by
  have hstart : Reachable (Source.exactly "ab".toList)
      (Lexer.start (Source.exactly "ab".toList) : Lexer Nat) := .start
  have hbuilt : (Rule.option (.char 'x' 0) : Rule Nat).Built := .option (.char 'x' 0)
  have hcounts : Counts.between? (.included 2) .unbounded = some ⟨2, wordCount - 1⟩ := rfl
  obtain ⟨hleast, hgreatest⟩ := (Counts.between?_eq_some_iff Bound.isWord_unbounded).mp hcounts
  exact hstart.apply_repeated_of_still (by decide) (by decide) hbuilt rfl (by decide) rfl
    Bound.isWord_unbounded hleast hgreatest (by decide)

/-- At the end of the input the same rule reads nothing as well, and the repetition fails. -/
theorem apply_repeated_optional_at_end :
    ∃ (l : Lexer Nat) (r : Rule Nat), l = Lexer.start (Source.exactly []) ∧
      r = .option (.char 'x' 0) ∧ l.Reachable (Source.exactly []) ∧ l.state = .done ∧ r.Built ∧
      r.apply l = .ok l ∧ (Counts.range (.included 2) .unbounded).Nonempty ∧
      IsGreatest (Counts.range (.included 2) .unbounded) (wordCount - 1) ∧ 1 ≤ wordCount - 1 ∧
      (r.repeated (.included 2) .unbounded).apply l = .ok l.fail ∧ l.fail ≠ l := by
  have hcounts : Counts.between? (.included 2) .unbounded = some ⟨2, wordCount - 1⟩ := rfl
  obtain ⟨hleast, hgreatest⟩ := (Counts.between?_eq_some_iff Bound.isWord_unbounded).mp hcounts
  refine ⟨_, _, rfl, rfl, .start, rfl, .option (.char 'x' 0), rfl, ⟨2, hleast.1⟩, hgreatest,
    by decide, rfl, ?_⟩
  intro heq
  exact absurd (congrArg state heq) (by decide)

end Lexer

end RuleLexer
