import RuleLexer.Proofs.Lexer.Built

/-!
# A rule that fails leaves the lexer as it was

A built rule that fails answers with the lexer that it was given, and only
the state of that lexer is changed. A lexer that has failed already passes
through every built rule. So nothing that was read before a failure can be
seen behind it.
-/

namespace RuleLexer

variable {K : Type}

namespace Lexer

variable {l m : Lexer K}

theorem take_not_failed {span : Span} {kind : K} (h : l.take span kind = .ok m) :
    m.failed = false := by
  unfold take at h
  split at h
  · obtain ⟨n, -, h⟩ := bind_eq_ok.mp h
    obtain ⟨w, -, h⟩ := bind_eq_ok.mp h
    cases h
    simp only [failed]
    split <;> rfl
  · simp at h

theorem matchSpan_of_failed (h : l.failed = true) (matcher : Window → Option Span) (kind : K) :
    l.matchSpan matcher kind = .ok l := by
  simp [matchSpan, h]

theorem matchSpan_eq_fail {matcher : Window → Option Span} {kind : K}
    (h : l.matchSpan matcher kind = .ok m) (hm : m.failed = true) : m = l.fail := by
  unfold matchSpan at h
  split at h
  · rename_i hl
    cases h
    exact (fail_eq_self hl).symm
  · split at h
    · split at h
      · cases h
        rfl
      · have := take_not_failed h
        simp [this] at hm
    · cases h
      rfl

end Lexer

namespace Rule

variable {r : Rule K} {l m : Lexer K}

/-- A list of rules that fails answers with the lexer at which it began, even where none of its
rules is applied. -/
theorem applyAll_eq_fail {origin : Lexer K} {rs : List (Rule K)}
    (hl : l.failed = true → l = origin.fail) (h : applyAll origin rs l = .ok m)
    (hm : m.failed = true) : m = origin.fail := by
  induction rs generalizing l with
  | nil =>
      cases h
      exact hl hm
  | cons r rs ih =>
      rw [applyAll_cons] at h
      obtain ⟨n, -, h⟩ := bind_eq_ok.mp h
      split at h
      · cases h
        rfl
      · rename_i hn
        exact ih (fun hn' => absurd hn' hn) h

theorem applyFirst_eq_fail {rs : List (Rule K)} (h : applyFirst l rs = .ok m)
    (hm : m.failed = true) : m = l.fail := by
  induction rs with
  | nil =>
      cases h
      rfl
  | cons r rs ih =>
      rw [applyFirst_cons] at h
      obtain ⟨n, -, h⟩ := bind_eq_ok.mp h
      split at h
      · exact ih h
      · rename_i hn
        cases h
        exact absurd hm hn

theorem applyFirst_of_failed (hl : l.failed = true) {rs : List (Rule K)}
    (h : ∀ r ∈ rs, r.apply l = .ok l) : applyFirst l rs = .ok l := by
  induction rs with
  | nil => rw [applyFirst, Lexer.fail_eq_self hl]
  | cons r rs ih =>
      rw [applyFirst_cons, h r List.mem_cons_self, bind_ok, if_pos hl]
      exact ih fun r hr => h r (List.mem_cons_of_mem _ hr)

theorem iterate_not_failed {max fuel count : Nat} {done : Repetition K} (hl : l.failed = false)
    (h : iterate r max fuel count l = .ok done) : done.lexer.failed = false := by
  induction fuel generalizing count l with
  | zero =>
      unfold iterate at h
      split at h
      · simp at h
      · cases h
        exact hl
  | succ fuel ih =>
      rw [iterate_succ] at h
      split at h
      · obtain ⟨n, -, h⟩ := bind_eq_ok.mp h
        split at h
        · cases h
          exact hl
        · rename_i hn
          cases h
          simp [Lexer.failed, hn]
        · rename_i hn
          split at h
          · cases h
            exact hl
          · exact ih (by simp [Lexer.failed, hn]) h
      · cases h
        exact hl

theorem Built.apply_of_failed (h : r.Built) (hl : l.failed = true) : r.apply l = .ok l := by
  have hfail := Lexer.fail_eq_self hl
  induction h with
  | text literal kind => rw [apply_text, Lexer.matchSpan_of_failed hl]
  | char c kind => rw [apply_char, Lexer.matchSpan_of_failed hl]
  | run p kind => rw [apply_run, Lexer.matchSpan_of_failed hl]
  | pattern p kind => rw [apply_pattern, Lexer.matchSpan_of_failed hl]
  | eof => rw [apply_eof, hfail, ite_self]
  | sequence _ _ iha _ => rw [apply_sequence, iha, bind_ok, if_pos hl, hfail]
  | choice _ _ iha ihb => rw [apply_choice, iha, bind_ok, if_pos hl, ihb]
  | @seq rs _ ih =>
      cases rs with
      | nil => rfl
      | cons r rs =>
          change applyAll l (r :: rs) l = _
          rw [applyAll_cons, ih r List.mem_cons_self, bind_ok, if_pos hl, hfail]
  | oneOf _ ih => exact applyFirst_of_failed hl ih
  | option _ ih => rw [apply_option, ih, bind_ok, if_pos hl]
  | not _ _ => rw [apply_not, if_pos hl, hfail]
  | repeated low high _ _ =>
      unfold Rule.repeated
      cases Counts.between? low high with
      | none => rw [apply_repeatCounts_none, hfail]
      | some counts => rw [apply_repeatCounts_some, if_pos hl]
  | named name _ ih => exact ih

section Compound

variable {a b : Rule K}

theorem eof_eq_fail (h : eof.apply l = .ok m) (hm : m.failed = true) : m = l.fail := by
  rw [apply_eof] at h
  split at h
  · rename_i hdone
    cases h
    have hstate : l.state = .done := of_decide_eq_true hdone
    rw [Lexer.failed_iff, hstate] at hm
    exact absurd hm (by simp)
  · cases h
    rfl

theorem sequence_eq_fail (h : (sequence a b).apply l = .ok m) (hm : m.failed = true) :
    m = l.fail := by
  rw [apply_sequence] at h
  obtain ⟨n, -, h⟩ := bind_eq_ok.mp h
  split at h
  · cases h
    rfl
  · obtain ⟨n', -, h⟩ := bind_eq_ok.mp h
    split at h
    · cases h
      rfl
    · rename_i hn
      cases h
      exact absurd hm hn

/-- A choice that fails answers as its second rule does. -/
theorem choice_eq_fail (hb : b.apply l = .ok m → m = l.fail) (h : (choice a b).apply l = .ok m)
    (hm : m.failed = true) : m = l.fail := by
  rw [apply_choice] at h
  obtain ⟨n, -, h⟩ := bind_eq_ok.mp h
  split at h
  · exact hb h
  · rename_i hn
    cases h
    exact absurd hm hn

theorem option_eq_fail (h : (option a).apply l = .ok m) (hm : m.failed = true) : m = l.fail := by
  rw [apply_option] at h
  obtain ⟨n, -, h⟩ := bind_eq_ok.mp h
  split at h
  · cases h
    exact (Lexer.fail_eq_self hm).symm
  · rename_i hn
    cases h
    exact absurd hm hn

theorem not_eq_fail (h : (not a).apply l = .ok m) (hm : m.failed = true) : m = l.fail := by
  rw [apply_not] at h
  split at h
  · cases h
    rfl
  · rename_i hl
    obtain ⟨n, -, h⟩ := bind_eq_ok.mp h
    split at h
    · cases h
      exact absurd hm hl
    · cases h
      rfl

theorem repeatCounts_eq_fail {counts : Option Counts} (h : (repeatCounts a counts).apply l = .ok m)
    (hm : m.failed = true) : m = l.fail := by
  cases counts with
  | none =>
      rw [apply_repeatCounts_none] at h
      cases h
      rfl
  | some counts =>
      rw [apply_repeatCounts_some] at h
      split at h
      · cases h
        exact (Lexer.fail_eq_self hm).symm
      · rename_i hl
        obtain ⟨done, hdone, h⟩ := bind_eq_ok.mp h
        split at h
        · cases h
          have hnot := iterate_not_failed (Bool.eq_false_iff.mpr hl) hdone
          exact absurd hm (Bool.eq_false_iff.mp hnot)
        · cases h
          rfl

end Compound

theorem Built.eq_fail (h : r.Built) (hm : r.apply l = .ok m) (hfailed : m.failed = true) :
    m = l.fail := by
  induction h generalizing l m with
  | text literal kind => exact Lexer.matchSpan_eq_fail (apply_text .. ▸ hm) hfailed
  | char c kind => exact Lexer.matchSpan_eq_fail (apply_char .. ▸ hm) hfailed
  | run p kind => exact Lexer.matchSpan_eq_fail (apply_run .. ▸ hm) hfailed
  | pattern p kind => exact Lexer.matchSpan_eq_fail (apply_pattern .. ▸ hm) hfailed
  | eof => exact eof_eq_fail hm hfailed
  | sequence _ _ _ _ => exact sequence_eq_fail hm hfailed
  | choice _ _ _ ihb => exact choice_eq_fail (fun hb => ihb hb hfailed) hm hfailed
  | seq _ _ => exact applyAll_eq_fail (fun hl => (Lexer.fail_eq_self hl).symm) hm hfailed
  | oneOf _ _ => exact applyFirst_eq_fail hm hfailed
  | option _ _ => exact option_eq_fail hm hfailed
  | not _ _ => exact not_eq_fail hm hfailed
  | repeated low high _ _ => exact repeatCounts_eq_fail hm hfailed
  | named name _ ih => exact ih hm hfailed

end Rule

theorem Lexer.accepted_fail_start (source : Source) :
    (start source : Lexer K).fail.accepted = .error ⟨.noMatch, 0, 1, 1⟩ := by
  have hplace : source.lineCol 0 = (1, 1) := by
    rw [Source.lineCol, source.lines_eq]
    exact LineTable.lineCol_start (k := 0) rfl
  have hsource : (start source : Lexer K).fail.source = source := rfl
  have hposition : (start source : Lexer K).fail.position = 0 := rfl
  simp only [accepted, rejection, hsource, hposition, hplace]
  rfl

/-- A built rule that fails leaves everything but the state as it was, and one that is applied to a
failed lexer leaves all of it. A run that fails is reported at the start of the source. -/
theorem Rule.Built.failure_unchanged {r : Rule K} (h : r.Built) (l : Lexer K) :
    (∀ m, r.apply l = .ok m → m.state = .noMatch → m = { l with state := .noMatch }) ∧
      (l.state = .noMatch → r.apply l = .ok l) ∧
      ∀ source m, r.tokenize source = .ok m → m.state = .noMatch →
        m.accepted = .error ⟨.noMatch, 0, 1, 1⟩ := by
  refine ⟨?_, ?_, ?_⟩
  · intro m hm hstate
    exact h.eq_fail hm (Lexer.failed_iff.mpr hstate)
  · intro hstate
    exact h.apply_of_failed (Lexer.failed_iff.mpr hstate)
  · intro source m hm hstate
    rw [h.eq_fail hm (Lexer.failed_iff.mpr hstate)]
    exact Lexer.accepted_fail_start source

/-- The token of a repetition that falls short of its lower count is dropped. -/
theorem failure_unchanged_abd :
    ∃ m, (Rule.atLeast 2 (.sequence (.char 'a' 0) (.option (.char 'b' 1)))).tokenize
        (Source.exactly ['a', 'b', 'd']) = .ok m ∧ m.state = .noMatch ∧
      m.tokens = [] ∧ m.accepted = .error ⟨.noMatch, 0, 1, 1⟩ := by
  have hbuilt : (Rule.atLeast 2 (.sequence (.char 'a' 0) (.option (.char 'b' 1)))).Built :=
    .repeated _ _ (.sequence (.char 'a' 0) (.option (.char 'b' 1)))
  have hrun : (Rule.atLeast 2 (.sequence (.char 'a' 0) (.option (.char 'b' 1)))).tokenize
      (Source.exactly ['a', 'b', 'd']) = .ok (Lexer.start _).fail := rfl
  have hkept := hbuilt.failure_unchanged (Lexer.start (Source.exactly ['a', 'b', 'd']))
  exact ⟨_, hrun, rfl, rfl, hkept.2.2 _ _ hrun rfl⟩

end RuleLexer
