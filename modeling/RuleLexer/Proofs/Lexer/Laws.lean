import RuleLexer.Proofs.Lexer.Reachable
import Mathlib.Data.List.Induction

/-!
# Laws of sequence and choice

Rules are alike if they have the same answer on every lexer. Rules for lists
of rules are alike to the rules that are put together from them two by two,
however these are bracketed. Sequence distributes over choice from the left,
and two negations leave a look ahead. A built rule that fails has changed
nothing, so it cannot be seen how often it was tried.
-/

namespace RuleLexer

variable {K : Type}

namespace Rule

/-- Both rules lead from the lexer to the same lexer. -/
def AgreeAt (a b : Rule K) (l : Lexer K) : Prop := ∃ m, a.apply l = .ok m ∧ b.apply l = .ok m

/-- The rules have the same answer on every lexer, and where a lexer can be reached this answer is
a lexer. -/
structure Alike (a b : Rule K) : Prop where
  apply_eq (l : Lexer K) : a.apply l = b.apply l
  agreeAt {source : Source} {l : Lexer K} (hsize : source.size < wordCount)
    (hl : l.Reachable source) : AgreeAt a b l

/-- The rule that succeeds and reads nothing. -/
def skip : Rule K := of fun l => .ok l

/-- The rule that fails. -/
def never : Rule K := of fun l => .ok l.fail

/-- Nothing, where the rule succeeds. -/
def ahead (r : Rule K) : Rule K :=
  of fun l => (r.apply l).map fun m => if m.failed then l.fail else l

/-- The rules of a list, put together two by two in brackets of any kind. The unit stands for no
rules at all. -/
inductive Bracketed (op : Rule K → Rule K → Rule K) (unit : Rule K) : List (Rule K) → Rule K → Prop
  | nil : Bracketed op unit [] unit
  | single (r : Rule K) : Bracketed op unit [r] r
  | append {rs ss : List (Rule K)} {a b : Rule K} :
      Bracketed op unit rs a → Bracketed op unit ss b → Bracketed op unit (rs ++ ss) (op a b)

theorem bracketed_foldr (op : Rule K → Rule K → Rule K) (unit : Rule K) (rs : List (Rule K)) :
    Bracketed op unit rs (rs.foldr op unit) := by
  induction rs with
  | nil => exact .nil
  | cons r rs ih => exact (Bracketed.single r).append ih

theorem bracketed_foldl (op : Rule K → Rule K → Rule K) (unit : Rule K) (rs : List (Rule K)) :
    Bracketed op unit rs (rs.foldl op unit) := by
  induction rs using List.reverseRecOn with
  | nil => exact .nil
  | append_singleton rs r ih =>
      rw [List.foldl_concat]
      exact ih.append (.single r)

variable {a b c r : Rule K} {rs ss : List (Rule K)} {l : Lexer K}

theorem Built.alike (ha : a.Built) (h : ∀ l, a.apply l = b.apply l) : a.Alike b where
  apply_eq := h
  agreeAt := by
    intro source l hsize hl
    obtain ⟨m, hm, -⟩ := hl.exists_apply hsize ha
    exact ⟨m, hm, h l ▸ hm⟩

/-- To fail anew where a built rule has failed changes nothing. -/
theorem Built.bind_fail (h : r.Built) (l : Lexer K) :
    ((r.apply l).bind fun m => if m.failed then .ok l.fail else .ok m) = r.apply l := by
  cases hm : r.apply l with
  | error e => rfl
  | ok m =>
      rw [bind_ok]
      split
      · rename_i hfailed
        rw [h.eq_fail hm hfailed]
      · rfl

theorem seq_single (h : r.Built) (l : Lexer K) : (seq [r]).apply l = r.apply l :=
  h.bind_fail l

theorem oneOf_single (h : r.Built) (l : Lexer K) : (oneOf [r]).apply l = r.apply l :=
  h.bind_fail l

/-- The lexer at which a list of rules began matters only where one of them fails. -/
theorem applyAll_append (hl : l.failed = false) (origin other : Lexer K) (rs ss : List (Rule K)) :
    applyAll origin (rs ++ ss) l = (applyAll other rs l).bind fun m =>
      if m.failed then .ok origin.fail else applyAll origin ss m := by
  induction rs generalizing l with
  | nil => simp [applyAll, bind_ok, hl]
  | cons r rs ih =>
      rw [List.cons_append, applyAll_cons, applyAll_cons]
      cases r.apply l with
      | error e => rfl
      | ok m =>
          rw [bind_ok, bind_ok]
          split
          · rfl
          · rename_i hm
            exact ih (Bool.eq_false_iff.mpr hm)

theorem applyFirst_append (l : Lexer K) (rs ss : List (Rule K)) :
    applyFirst l (rs ++ ss) = (applyFirst l rs).bind fun m =>
      if m.failed then applyFirst l ss else .ok m := by
  induction rs with
  | nil => rfl
  | cons r rs ih =>
      rw [List.cons_append, applyFirst_cons, applyFirst_cons]
      cases r.apply l with
      | error e => rfl
      | ok m =>
          rw [bind_ok, bind_ok]
          by_cases hm : m.failed = true
          · rw [if_pos hm, if_pos hm, ih]
          · rw [if_neg hm, if_neg hm, bind_ok, if_neg hm]

theorem seq_append (hrs : ∀ r ∈ rs, r.Built) (hss : ∀ r ∈ ss, r.Built) (l : Lexer K) :
    (seq (rs ++ ss)).apply l = (sequence (seq rs) (seq ss)).apply l := by
  cases hl : l.failed with
  | true =>
      -- A failed lexer passes, but a list of rules does not test for it before its first rule.
      have hall : (seq (rs ++ ss)).Built := .seq (List.forall_mem_append.mpr ⟨hrs, hss⟩)
      have hpair : (sequence (seq rs) (seq ss)).Built := .sequence (.seq hrs) (.seq hss)
      rw [hall.apply_of_failed hl, hpair.apply_of_failed hl]
  | false =>
      change applyAll l (rs ++ ss) l = (applyAll l rs l).bind _
      rw [applyAll_append hl l l]
      congr 1
      funext m
      split
      · rfl
      · rename_i hm
        have hsecond := applyAll_append (Bool.eq_false_iff.mpr hm) l m ss []
        rwa [List.append_nil] at hsecond

theorem oneOf_append (rs ss : List (Rule K)) (l : Lexer K) :
    (oneOf (rs ++ ss)).apply l = (choice (oneOf rs) (oneOf ss)).apply l :=
  applyFirst_append l rs ss

theorem Bracketed.apply_seq (h : Bracketed sequence skip rs a) (hrs : ∀ r ∈ rs, r.Built)
    (l : Lexer K) : (seq rs).apply l = a.apply l := by
  induction h generalizing l with
  | nil => rfl
  | single r => exact seq_single (hrs r List.mem_cons_self) l
  | append _ _ iha ihb =>
      obtain ⟨hleft, hright⟩ := List.forall_mem_append.mp hrs
      rw [seq_append hleft hright, apply_sequence, apply_sequence]
      simp only [iha hleft, ihb hright]

theorem Bracketed.apply_oneOf (h : Bracketed choice never rs a) (hrs : ∀ r ∈ rs, r.Built)
    (l : Lexer K) : (oneOf rs).apply l = a.apply l := by
  induction h generalizing l with
  | nil => rfl
  | single r => exact oneOf_single (hrs r List.mem_cons_self) l
  | append _ _ iha ihb =>
      obtain ⟨hleft, hright⟩ := List.forall_mem_append.mp hrs
      rw [oneOf_append, apply_choice, apply_choice]
      simp only [iha hleft, ihb hright]

/-- Rules for lists of rules and the rules that are put together from pairs of them. -/
theorem lists_alike_pairs (h : ∀ r ∈ rs, r.Built) :
    ((seq rs).Alike (rs.foldr sequence skip) ∧ (seq rs).Alike (rs.foldl sequence skip) ∧
      ∀ a, Bracketed sequence skip rs a → (seq rs).Alike a) ∧
    ((oneOf rs).Alike (rs.foldr choice never) ∧ (oneOf rs).Alike (rs.foldl choice never) ∧
      ∀ a, Bracketed choice never rs a → (oneOf rs).Alike a) := by
  have hseq : ∀ a, Bracketed sequence skip rs a → (seq rs).Alike a :=
    fun a ha => (Built.seq h).alike (ha.apply_seq h)
  have honeOf : ∀ a, Bracketed choice never rs a → (oneOf rs).Alike a :=
    fun a ha => (Built.oneOf h).alike (ha.apply_oneOf h)
  exact ⟨⟨hseq _ (bracketed_foldr _ _ rs), hseq _ (bracketed_foldl _ _ rs), hseq⟩,
    honeOf _ (bracketed_foldr _ _ rs), honeOf _ (bracketed_foldl _ _ rs), honeOf⟩

/-- The second of three rules is an option that fails, and the three stand in brackets to the left. -/
theorem lists_alike_pairs_option :
    ∃ m : Lexer Nat, (seq [char 'a' 0, option (char 'b' 1), char 'c' 2]).apply
        (Lexer.start (Source.exactly "ac".toList)) = .ok m ∧
      (sequence (sequence (char 'a' 0) (option (char 'b' 1))) (char 'c' 2)).apply
        (Lexer.start (Source.exactly "ac".toList)) = .ok m ∧
      m.tokens = [⟨⟨0, 1⟩, 0⟩, ⟨⟨1, 2⟩, 2⟩] := by
  have hbuilt : ∀ r ∈ [char 'a' 0, option (char 'b' 1), char 'c' 2], r.Built := by
    simp [Built.char, Built.option]
  have hleft : Bracketed sequence skip [char 'a' 0, option (char 'b' 1), char 'c' 2]
      (sequence (sequence (char 'a' 0) (option (char 'b' 1))) (char 'c' 2)) :=
    .append (.append (.single (char 'a' 0)) (.single (option (char 'b' 1)))) (.single (char 'c' 2))
  have halike := (lists_alike_pairs hbuilt).1.2.2 _ hleft
  have hstart : (Lexer.start (Source.exactly "ac".toList) : Lexer Nat).Reachable _ := .start
  obtain ⟨m, hseq, hpairs⟩ := halike.agreeAt (by decide) hstart
  refine ⟨m, hseq, hpairs, ?_⟩
  cases hseq
  rfl

theorem apply_sequence_choice (a b c : Rule K) (l : Lexer K) :
    (sequence a (choice b c)).apply l = (choice (sequence a b) (sequence a c)).apply l := by
  rw [apply_sequence, apply_choice, apply_sequence, apply_sequence]
  cases a.apply l with
  | error e => rfl
  | ok m =>
      simp only [bind_ok, apply_choice]
      by_cases hm : m.failed = true
      · simp [hm, bind_ok]
      · simp only [hm]
        cases b.apply m with
        | error e => rfl
        | ok n => by_cases hn : n.failed = true <;> simp [hn, bind_ok]

theorem apply_choice_self (a : Rule K) (l : Lexer K) : (choice a a).apply l = a.apply l := by
  rw [apply_choice]
  cases a.apply l with
  | error e => rfl
  | ok m => rw [bind_ok, ite_self]

theorem apply_not_not_not (a : Rule K) (l : Lexer K) :
    (not (not (not a))).apply l = (not a).apply l := by
  simp only [apply_not]
  cases hl : l.failed with
  | true => rfl
  | false =>
      cases a.apply l with
      | error e => rfl
      | ok m => by_cases hm : m.failed = true <;> simp [hm, hl, bind_ok]

/-- On a failed lexer no negation succeeds, so there a rule must fail as well. -/
theorem apply_not_not (ha : a.Built) (l : Lexer K) :
    (not (not a)).apply l = (ahead a).apply l := by
  change _ = (a.apply l).map _
  simp only [apply_not]
  cases hl : l.failed with
  | true =>
      rw [ha.apply_of_failed hl]
      simp [Except.map, hl]
  | false =>
      cases a.apply l with
      | error e => rfl
      | ok m => by_cases hm : m.failed = true <;> simp [hm, hl, bind_ok, Except.map]

/-- The algebra of ordered choice. -/
theorem choice_laws (ha : a.Built) (hb : b.Built) (hc : c.Built) :
    (sequence a (choice b c)).Alike (choice (sequence a b) (sequence a c)) ∧
      (choice a a).Alike a ∧ (option a).Alike (choice a (seq [])) ∧
      (not (not (not a))).Alike (not a) ∧ (not (not a)).Alike (ahead a) :=
  ⟨(Built.sequence ha (.choice hb hc)).alike (apply_sequence_choice a b c),
    (Built.choice ha ha).alike (apply_choice_self a), (Built.option ha).alike fun _ => rfl,
    (Built.not (.not (.not ha))).alike (apply_not_not_not a),
    (Built.not (.not ha)).alike (apply_not_not ha)⟩

/-- Behind the first rule one branch fails, and the other one is tried from there. -/
theorem choice_laws_second :
    ∃ m : Lexer Nat, (sequence (char 'a' 0) (choice (char 'b' 1) (char 'c' 2))).apply
        (Lexer.start (Source.exactly "acd".toList)) = .ok m ∧
      (choice (sequence (char 'a' 0) (char 'b' 1)) (sequence (char 'a' 0) (char 'c' 2))).apply
        (Lexer.start (Source.exactly "acd".toList)) = .ok m ∧
      m.tokens = [⟨⟨0, 1⟩, 0⟩, ⟨⟨1, 2⟩, 2⟩] := by
  have hlaws := choice_laws (.char 'a' 0) (.char 'b' 1) (.char 'c' 2)
  have hstart : (Lexer.start (Source.exactly "acd".toList) : Lexer Nat).Reachable _ := .start
  obtain ⟨m, hleft, hright⟩ := hlaws.1.agreeAt (by decide) hstart
  refine ⟨m, hleft, hright, ?_⟩
  cases hleft
  rfl

end Rule

end RuleLexer
