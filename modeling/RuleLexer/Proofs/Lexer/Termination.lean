import RuleLexer.Proofs.Lexer.Iteration

/-!
# Repetitions end

A rule that is built from the library and does not fail either leaves the
lexer as it is or reads something. So a loop that goes on only after an
application that has read something ends, whatever its upper count is, after
at most one application for each byte that is left. This holds of every
lexer, also of one that no run leads to, and of a rule with any repetitions
inside it.
-/

namespace RuleLexer

variable {K : Type}

namespace Lexer

/-- From the first lexer to the second one something has been read, and what is left is not behind
the end of the window. -/
structure Reads (l m : Lexer K) : Prop where
  stop_eq : m.remaining.span.stop = l.remaining.span.stop
  position_lt : l.position < m.position
  position_le : m.position ≤ m.remaining.span.stop
  position_lt_of_matching : m.state = .matching → m.position < m.remaining.span.stop

/-- Nothing has happened, or something has been read. -/
def Proceeds (l m : Lexer K) : Prop := m = l ∨ l.Reads m

variable {l m n : Lexer K}

theorem Reads.trans (h : l.Reads m) (h' : m.Reads n) : l.Reads n where
  stop_eq := h'.stop_eq.trans h.stop_eq
  position_lt := h.position_lt.trans h'.position_lt
  position_le := h'.position_le
  position_lt_of_matching := h'.position_lt_of_matching

theorem Reads.bytesLeft_lt (h : l.Reads m) : m.bytesLeft < l.bytesLeft := by
  have hstop := h.stop_eq
  have hlt : l.remaining.span.start < m.remaining.span.start := h.position_lt
  have hle : m.remaining.span.start ≤ m.remaining.span.stop := h.position_le
  simp only [bytesLeft]
  omega

theorem Reads.bytesLeft_pos (h : l.Reads m) (hm : m.state = .matching) : 0 < m.bytesLeft :=
  Nat.sub_pos_of_lt (h.position_lt_of_matching hm)

theorem Proceeds.refl (l : Lexer K) : l.Proceeds l := .inl rfl

theorem Proceeds.trans (h : l.Proceeds m) (h' : m.Proceeds n) : l.Proceeds n := by
  rcases h with rfl | h
  · exact h'
  · rcases h' with rfl | h'
    · exact .inr h
    · exact .inr (h.trans h')

/-- A token is taken from the start of the window, and ends within it. -/
theorem take_reads {span : Span} {kind : K} (h : l.take span kind = .ok m)
    (hne : span.isEmpty = false) : l.Reads m := by
  unfold take at h
  split at h
  · rename_i hinside
    obtain ⟨size, hsize, h⟩ := bind_eq_ok.mp h
    obtain ⟨window, hwindow, h⟩ := bind_eq_ok.mp h
    obtain ⟨hordered, rfl⟩ := guard_eq_ok.mp hsize
    obtain ⟨-, rfl⟩ := guard_eq_ok.mp hwindow
    cases h
    have hstart : span.start = l.remaining.span.start := hinside.1
    have hstop : span.stop ≤ l.remaining.span.stop := by
      simpa [Span.contains, hstart] using hinside.2
    have hdiffer : span.start ≠ span.stop := by simpa [Span.isEmpty] using hne
    constructor
    · simp
    · simp only [position, Window.start, Window.advance_span]
      omega
    · simp only [position, Window.start, Window.advance_span]
      omega
    · intro hmatching
      have hleft : ¬(l.remaining.advance (span.stop - span.start)).isEmpty = true := fun hempty => by
        simp [hempty] at hmatching
      simp only [Window.isEmpty, Span.isEmpty, Window.advance_span, beq_iff_eq] at hleft
      simp only [position, Window.start, Window.advance_span]
      omega
  · simp at h

theorem take_ne_endless (l : Lexer K) (span : Span) (kind : K) :
    l.take span kind ≠ .error .endlessRule := by
  unfold take
  split
  · refine bind_ne_error (guard_ne_error (by simp)) fun size _ => ?_
    refine bind_ne_error (guard_ne_error (by simp)) fun window _ => ?_
    simp [pure, Except.pure]
  · simp

/-- A step of a rule comes to an end: it does not go on forever, and unless it fails it proceeds. -/
structure Ends (l : Lexer K) (result : Except Fault (Lexer K)) : Prop where
  ne_endless : result ≠ .error .endlessRule
  proceeds : ∀ m, result = .ok m → m.failed = false → l.Proceeds m

namespace Ends

variable {result : Except Fault (Lexer K)}

theorem ok (h : m.failed = false → l.Proceeds m) : l.Ends (.ok m) where
  ne_endless := by simp
  proceeds := by
    intro n hn hlive
    obtain rfl := Except.ok.inj hn
    exact h hlive

theorem fail (l m : Lexer K) : l.Ends (.ok m.fail) := ok fun hlive => by simp at hlive

theorem self (l : Lexer K) : l.Ends (.ok l) := ok fun _ => .refl l

theorem bind {α : Type} {x : Except Fault α} {f : α → Except Fault (Lexer K)}
    (hx : x ≠ .error .endlessRule) (hf : ∀ a, x = .ok a → l.Ends (f a)) :
    l.Ends (x.bind f) where
  ne_endless := bind_ne_error hx fun a ha => (hf a ha).ne_endless
  proceeds := by
    intro m hm hlive
    obtain ⟨a, ha, hm⟩ := bind_eq_ok.mp hm
    exact (hf a ha).proceeds m hm hlive

/-- What ends from a lexer further on ends from the first one. -/
theorem of_proceeds (h : l.Proceeds m) (hm : m.Ends result) : l.Ends result where
  ne_endless := hm.ne_endless
  proceeds := fun n hn hlive => h.trans (hm.proceeds n hn hlive)

theorem matchSpan (l : Lexer K) (matcher : Window → Option Span) (kind : K) :
    l.Ends (l.matchSpan matcher kind) := by
  unfold Lexer.matchSpan
  split
  · exact self l
  · split
    · split
      · exact fail l l
      · rename_i hne
        exact ⟨take_ne_endless l _ kind,
          fun m hm _ => .inr (take_reads hm (Bool.eq_false_iff.mpr hne))⟩
    · exact fail l l

end Ends

theorem Reachable.bytesLeft_pos {source : Source} (hsize : source.size < wordCount)
    (h : l.Reachable source) (hl : l.state = .matching) : 0 < l.bytesLeft := by
  obtain ⟨rest, hat⟩ := h.exists_at hsize (by simp [failed, hl])
  have hrest : rest ≠ [] := fun hend => by simp [hat.state, hend] at hl
  rw [hat.bytesLeft_eq]
  exact Nat.pos_of_ne_zero (mt Text.byteSize_eq_zero.mp hrest)

end Lexer

namespace Rule

open Lexer

/-- The loop of a repetition, with no bound on the applications: from a count and a lexer it ends
after `calls` applications, with how it ended or with the fault of one of them. -/
inductive Loops (r : Rule K) (max : Nat) :
    Nat → Lexer K → Nat → Except Fault (Repetition K) → Prop
  | full {count : Nat} {l : Lexer K} : max ≤ count → Loops r max count l 0 (.ok ⟨count, l, false⟩)
  | fault {count : Nat} {l : Lexer K} {e : Fault} :
      count < max → r.apply l = .error e → Loops r max count l 1 (.error e)
  | failed {count : Nat} {l m : Lexer K} :
      count < max → r.apply l = .ok m → m.state = .noMatch →
        Loops r max count l 1 (.ok ⟨count, l, false⟩)
  | done {count : Nat} {l m : Lexer K} :
      count < max → r.apply l = .ok m → m.state = .done →
        Loops r max count l 1 (.ok ⟨count + 1, m, false⟩)
  | still {count : Nat} {l m : Lexer K} :
      count < max → r.apply l = .ok m → m.state = .matching → m.position = l.position →
        Loops r max count l 1 (.ok ⟨count, l, true⟩)
  | next {count calls : Nat} {l m : Lexer K} {result : Except Fault (Repetition K)} :
      count < max → r.apply l = .ok m → m.state = .matching → m.position ≠ l.position →
        Loops r max (count + 1) m calls result → Loops r max count l (calls + 1) result

variable {r a b : Rule K} {rs : List (Rule K)} {max count calls : Nat} {l : Lexer K}
  {result : Except Fault (Repetition K)}

namespace Loops

/-- A bound that is not below the number of applications is never met. -/
theorem iterate_eq (h : r.Loops max count l calls result) {fuel : Nat} (hfuel : calls ≤ fuel) :
    r.iterate max fuel count l = result := by
  induction h generalizing fuel with
  | full hfull =>
      cases fuel with
      | zero => rw [Rule.iterate, if_neg (Nat.not_lt.mpr hfull)]
      | succ fuel => rw [iterate_succ, if_neg (Nat.not_lt.mpr hfull)]
  | fault hcount happly =>
      obtain ⟨fuel, rfl⟩ := Nat.exists_eq_add_of_le' hfuel
      rw [iterate_succ, if_pos hcount, happly]
      rfl
  | failed hcount happly hm =>
      obtain ⟨fuel, rfl⟩ := Nat.exists_eq_add_of_le' hfuel
      rw [iterate_succ, if_pos hcount, happly, bind_ok, hm]
  | done hcount happly hm =>
      obtain ⟨fuel, rfl⟩ := Nat.exists_eq_add_of_le' hfuel
      rw [iterate_succ, if_pos hcount, happly, bind_ok, hm]
  | still hcount happly hm hstill =>
      obtain ⟨fuel, rfl⟩ := Nat.exists_eq_add_of_le' hfuel
      rw [iterate_succ, if_pos hcount, happly, bind_ok, hm]
      exact if_pos hstill
  | @next count calls l m result hcount happly hm hmoved _ ih =>
      obtain ⟨fuel, rfl⟩ := Nat.exists_eq_add_of_le' (Nat.le_of_add_left_le hfuel)
      rw [iterate_succ, if_pos hcount, happly, bind_ok, hm]
      exact (if_neg hmoved).trans (ih (by omega))

/-- The loop can go in one way only. -/
theorem unique (h : r.Loops max count l calls result) {calls' : Nat}
    {result' : Except Fault (Repetition K)} (h' : r.Loops max count l calls' result') :
    calls' = calls ∧ result' = result := by
  induction h generalizing calls' result' with
  | next hcount happly hm hmoved _ ih =>
      cases h' with
      | next _ happly' _ _ hrest =>
          obtain rfl := Except.ok.inj (happly'.symm.trans happly)
          obtain ⟨rfl, rfl⟩ := ih hrest
          exact ⟨rfl, rfl⟩
      | _ => grind
  | _ => cases h' <;> grind

theorem count_le (h : r.Loops max count l calls result) {ended : Repetition K}
    (hended : result = .ok ended) : count ≤ ended.count ∧ ended.count ≤ count + calls := by
  induction h with
  | next _ _ _ _ _ ih =>
      have := ih hended
      omega
  | fault => simp at hended
  | _ =>
      cases hended
      simp

end Loops

/-- Every application of the rule comes to an end. -/
def AlwaysEnds (r : Rule K) : Prop := ∀ l : Lexer K, l.Ends (r.apply l)

/-- The loop goes on only after an application that has read something, so it ends after at most
one application for each byte that is left. Where none is left, one application may be made. -/
theorem AlwaysEnds.exists_loops (h : r.AlwaysEnds) (max count : Nat) (l : Lexer K) :
    ∃ calls result, r.Loops max count l calls result ∧ calls ≤ Nat.max 1 l.bytesLeft ∧
      result ≠ .error .endlessRule ∧ ∀ ended, result = .ok ended → l.Proceeds ended.lexer := by
  induction hleft : l.bytesLeft using Nat.strong_induction_on generalizing count l with
  | _ left ih =>
      have hone : 1 ≤ Nat.max 1 left := Nat.le_max_left 1 left
      by_cases hcount : count < max
      · cases happly : r.apply l with
        | error e =>
            have he := happly ▸ (h l).ne_endless
            exact ⟨1, _, .fault hcount happly, hone, by simpa using he, nofun⟩
        | ok m =>
            have hlive (hm : m.state ≠ .noMatch) : l.Proceeds m :=
              (h l).proceeds m happly (failed_eq_false hm)
            cases hm : m.state with
            | noMatch =>
                refine ⟨1, _, .failed hcount happly hm, hone, by simp, fun ended hended => ?_⟩
                cases hended
                exact .refl l
            | done =>
                refine ⟨1, _, .done hcount happly hm, hone, by simp, fun ended hended => ?_⟩
                cases hended
                exact hlive (by simp [hm])
            | matching =>
                rcases hlive (by simp [hm]) with rfl | hreads
                · refine ⟨1, _, .still hcount happly hm rfl, hone, by simp, fun ended hended => ?_⟩
                  cases hended
                  exact .refl m
                · have hlt : m.bytesLeft < left := hleft ▸ hreads.bytesLeft_lt
                  have hpos := hreads.bytesLeft_pos hm
                  obtain ⟨calls, result, hloops, hcalls, hresult, hproceeds⟩ :=
                    ih m.bytesLeft hlt (count + 1) m rfl
                  have hmax : Nat.max 1 m.bytesLeft = m.bytesLeft := Nat.max_eq_right hpos
                  refine ⟨calls + 1, result,
                    .next hcount happly hm (Nat.ne_of_gt hreads.position_lt) hloops, ?_, hresult,
                    fun ended hended => .trans (.inr hreads) (hproceeds ended hended)⟩
                  exact (Nat.succ_le_succ (hmax ▸ hcalls)).trans
                    (hlt.trans_le (Nat.le_max_right 1 left))
      · exact ⟨0, _, .full (Nat.le_of_not_lt hcount), Nat.zero_le _, by simp, fun ended hended => by
          cases hended
          exact .refl l⟩

namespace AlwaysEnds

theorem sequence (ha : a.AlwaysEnds) (hb : b.AlwaysEnds) : (Rule.sequence a b).AlwaysEnds := by
  intro l
  rw [apply_sequence]
  refine .bind (ha l).ne_endless fun m hm => ?_
  split
  · exact .fail l l
  · rename_i hlive
    refine .of_proceeds ((ha l).proceeds m hm (Bool.eq_false_iff.mpr hlive)) ?_
    refine .bind (hb m).ne_endless fun n hn => ?_
    split
    · exact .fail m l
    · exact .ok ((hb m).proceeds n hn)

theorem choice (ha : a.AlwaysEnds) (hb : b.AlwaysEnds) : (Rule.choice a b).AlwaysEnds := by
  intro l
  rw [apply_choice]
  refine .bind (ha l).ne_endless fun m hm => ?_
  split
  · exact hb l
  · exact .ok ((ha l).proceeds m hm)

theorem seq (h : ∀ r ∈ rs, r.AlwaysEnds) : (Rule.seq rs).AlwaysEnds := by
  intro origin
  change origin.Ends (applyAll origin rs origin)
  -- The list goes on from the lexer that the rules before have led to.
  suffices hall : ∀ l, origin.Proceeds l → origin.Ends (applyAll origin rs l) from
    hall origin (.refl origin)
  induction rs with
  | nil => exact fun l hl => .ok fun _ => hl
  | cons r rs ih =>
      rw [List.forall_mem_cons] at h
      intro l hl
      rw [applyAll_cons]
      refine .bind (h.1 l).ne_endless fun m hm => ?_
      split
      · exact .fail origin origin
      · rename_i hlive
        exact ih h.2 m (hl.trans ((h.1 l).proceeds m hm (Bool.eq_false_iff.mpr hlive)))

theorem oneOf (h : ∀ r ∈ rs, r.AlwaysEnds) : (Rule.oneOf rs).AlwaysEnds := by
  intro l
  change l.Ends (applyFirst l rs)
  induction rs with
  | nil => exact .fail l l
  | cons r rs ih =>
      rw [List.forall_mem_cons] at h
      rw [applyFirst_cons]
      refine .bind (h.1 l).ne_endless fun m hm => ?_
      split
      · exact ih h.2
      · exact .ok ((h.1 l).proceeds m hm)

theorem option (h : r.AlwaysEnds) : (Rule.option r).AlwaysEnds := by
  intro l
  rw [apply_option]
  refine .bind (h l).ne_endless fun m hm => ?_
  split
  · exact .self l
  · exact .ok ((h l).proceeds m hm)

theorem not (h : r.AlwaysEnds) : (Rule.not r).AlwaysEnds := by
  intro l
  rw [apply_not]
  split
  · exact .fail l l
  · refine .bind (h l).ne_endless fun m _ => ?_
    split
    · exact .self l
    · exact .fail l l

/-- The bound in the loop is one more than the bytes that are left, so it is not met. -/
theorem repeatCounts (h : r.AlwaysEnds) (counts : Option Counts) :
    (Rule.repeatCounts r counts).AlwaysEnds := by
  intro l
  cases counts with
  | none => exact .fail l l
  | some counts =>
      rw [apply_repeatCounts_some]
      split
      · exact .self l
      · obtain ⟨calls, result, hloops, hcalls, hresult, hproceeds⟩ :=
          h.exists_loops counts.max 0 l
        rw [hloops.iterate_eq (hcalls.trans (Nat.max_le.mpr ⟨by omega, by omega⟩))]
        refine .bind hresult fun ended hended => ?_
        split
        · exact .ok fun _ => hproceeds ended hended
        · exact .fail l l

end AlwaysEnds

theorem Built.alwaysEnds (h : r.Built) : r.AlwaysEnds := by
  induction h with
  | text literal kind => exact fun l => Ends.matchSpan l (·.literal? literal) kind
  | char c kind => exact fun l => Ends.matchSpan l (·.char? c) kind
  | run p kind => exact fun l => Ends.matchSpan l (·.run? p) kind
  | pattern p kind => exact fun l => Ends.matchSpan l (·.lineMatch? p.prefixLength) kind
  | eof =>
      intro l
      rw [apply_eof]
      split
      · exact .self l
      · exact .fail l l
  | sequence _ _ iha ihb => exact iha.sequence ihb
  | choice _ _ iha ihb => exact iha.choice ihb
  | seq _ ih => exact .seq ih
  | oneOf _ ih => exact .oneOf ih
  | option _ ih => exact ih.option
  | not _ ih => exact ih.not
  | repeated low high _ ih => exact ih.repeatCounts _
  | named name _ ih => exact ih

/-- On a reachable lexer no application is a fault, so the loop ends with a count. -/
theorem Built.exists_loops_of_reachable (hr : r.Built) {source : Source}
    (hsize : source.size < wordCount) (hl : l.Reachable source) (hlive : l.state ≠ .noMatch)
    {low high : Bound} {counts : Counts} (hcounts : Counts.between? low high = some counts) :
    ∃ calls ended, r.Loops counts.max 0 l calls (.ok ended) ∧ calls ≤ Nat.max 1 l.bytesLeft ∧
      (r.repeated low high).apply l =
        .ok (if counts.min ≤ ended.count ∨ ended.saturated then ended.lexer else l.fail) := by
  obtain ⟨calls, result, hloops, hcalls, -⟩ := hr.alwaysEnds.exists_loops counts.max 0 l
  have hfuel : calls ≤ l.bytesLeft + 1 := hcalls.trans (Nat.max_le.mpr ⟨by omega, by omega⟩)
  have hnot := failed_eq_false hlive
  have happly : (r.repeated low high).apply l = result.bind fun ended =>
      if counts.min ≤ ended.count ∨ ended.saturated then .ok ended.lexer else .ok l.fail := by
    rw [Rule.repeated, hcounts, apply_repeatCounts_some, hnot, if_neg Bool.false_ne_true,
      hloops.iterate_eq hfuel]
  obtain ⟨m, hm, -⟩ := hl.exists_apply hsize (Built.repeated low high hr)
  obtain ⟨ended, rfl, -⟩ := bind_eq_ok.mp (happly.symm.trans hm)
  refine ⟨calls, ended, hloops, hcalls, happly.trans ?_⟩
  rw [bind_ok]
  split <;> rfl

/-- The loop of a repetition goes in one way only, and ends after at most one application for each
byte that is left, or a single one where none is left. On a reachable lexer it ends without a fault,
and its counter stays within the same bound, so that it is a word: within the number of bytes that
are left as long as there are any. No rule that is built from the library goes on forever. -/
theorem Built.repetitions_end (hr : r.Built) :
    (∀ (l : Lexer K) (max : Nat), ∃ calls result, calls ≤ Nat.max 1 l.bytesLeft ∧
        result ≠ .error .endlessRule ∧
        ∀ calls' result', r.Loops max 0 l calls' result' ↔ calls' = calls ∧ result' = result) ∧
      (∀ (source : Source) (l : Lexer K), source.size < wordCount → l.Reachable source →
        (∃ m, r.apply l = .ok m) ∧
        (l.state ≠ .noMatch → ∀ low high counts, Counts.between? low high = some counts →
          ∃ calls ended, r.Loops counts.max 0 l calls (.ok ended) ∧
            calls ≤ Nat.max 1 l.bytesLeft ∧ ended.count ≤ Nat.max 1 l.bytesLeft ∧
            (l.state = .matching → ended.count ≤ l.bytesLeft) ∧ ended.count < wordCount ∧
            (r.repeated low high).apply l =
              .ok (if counts.min ≤ ended.count ∨ ended.saturated then ended.lexer
                else l.fail))) ∧
      ∀ l : Lexer K, r.apply l ≠ .error .endlessRule := by
  refine ⟨fun l max => ?_, fun source l hsize hl => ⟨?_, ?_⟩, fun l => (hr.alwaysEnds l).ne_endless⟩
  · obtain ⟨calls, result, hloops, hcalls, hresult, -⟩ := hr.alwaysEnds.exists_loops max 0 l
    refine ⟨calls, result, hcalls, hresult, fun calls' result' => ⟨hloops.unique, ?_⟩⟩
    rintro ⟨rfl, rfl⟩
    exact hloops
  · obtain ⟨m, hm, -⟩ := hl.exists_apply hsize hr
    exact ⟨m, hm⟩
  · intro hlive low high counts hcounts
    obtain ⟨calls, ended, hloops, hcalls, happly⟩ :=
      hr.exists_loops_of_reachable hsize hl hlive hcounts
    have hcount : ended.count ≤ Nat.max 1 l.bytesLeft := by
      have := (hloops.count_le rfl).2
      omega
    have hleft : l.bytesLeft ≤ source.size := by
      rw [hl.bytesLeft_eq hsize]
      exact Nat.sub_le _ _
    refine ⟨calls, ended, hloops, hcalls, hcount, fun hmatching => ?_, ?_, happly⟩
    · have hpos : 0 < l.bytesLeft := hl.bytesLeft_pos hsize hmatching
      exact hcount.trans (Nat.max_le.mpr ⟨hpos, Nat.le_refl _⟩)
    · exact hcount.trans_lt (Nat.max_lt.mpr ⟨by decide, by omega⟩)

/-- A repetition of repetitions of what may read nothing, on a text of three bytes. -/
theorem Built.repetitions_end_nested :
    ∃ calls ended,
      (Rule.repeated (.option (.char 'a' 0)) .unbounded .unbounded : Rule Nat).Loops (wordCount - 1) 0
        (Lexer.start (Source.exactly ['a', 'a', 'b'])) calls (.ok ended) ∧ calls ≤ 3 ∧
      ended.count ≤ 3 ∧ ended.count < wordCount := by
  have hbuilt : (Rule.repeated (.option (.char 'a' 0)) .unbounded .unbounded : Rule Nat).Built :=
    .repeated _ _ (.option (.char 'a' 0))
  obtain ⟨-, hreachable, -⟩ := hbuilt.repetitions_end
  obtain ⟨-, hloop⟩ := hreachable (Source.exactly ['a', 'a', 'b']) _ (by decide) .start
  obtain ⟨calls, ended, hloops, hcalls, -, hcount, hword, -⟩ :=
    hloop (by decide) .unbounded .unbounded ⟨0, wordCount - 1⟩ rfl
  exact ⟨calls, ended, hloops, hcalls, hcount rfl, hword⟩

/-- At the end of the text an application that reads nothing counts as one, although no byte is
left: one repetition is enough there, and two are too many. -/
theorem loops_counts_at_end :
    ∃ (r : Rule Nat) (l : Lexer Nat) (ended : Repetition Nat), r.Built ∧
      l.Reachable (Source.exactly []) ∧ l.state ≠ .noMatch ∧
      Counts.between? .unbounded .unbounded = some ⟨0, wordCount - 1⟩ ∧
      r.Loops (wordCount - 1) 0 l 1 (.ok ended) ∧ l.bytesLeft < ended.count ∧
      (r.repeated (.included 1) .unbounded).apply l = .ok l ∧
      (r.repeated (.included 2) .unbounded).apply l = .ok l.fail :=
  ⟨.option (.char 'x' 0), Lexer.start (Source.exactly []), ⟨1, Lexer.start (Source.exactly []), false⟩,
    .option (.char 'x' 0), .start, by decide, rfl, .done (by decide) rfl rfl, by decide, rfl, rfl⟩

end Rule

end RuleLexer
