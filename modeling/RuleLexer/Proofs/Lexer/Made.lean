import RuleLexer.Proofs.Lexer.AnyMatcher

/-!
# Rules that are made of any matchers

A caller can make rules of any matchers, and combine them in the ways of the
library. Such rules get their lexers from one another and from matchers and
failures, so all of these lexers are obtained in the same way. A step is as
it should be exactly if its span ends between two characters, and that is
the one thing that a step does not check.
-/

namespace RuleLexer

variable {K : Type}

namespace Rule

/-- Rules from functions that get new lexers from matchers and failures only, and what the ways to
combine rules make of them. -/
inductive Made : Rule K → Prop
  | of {apply : Lexer K → Except Fault (Lexer K)} :
      (∀ {source : Source} {l m : Lexer K}, l.Obtained source → apply l = .ok m →
        m.Obtained source) → Made (Rule.of apply)
  | sequence {a b : Rule K} : Made a → Made b → Made (Rule.sequence a b)
  | choice {a b : Rule K} : Made a → Made b → Made (Rule.choice a b)
  | seq {rs : List (Rule K)} : (∀ r ∈ rs, Made r) → Made (Rule.seq rs)
  | oneOf {rs : List (Rule K)} : (∀ r ∈ rs, Made r) → Made (Rule.oneOf rs)
  | option {r : Rule K} : Made r → Made (Rule.option r)
  | not {r : Rule K} : Made r → Made (Rule.not r)
  | repeated {r : Rule K} (low high : Bound) : Made r → Made (Rule.repeated r low high)
  | named {r : Rule K} (name : Text) : Made r → Made (Rule.named name r)

theorem Made.matchSpan (matcher : Window → Option Span) (kind : K) :
    (Rule.of fun l => l.matchSpan matcher kind).Made :=
  .of fun hl hm => hl.matchSpan matcher kind hm

/-- The lexers that a rule gives back are obtained from its own one. -/
def Keeps (source : Source) (r : Rule K) : Prop :=
  ∀ l m : Lexer K, l.Obtained source → r.apply l = .ok m → m.Obtained source

variable {source : Source} {r a b : Rule K} {rs : List (Rule K)}

theorem Keeps.sequence (ha : a.Keeps source) (hb : b.Keeps source) :
    (Rule.sequence a b).Keeps source := by
  intro l n hl hn
  rw [apply_sequence] at hn
  obtain ⟨m, hm, hn⟩ := bind_eq_ok.mp hn
  split at hn
  · cases hn
    exact hl.fail
  · obtain ⟨n', hn', hn⟩ := bind_eq_ok.mp hn
    split at hn
    · cases hn
      exact hl.fail
    · cases hn
      exact hb _ _ (ha _ _ hl hm) hn'

theorem Keeps.choice (ha : a.Keeps source) (hb : b.Keeps source) :
    (Rule.choice a b).Keeps source := by
  intro l n hl hn
  rw [apply_choice] at hn
  obtain ⟨m, hm, hn⟩ := bind_eq_ok.mp hn
  split at hn
  · exact hb _ _ hl hn
  · cases hn
    exact ha _ _ hl hm

theorem Keeps.seq (h : ∀ r ∈ rs, r.Keeps source) : (Rule.seq rs).Keeps source := by
  intro l n hl hn
  change applyAll l rs l = .ok n at hn
  -- What is kept along the list is the lexer that the next rule is applied to.
  suffices hall : ∀ current : Lexer K, current.Obtained source →
      applyAll l rs current = .ok n → n.Obtained source from hall l hl hn
  intro current hcurrent happly
  clear hn
  induction rs generalizing current with
  | nil =>
      cases happly
      exact hcurrent
  | cons r rs ih =>
      rw [List.forall_mem_cons] at h
      rw [applyAll_cons] at happly
      obtain ⟨m, hm, happly⟩ := bind_eq_ok.mp happly
      split at happly
      · cases happly
        exact hl.fail
      · exact ih h.2 m (h.1 _ _ hcurrent hm) happly

theorem Keeps.oneOf (h : ∀ r ∈ rs, r.Keeps source) : (Rule.oneOf rs).Keeps source := by
  intro l n hl hn
  change applyFirst l rs = .ok n at hn
  induction rs with
  | nil =>
      cases hn
      exact hl.fail
  | cons r rs ih =>
      rw [List.forall_mem_cons] at h
      rw [applyFirst_cons] at hn
      obtain ⟨m, hm, hn⟩ := bind_eq_ok.mp hn
      split at hn
      · exact ih h.2 hn
      · cases hn
        exact h.1 _ _ hl hm

theorem Keeps.option (h : r.Keeps source) : (Rule.option r).Keeps source := by
  intro l n hl hn
  rw [apply_option] at hn
  obtain ⟨m, hm, hn⟩ := bind_eq_ok.mp hn
  split at hn
  · cases hn
    exact hl
  · cases hn
    exact h _ _ hl hm

theorem Keeps.not : (Rule.not r).Keeps source := by
  intro l n hl hn
  rw [apply_not] at hn
  split at hn
  · cases hn
    exact hl.fail
  · obtain ⟨m, -, hn⟩ := bind_eq_ok.mp hn
    split at hn
    · cases hn
      exact hl
    · cases hn
      exact hl.fail

theorem Keeps.iterate (h : r.Keeps source) {max fuel count : Nat} {l : Lexer K}
    {done : Repetition K} (hl : l.Obtained source)
    (hdone : Rule.iterate r max fuel count l = .ok done) : done.lexer.Obtained source := by
  induction fuel generalizing count l with
  | zero =>
      rw [Rule.iterate] at hdone
      split at hdone
      · simp at hdone
      · cases hdone
        exact hl
  | succ fuel ih =>
      rw [iterate_succ] at hdone
      split at hdone
      · obtain ⟨m, hm, hdone⟩ := bind_eq_ok.mp hdone
        split at hdone
        · cases hdone
          exact hl
        · cases hdone
          exact h _ _ hl hm
        · split at hdone
          · cases hdone
            exact hl
          · exact ih (h _ _ hl hm) hdone
      · cases hdone
        exact hl

theorem Keeps.repeatCounts (h : r.Keeps source) (counts : Option Counts) :
    (Rule.repeatCounts r counts).Keeps source := by
  intro l n hl hn
  cases counts with
  | none =>
      rw [apply_repeatCounts_none] at hn
      cases hn
      exact hl.fail
  | some counts =>
      rw [apply_repeatCounts_some] at hn
      split at hn
      · cases hn
        exact hl
      · obtain ⟨done, hdone, hn⟩ := bind_eq_ok.mp hn
        split at hn
        · cases hn
          exact h.iterate hl hdone
        · cases hn
          exact hl.fail

theorem Made.keeps (h : r.Made) (source : Source) : r.Keeps source := by
  induction h with
  | of happly => exact fun l m hl hm => happly hl hm
  | sequence _ _ iha ihb => exact iha.sequence ihb
  | choice _ _ iha ihb => exact iha.choice ihb
  | seq _ ih => exact .seq ih
  | oneOf _ ih => exact .oneOf ih
  | option _ ih => exact ih.option
  | not _ _ => exact .not
  | repeated low high _ ih => exact ih.repeatCounts _
  | named name _ ih => exact ih

end Rule

namespace Lexer

variable {source : Source} {l m : Lexer K}

/-- One more token, of this span and kind, and a window from its end on. -/
structure Appends (source : Source) (l : Lexer K) (span : Span) (kind : K) (m : Lexer K) :
    Prop where
  tokens : m.tokens = l.tokens ++ [⟨span, kind⟩]
  window : m.remaining.span = ⟨span.stop, source.size⟩
  state : m.state = if span.stop = source.size then .done else .matching

/-- The text of the span is not empty, it is what is read between the two lexers, and the window of
the second one starts between two characters. -/
structure ReadsWhole (source : Source) (l : Lexer K) (span : Span) (m : Lexer K) : Prop where
  nonempty : source.slice span ≠ []
  consumed : Text.between? source.text ⟨l.position, m.position⟩ = some (source.slice span)
  boundary : Text.isBoundary source.text m.position = true

theorem Consistent.appends_taken (h : l.Consistent source) {span : Span} {kind : K}
    (hfits : l.Fits source span) : l.Appends source span kind (l.taken span kind) := by
  have hnext : (l.taken span kind).Consistent source := h.taken hfits
  have hposition : (l.taken span kind).position = span.stop := h.position_taken hfits
  have hwindow : (l.taken span kind).remaining.span = ⟨span.stop, source.size⟩ := by
    rw [← hnext.stop, ← hposition]
    rfl
  refine ⟨tokens_taken, hwindow, ?_⟩
  have hempty : (l.taken span kind).remaining.isEmpty = decide (span.stop = source.size) := by
    rw [Window.isEmpty, hwindow, Span.isEmpty, Bool.eq_iff_iff]
    simp
  change (if (l.taken span kind).remaining.isEmpty then State.done else State.matching) = _
  simp [hempty]

theorem Appends.position_eq {span : Span} {kind : K} (h : l.Appends source span kind m) :
    m.position = span.stop := by
  rw [position, Window.start, h.window]

/-- A span that fits is read as a whole exactly if it ends between two characters. -/
theorem Appends.readsWhole_iff {span : Span} {kind : K} (h : l.Appends source span kind m)
    (hfits : l.Fits source span) (hstart : Text.isBoundary source.text l.position = true) :
    l.ReadsWhole source span m ↔ Text.isBoundary source.text span.stop = true := by
  constructor
  · intro hreads
    exact h.position_eq ▸ hreads.boundary
  · intro hstop
    have hfirst : Text.isBoundary source.text span.start = true := hfits.start_eq ▸ hstart
    obtain ⟨htext, hne⟩ :=
      text_of_boundary (t := (⟨span, kind⟩ : Token K)) hfirst hstop hfits.start_lt
    refine ⟨hne, ?_, h.position_eq ▸ hstop⟩
    rw [h.position_eq, ← hfits.start_eq]
    exact htext

/-- A step with any matcher, from a window that starts between two characters: without a match the
lexer fails, a span that does not fit is a fault, and one that fits is appended as a token. Then the
step is as it should be if the span ends between two characters, and otherwise the token has no text
and the window starts within a character. So the texts of a run that rules made of any matchers
bring to the end of the source are the source exactly if every token ends between two characters. -/
theorem Obtained.matchSpan_admits (hsize : source.size < wordCount) (h : l.Obtained source)
    (hl : l.failed = false) (hstart : Text.isBoundary source.text l.position = true) :
    (∀ (matcher : Window → Option Span) (kind : K),
      ((∀ span, matcher l.remaining = some span → span.isEmpty = true) ∧
          l.matchSpan matcher kind = .ok l.fail) ∨
        ∃ span, matcher l.remaining = some span ∧ span.isEmpty = false ∧
          (¬l.Fits source span ∧ l.matchSpan matcher kind = .error
              (if span.start = l.position ∧ span.stop ≤ source.size then .subOverflow
                else .strayMatch span ⟨l.position, source.size⟩) ∨
            l.Fits source span ∧ ∃ m, l.matchSpan matcher kind = .ok m ∧
              l.Appends source span kind m ∧
              (Text.isBoundary source.text span.stop = true → l.ReadsWhole source span m) ∧
              (Text.isBoundary source.text span.stop = false →
                source.slice span = [] ∧ Text.isBoundary source.text m.position = false))) ∧
      ∀ r : Rule K, r.Made → ∀ m, r.tokenize source = .ok m → m.state = .done →
        (m.tokens.flatMap (·.text source) = source.text ↔
          ∀ t ∈ m.tokens, Text.isBoundary source.text t.span.stop = true) := by
  have hconsistent := h.consistent hsize
  constructor
  · intro matcher kind
    rcases hconsistent.matchSpan_cases hsize hl matcher kind with
      hfail | ⟨span, hspan, hne, ⟨hfits, htaken⟩ | hfault⟩
    · exact .inl hfail
    · have happends : l.Appends source span kind (l.taken span kind) :=
        hconsistent.appends_taken hfits
      refine .inr ⟨span, hspan, hne, .inr ⟨hfits, _, htaken, happends,
        (happends.readsWhole_iff hfits hstart).mpr, fun hstop => ⟨?_, ?_⟩⟩⟩
      · exact text_of_not_boundary (t := (⟨span, kind⟩ : Token K)) hstop
      · rwa [happends.position_eq]
    · exact .inr ⟨span, hspan, hne, .inl hfault⟩
  · intro r hmade m hm hdone
    exact ((hmade.keeps source _ _ .start hm).consistent hsize).texts_eq_iff hdone

/-- A matcher that takes the two bytes of the accented letter, and then one that takes the rest. -/
theorem Obtained.matchSpan_admits_letters :
    ∃ l m : Lexer Nat, l.Obtained (Source.exactly ['é', 'b']) ∧ l.failed = false ∧
      Text.isBoundary ['é', 'b'] l.position = true ∧
      l.matchSpan (fun w => some w.span) 8 = .ok m ∧
      l.ReadsWhole (Source.exactly ['é', 'b']) ⟨2, 3⟩ m ∧
      ∃ r : Rule Nat, r.Made ∧ r.tokenize (Source.exactly ['é', 'b']) = .ok m ∧
        m.state = .done ∧ m.tokens.flatMap (·.text (Source.exactly ['é', 'b'])) = ['é', 'b'] := by
  have hread : Obtained (Source.exactly ['é', 'b']) _ :=
    .matchSpan (fun _ => some ⟨0, 2⟩) 7 .start rfl
  obtain ⟨hsteps, hruns⟩ := hread.matchSpan_admits (by decide) (by decide) (by decide)
  rcases hsteps (fun w => some w.span) 8 with
    ⟨hnone, -⟩ | ⟨span, hspan, -, ⟨hnot, -⟩ | ⟨-, m, hm, -, hwhole, -⟩⟩
  · exact absurd (hnone _ rfl) (by decide)
  · obtain rfl : ⟨2, 3⟩ = span := Option.some.inj hspan
    exact absurd ⟨rfl, by decide, by decide⟩ hnot
  · obtain rfl : ⟨2, 3⟩ = span := Option.some.inj hspan
    have hmade : (Rule.sequence (Rule.of fun l => l.matchSpan (fun _ => some ⟨0, 2⟩) 7)
        (Rule.of fun l => l.matchSpan (fun w => some w.span) 8)).Made :=
      .sequence (.matchSpan _ _) (.matchSpan _ _)
    cases hm
    exact ⟨_, _, hread, by decide, by decide, rfl, hwhole (by decide), _, hmade, rfl, by decide,
      (hruns _ hmade _ rfl (by decide)).mpr (by decide)⟩

/-- Half of a letter becomes a token without a text, and a run by such halves ends without the text
of the letter. -/
theorem matchSpan_splits_letter :
    (∃ m : Lexer Nat, (Lexer.start (Source.exactly ['é'])).matchSpan (fun _ => some ⟨0, 1⟩) 7 =
        .ok m ∧ m.tokens = [⟨⟨0, 1⟩, 7⟩] ∧
        m.tokens.map (·.text (Source.exactly ['é'])) = [[]] ∧
        Text.isBoundary ['é'] m.position = false) ∧
      ∃ (r : Rule Nat) (m : Lexer Nat), r.Made ∧ r.tokenize (Source.exactly ['é']) = .ok m ∧
        m.state = .done ∧ m.tokens.flatMap (·.text (Source.exactly ['é'])) ≠ ['é'] :=
  ⟨⟨_, rfl, by decide, by decide, by decide⟩,
    _, _, .sequence (.matchSpan (fun _ => some ⟨0, 1⟩) 7) (.matchSpan (fun _ => some ⟨1, 2⟩) 7),
    rfl, by decide, by decide⟩

end Lexer

end RuleLexer
