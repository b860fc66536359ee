import RuleLexer.Proofs.Lexer.Apply
import RuleLexer.Proofs.Text.Slice

/-!
# Steps with any matcher

A matcher may answer with any span. A span that is not at the start of the
window, reaches past its end or is inverted is a fault, and an empty one is
no match. Whatever else a matcher finds becomes a token, and the tokens lie
one behind the other. Nothing asks whether a token ends between two
characters. One that does not has an empty text, so the texts of tokens that
lie along all of the source are the source exactly if no token ends so.
-/

namespace RuleLexer

variable {K : Type}

namespace Lexer

/-- Lexers over the source that come from its start by matchers, whatever these answer, and by
failures. -/
inductive Obtained (source : Source) : Lexer K → Prop
  | start : Obtained source (Lexer.start source)
  | matchSpan {l m : Lexer K} (matcher : Window → Option Span) (kind : K) :
      Obtained source l → l.matchSpan matcher kind = .ok m → Obtained source m
  | fail {l : Lexer K} : Obtained source l → Obtained source l.fail

/-- The tokens lie one behind the other from `first` to `last`, and none of them is empty. -/
def Adjoins : Nat → List (Token K) → Nat → Prop
  | first, [], last => first = last
  | first, t :: ts, last =>
      t.span.start = first ∧ t.span.start < t.span.stop ∧ Adjoins t.span.stop ts last

theorem Adjoins.append {first middle last : Nat} {ts us : List (Token K)}
    (h : Adjoins first ts middle) (h' : Adjoins middle us last) : Adjoins first (ts ++ us) last := by
  induction ts generalizing first with
  | nil =>
      obtain rfl : first = middle := h
      exact h'
  | cons t ts ih =>
      obtain ⟨hstart, hpos, hrest⟩ := h
      exact ⟨hstart, hpos, ih hrest⟩

/-- What any matchers leave of a lexer over the source. -/
structure Consistent (source : Source) (l : Lexer K) : Prop where
  source_eq : l.source = source
  stop : l.remaining.span.stop = source.size
  position_le : l.position ≤ source.size
  adjoins : Adjoins 0 l.tokens l.position
  position_of_done : l.state = .done → l.position = source.size

/-- The lexer after a token of this span. -/
def taken (l : Lexer K) (span : Span) (kind : K) : Lexer K :=
  let remaining := l.remaining.advance (span.stop - span.start)
  ⟨remaining, l.stack.push ⟨span, kind⟩, if remaining.isEmpty then .done else .matching⟩

/-- The span is at the start of what is left of the source, and is neither inverted nor empty. -/
structure Fits (l : Lexer K) (source : Source) (span : Span) : Prop where
  start_eq : span.start = l.position
  start_lt : span.start < span.stop
  stop_le : span.stop ≤ source.size

variable {source : Source} {l m : Lexer K} {span : Span} {kind : K}

@[simp] theorem tokens_taken : (l.taken span kind).tokens = l.tokens ++ [⟨span, kind⟩] :=
  TokenStack.toList_push _ _

namespace Consistent

theorem position_taken (h : l.Consistent source) (hfits : l.Fits source span) :
    (l.taken span kind).position = span.stop := by
  have hstart : span.start = l.remaining.span.start := hfits.start_eq
  have hlt := hfits.start_lt
  have hle := hfits.stop_le
  simp only [taken, position, Window.start, Window.advance_span, h.stop]
  omega

theorem taken (h : l.Consistent source) (hfits : l.Fits source span) :
    (l.taken span kind).Consistent source := by
  have hposition : (l.taken span kind).position = span.stop := h.position_taken hfits
  have hstop : (l.taken span kind).remaining.span.stop = source.size := by
    rw [← h.stop]
    simp [Lexer.taken]
  refine ⟨(Window.advance_source _ _).trans h.source_eq, hstop, hposition ▸ hfits.stop_le, ?_, ?_⟩
  · rw [tokens_taken, hposition]
    exact h.adjoins.append ⟨hfits.start_eq, hfits.start_lt, by rw [Adjoins]⟩
  · intro hdone
    have hempty : (l.taken span kind).remaining.isEmpty = true := by
      refine Decidable.byContradiction fun hne => ?_
      have hstate : (l.taken span kind).state = .matching := if_neg hne
      simp [hdone] at hstate
    rw [← hstop, position, Window.start]
    simpa [Window.isEmpty, Span.isEmpty] using hempty

theorem start (source : Source) : (Lexer.start source : Lexer K).Consistent source where
  source_eq := rfl
  stop := rfl
  position_le := Nat.zero_le _
  adjoins := rfl
  position_of_done := fun hdone => by
    have hempty : source.text = [] := by
      refine Decidable.byContradiction fun hne => ?_
      simp [Lexer.start, Source.isEmpty, hne] at hdone
    simp [Lexer.start, position, Window.start, Window.full, Window.ofSpan, Source.fullSpan,
      Source.size, hempty]

theorem fail (h : l.Consistent source) : l.fail.Consistent source where
  source_eq := h.source_eq
  stop := h.stop
  position_le := h.position_le
  adjoins := h.adjoins
  position_of_done := fun hdone => by simp [Lexer.fail] at hdone

/-- What a lexer makes of a span that is not empty. -/
theorem take_eq (hsize : source.size < wordCount) (h : l.Consistent source) :
    l.take span kind =
      if span.start = l.position ∧ span.stop ≤ source.size then
        if span.start ≤ span.stop then .ok (l.taken span kind) else .error .subOverflow
      else .error (.strayMatch span ⟨l.position, source.size⟩) := by
  have hwindow : l.remaining.span = ⟨l.position, source.size⟩ := by
    rw [← h.stop]
    rfl
  have hinside : (span.start = l.remaining.span.start ∧ l.remaining.span.contains span = true) ↔
      span.start = l.position ∧ span.stop ≤ source.size := by
    rw [hwindow]
    simp only [Span.contains, Bool.and_eq_true, decide_eq_true_eq]
    omega
  by_cases hfits : span.start = l.position ∧ span.stop ≤ source.size
  · rw [take, if_pos (hinside.mpr hfits), if_pos hfits]
    by_cases hle : span.start ≤ span.stop
    · have hstart : l.remaining.span.start = span.start := by rw [hwindow, hfits.1]
      have htrim : l.remaining.trimStart (span.stop - span.start) =
          .ok (l.remaining.advance (span.stop - span.start)) := by
        rw [Window.trimStart, if_pos (by omega)]
      rw [Span.len, if_pos hle, if_pos hle]
      change (l.remaining.trimStart _).bind _ = _
      rw [htrim, bind_ok]
      rfl
    · rw [Span.len, if_neg hle, if_neg hle]
      rfl
  · rw [take, if_neg (mt hinside.mp hfits), if_neg hfits, hwindow]

end Consistent

theorem matchSpan_of_none {matcher : Window → Option Span} (hl : l.failed = false)
    (hnone : ∀ span, matcher l.remaining = some span → span.isEmpty = true) :
    l.matchSpan matcher kind = .ok l.fail := by
  simp only [matchSpan, hl, Bool.false_eq_true, if_false]
  split
  · rename_i span hspan
    rw [if_pos (hnone span hspan)]
  · rfl

theorem matchSpan_of_some {matcher : Window → Option Span} (hl : l.failed = false)
    (hspan : matcher l.remaining = some span) (hne : span.isEmpty = false) :
    l.matchSpan matcher kind = l.take span kind := by
  simp [matchSpan, hl, hspan, hne]

/-- What a step of a lexer that has not failed comes to, for each answer of its matcher: it fails
without a match, it takes a span that fits, and any other span is a fault. -/
theorem Consistent.matchSpan_cases (hsize : source.size < wordCount) (h : l.Consistent source)
    (hl : l.failed = false) (matcher : Window → Option Span) (kind : K) :
    ((∀ span, matcher l.remaining = some span → span.isEmpty = true) ∧
        l.matchSpan matcher kind = .ok l.fail) ∨
      ∃ span, matcher l.remaining = some span ∧ span.isEmpty = false ∧
        (l.Fits source span ∧ l.matchSpan matcher kind = .ok (l.taken span kind) ∨
          ¬l.Fits source span ∧ l.matchSpan matcher kind = .error
            (if span.start = l.position ∧ span.stop ≤ source.size then .subOverflow
              else .strayMatch span ⟨l.position, source.size⟩)) := by
  cases hanswer : matcher l.remaining with
  | none => exact .inl ⟨by simp, matchSpan_of_none hl (by simp [hanswer])⟩
  | some span =>
      cases hempty : span.isEmpty with
      | true => exact .inl ⟨by simp [hempty], matchSpan_of_none hl (by simp [hanswer, hempty])⟩
      | false =>
          refine .inr ⟨span, rfl, hempty, ?_⟩
          have hdiffer : span.start ≠ span.stop := by simpa [Span.isEmpty] using hempty
          rw [matchSpan_of_some hl hanswer hempty, h.take_eq hsize]
          by_cases hwithin : span.start = l.position ∧ span.stop ≤ source.size
          · rw [if_pos hwithin, if_pos hwithin]
            by_cases hle : span.start ≤ span.stop
            · exact .inl ⟨⟨hwithin.1, by omega, hwithin.2⟩, if_pos hle⟩
            · exact .inr ⟨fun hfits => hle (Nat.le_of_lt hfits.start_lt), if_neg hle⟩
          · rw [if_neg hwithin, if_neg hwithin]
            exact .inr ⟨fun hfits => hwithin ⟨hfits.start_eq, hfits.stop_le⟩, rfl⟩

theorem Consistent.matchSpan (hsize : source.size < wordCount) (h : l.Consistent source)
    {matcher : Window → Option Span} (hm : l.matchSpan matcher kind = .ok m) :
    m.Consistent source := by
  cases hl : l.failed with
  | true =>
      rw [Lexer.matchSpan, if_pos hl] at hm
      cases hm
      exact h
  | false =>
      rcases h.matchSpan_cases hsize hl matcher kind with
        ⟨-, hfail⟩ | ⟨span, -, -, ⟨hfits, htaken⟩ | ⟨-, hfault⟩⟩
      · rw [hfail] at hm
        cases hm
        exact h.fail
      · rw [htaken] at hm
        cases hm
        exact h.taken hfits
      · simp [hfault] at hm

theorem Obtained.consistent (hsize : source.size < wordCount) (h : l.Obtained source) :
    l.Consistent source := by
  induction h with
  | start => exact .start source
  | matchSpan matcher kind _ hm ih => exact ih.matchSpan hsize hm
  | fail _ ih => exact ih.fail

/-- A token whose bounds are between characters covers a text that is not empty. -/
theorem text_of_boundary {t : Token K} (hstart : Text.isBoundary source.text t.span.start = true)
    (hstop : Text.isBoundary source.text t.span.stop = true) (hlt : t.span.start < t.span.stop) :
    Text.between? source.text t.span = some (t.text source) ∧ t.text source ≠ [] := by
  obtain ⟨found, hfound⟩ := Text.exists_between? hstart hstop (Nat.le_of_lt hlt)
  have htext : t.text source = found := by
    rw [Token.text, Source.slice]
    exact congrArg (Option.getD · []) hfound
  obtain ⟨_, _, _, _, hsize⟩ := Text.between?_eq_some.mp hfound
  refine ⟨by rw [htext]; exact hfound, fun hempty => ?_⟩
  rw [htext] at hempty
  rw [hempty, Text.byteSize_nil] at hsize
  exact absurd hsize (Nat.ne_of_gt hlt)

theorem text_of_not_boundary {t : Token K}
    (hstop : Text.isBoundary source.text t.span.stop = false) : t.text source = [] := by
  rw [Token.text, Source.slice, Text.between?_of_not_boundary hstop, Option.getD_none]

theorem byteSize_text_le (t : Token K) (source : Source) :
    Text.byteSize (t.text source) ≤ t.span.stop - t.span.start := by
  rw [Token.text, Source.slice]
  cases hfound : Text.between? source.text t.span with
  | none => simp
  | some found =>
      obtain ⟨_, _, _, _, hsize⟩ := Text.between?_eq_some.mp hfound
      rw [Option.getD_some]
      omega

namespace Adjoins

variable {first last : Nat} {ts : List (Token K)}

theorem le (h : Adjoins first ts last) : first ≤ last := by
  induction ts generalizing first with
  | nil => exact Nat.le_of_eq h
  | cons t ts ih =>
      obtain ⟨rfl, hlt, hrest⟩ := h
      have := ih hrest
      omega

theorem byteSize_texts_le (h : Adjoins first ts last) (source : Source) :
    Text.byteSize (ts.flatMap (·.text source)) ≤ last - first := by
  induction ts generalizing first with
  | nil => simp
  | cons t ts ih =>
      obtain ⟨rfl, hlt, hrest⟩ := h
      have htext := byteSize_text_le t source
      have htexts := ih hrest
      have hle := hrest.le
      rw [List.flatMap_cons, Text.byteSize_append]
      omega

/-- Between characters, the texts of the tokens are the text from the first to the last offset. -/
theorem between?_texts (h : Adjoins first ts last)
    (hfirst : Text.isBoundary source.text first = true)
    (hall : ∀ t ∈ ts, Text.isBoundary source.text t.span.stop = true) :
    Text.between? source.text ⟨first, last⟩ = some (ts.flatMap (·.text source)) := by
  induction ts generalizing first with
  | nil =>
      obtain rfl : first = last := h
      obtain ⟨front, rest, htext, rfl⟩ := Text.isBoundary_iff.mp hfirst
      exact Text.between?_eq_some.mpr ⟨front, rest, by simpa using htext, rfl, by simp⟩
  | cons t ts ih =>
      obtain ⟨rfl, hlt, hrest⟩ := h
      rw [List.forall_mem_cons] at hall
      obtain ⟨htext, -⟩ := text_of_boundary hfirst hall.1 hlt
      obtain ⟨before, after, hsplit, hbefore, hstop⟩ := Text.between?_eq_some.mp htext
      obtain ⟨before', after', hsplit', hbefore', hstop'⟩ :=
        Text.between?_eq_some.mp (ih hrest hall.1 hall.2)
      -- Both splits are at the end of the first token.
      have hfront : before' = before ++ t.text source := by
        have hlength : Text.byteSize before' = Text.byteSize (before ++ t.text source) := by
          rw [hbefore', Text.byteSize_append, hbefore, hstop]
        have htake := Text.takeBytes?_eq_some.mpr ⟨⟨_, hsplit'⟩, hlength⟩
        have htake' := Text.takeBytes?_eq_some.mpr
          ⟨⟨after, hsplit.trans (List.append_assoc _ _ _).symm⟩, rfl⟩
        exact Option.some.inj (htake.symm.trans htake')
      refine Text.between?_eq_some.mpr ⟨before, after', ?_, hbefore, ?_⟩
      · rw [hsplit', hfront, List.flatMap_cons]
        simp
      · rw [List.flatMap_cons, Text.byteSize_append, hstop', hstop, Nat.add_assoc]

/-- Only a token that ends between characters has as many bytes as its span. -/
theorem isBoundary_of_byteSize (h : Adjoins first ts last)
    (hsize : last - first ≤ Text.byteSize (ts.flatMap (·.text source))) :
    ∀ t ∈ ts, Text.isBoundary source.text t.span.stop = true := by
  induction ts generalizing first with
  | nil => simp
  | cons t ts ih =>
      obtain ⟨rfl, hlt, hrest⟩ := h
      have htext := byteSize_text_le t source
      have htexts := hrest.byteSize_texts_le source
      have hle := hrest.le
      rw [List.flatMap_cons, Text.byteSize_append] at hsize
      refine List.forall_mem_cons.mpr ⟨?_, ih hrest (by omega)⟩
      cases hstop : Text.isBoundary source.text t.span.stop with
      | true => rfl
      | false =>
          rw [text_of_not_boundary hstop, Text.byteSize_nil] at hsize
          omega

end Adjoins

theorem Consistent.texts_eq_iff (h : l.Consistent source) (hdone : l.state = .done) :
    l.tokens.flatMap (·.text source) = source.text ↔
      ∀ t ∈ l.tokens, Text.isBoundary source.text t.span.stop = true := by
  have hadjoins := h.position_of_done hdone ▸ h.adjoins
  constructor
  · intro htexts
    refine hadjoins.isBoundary_of_byteSize ?_
    rw [htexts]
    exact Nat.le_refl _
  · intro hall
    have hbetween := hadjoins.between?_texts (Text.isBoundary_zero source.text) hall
    have hwhole : Text.between? source.text ⟨0, source.size⟩ = some source.text :=
      Text.between?_eq_some.mpr ⟨[], [], by simp, rfl, by simp [Source.size]⟩
    exact Option.some.inj (hbetween.symm.trans hwhole)

end Lexer

end RuleLexer
