import RuleLexer.Proofs.Lexer.Failure

/-!
# Reachable lexers

A lexer is reachable if built rules, in any order and any number, and
failures lead to it from the start of its source. The start of the source,
read as some pieces, is all that a reachable lexer is, whether or not it
has failed after that. So its tokens tile the text that it has read.
-/

namespace RuleLexer

variable {K : Type}

namespace Lexer

inductive Reachable (source : Source) : Lexer K → Prop
  | start : Reachable source (Lexer.start source)
  | apply {l m : Lexer K} {r : Rule K} :
      Reachable source l → r.Built → r.apply l = .ok m → Reachable source m
  | fail {l : Lexer K} : Reachable source l → Reachable source l.fail

/-- The tokens lie one behind the other from `first` to `last`, none of them is empty, and all
their bounds are between characters. -/
def Tiles (source : Source) : Nat → List (Token K) → Nat → Prop
  | first, [], last => first = last
  | first, t :: ts, last =>
      t.span.start = first ∧ t.span.start < t.span.stop ∧
        Text.isBoundary source.text t.span.start = true ∧
        Text.isBoundary source.text t.span.stop = true ∧ Tiles source t.span.stop ts last

/-- What holds of every reachable lexer. -/
structure Sound (source : Source) (l : Lexer K) : Prop where
  source_eq : l.source = source
  window_stop : l.remaining.span.stop = source.size
  window_start : Text.isBoundary source.text l.remaining.span.start = true
  tiles : Tiles source 0 l.tokens l.position
  tokenCount_eq : l.tokenCount = l.tokens.length
  texts_eq : Text.takeBytes? source.text l.position =
    some (l.tokens.flatMap fun t => t.text source)
  isDone_iff : l.state ≠ .noMatch → (l.state = .done ↔ l.remaining.isEmpty = true)

theorem tiles_tokensFrom {source : Source} {front rest : Text} {ps : List (Piece K)}
    (h : source.text = front ++ (Piece.join ps ++ rest)) :
    Tiles source (Text.byteSize front) (Piece.tokensFrom (Text.byteSize front) ps)
      (Text.byteSize front + Text.byteSize (Piece.join ps)) := by
  induction ps generalizing front with
  | nil => rfl
  | cons p ps ih =>
      have hnext : source.text = (front ++ p.text) ++ (Piece.join ps ++ rest) := by simp [h]
      have hpos := p.size_pos
      have hrec := ih hnext
      rw [Text.byteSize_append] at hrec
      refine ⟨rfl, by simp [hpos], ?_, ?_, ?_⟩
      · exact Text.isBoundary_iff.mpr ⟨front, _, h, rfl⟩
      · exact Text.isBoundary_iff.mpr ⟨front ++ p.text, _, hnext, by simp [Piece.size]⟩
      · simpa [Piece.size, Nat.add_assoc] using hrec

theorem texts_tokensFrom {source : Source} {front rest : Text} {ps : List (Piece K)}
    (h : source.text = front ++ (Piece.join ps ++ rest)) :
    (Piece.tokensFrom (Text.byteSize front) ps).flatMap (fun t => t.text source) =
      Piece.join ps := by
  rw [List.flatMap_def, Piece.map_text_tokensFrom h, Piece.join, List.flatMap_def]

variable {source : Source} {l m : Lexer K}

/-- The lexer that is reached from the start by reading pieces is sound. -/
theorem sound_readAll (hsize : source.size < wordCount) {ps : List (Piece K)} {rest : Text}
    (h : source.text = Piece.join ps ++ rest) :
    ((start source : Lexer K).readAll ps).Sound source := by
  have hstart : (start source : Lexer K).At (Piece.join ps ++ rest) := h ▸ at_start hsize
  have hrest := hstart.readAll
  have hsplit : source.text = [] ++ (Piece.join ps ++ rest) := h
  have hsource : ((start source : Lexer K).readAll ps).source = source := source_readAll _ _
  have hposition : ((start source : Lexer K).readAll ps).position =
      Text.byteSize (Piece.join ps) := by
    rw [hstart.position_readAll]
    exact Nat.zero_add _
  have htokens : ((start source : Lexer K).readAll ps).tokens = Piece.tokensFrom 0 ps := by
    rw [hstart.tokens_readAll]
    rfl
  refine ⟨hsource, ?_, ?_, ?_, ?_, ?_, ?_⟩
  · rw [hrest.stop, hsource]
  · rw [hrest.span_eq, hposition]
    exact Text.isBoundary_iff.mpr ⟨_, rest, h, rfl⟩
  · rw [htokens, hposition]
    simpa using tiles_tokensFrom hsplit
  · exact (TokenStack.length_toList _).symm
  · rw [htokens, hposition]
    have htexts := texts_tokensFrom hsplit
    rw [Text.byteSize_nil] at htexts
    rw [htexts]
    exact Text.takeBytes?_eq_some.mpr ⟨⟨rest, h⟩, rfl⟩
  · intro _
    have hempty : ((start source : Lexer K).readAll ps).remaining.isEmpty = true ↔ rest = [] := by
      rw [Window.isEmpty, hrest.span_eq, Span.isEmpty, hrest.size_eq]
      simp only [beq_iff_eq, ← Text.byteSize_eq_zero]
      omega
    rw [hrest.state, hempty]
    split <;> simp_all

theorem Sound.fail (h : l.Sound source) : l.fail.Sound source where
  source_eq := h.source_eq
  window_stop := h.window_stop
  window_start := h.window_start
  tiles := h.tiles
  tokenCount_eq := h.tokenCount_eq
  texts_eq := h.texts_eq
  isDone_iff := fun hstate => absurd rfl hstate

/-- Up to its state, a reachable lexer is the start of its source, read as pieces. -/
theorem Reachable.exists_pieces (hsize : source.size < wordCount) (h : Reachable source l) :
    ∃ ps rest, source.text = Piece.join ps ++ rest ∧
      (l = (Lexer.start source).readAll ps ∨ l = ((Lexer.start source).readAll ps).fail) := by
  induction h with
  | start => exact ⟨[], source.text, rfl, .inl rfl⟩
  | @apply l m r _ hbuilt hm ih =>
      obtain ⟨ps, rest, htext, rfl | rfl⟩ := ih
      · have hrest : ((Lexer.start source).readAll ps).At rest :=
          At.readAll (htext ▸ at_start hsize)
        obtain ⟨f, hf⟩ := hbuilt.exists_readsAs
        rw [hf.apply_eq hrest] at hm
        cases hm
        cases hread : f rest with
        | none => exact ⟨ps, rest, htext, .inr rfl⟩
        | some found =>
            obtain ⟨qs, last⟩ := found
            refine ⟨ps ++ qs, last, ?_, .inl (readAll_append _ _ _).symm⟩
            rw [htext, hf.split hread]
            simp
      · rw [hbuilt.apply_of_failed rfl] at hm
        cases hm
        exact ⟨ps, rest, htext, .inr rfl⟩
  | fail _ ih =>
      obtain ⟨ps, rest, htext, rfl | rfl⟩ := ih
      · exact ⟨ps, rest, htext, .inr rfl⟩
      · exact ⟨ps, rest, htext, .inr rfl⟩

theorem Reachable.sound (hsize : source.size < wordCount) (h : Reachable source l) :
    l.Sound source := by
  obtain ⟨ps, rest, htext, rfl | rfl⟩ := h.exists_pieces hsize
  · exact sound_readAll hsize htext
  · exact (sound_readAll hsize htext).fail

/-- A reachable lexer that has not failed is at the rest of its source. -/
theorem Reachable.exists_at (hsize : source.size < wordCount) (h : Reachable source l)
    (hl : l.failed = false) : ∃ rest, l.At rest := by
  obtain ⟨ps, rest, htext, rfl | rfl⟩ := h.exists_pieces hsize
  · exact ⟨rest, At.readAll (htext ▸ at_start hsize)⟩
  · simp at hl

/-- A built rule has a result on every reachable lexer. One that does not fail keeps the tokens and
does not go back, and without a step forward it changes nothing. -/
theorem Reachable.exists_apply (hsize : source.size < wordCount) (h : Reachable source l)
    {r : Rule K} (hbuilt : r.Built) :
    ∃ m, r.apply l = .ok m ∧ (m.state ≠ .noMatch →
      l.tokens <+: m.tokens ∧ l.position ≤ m.position ∧ (m.position = l.position → m = l)) := by
  cases hl : l.failed with
  | true => exact ⟨l, hbuilt.apply_of_failed hl, fun _ => ⟨List.prefix_rfl, Nat.le_refl _,
      fun _ => rfl⟩⟩
  | false =>
      obtain ⟨text, hat⟩ := h.exists_at hsize hl
      obtain ⟨f, hf⟩ := hbuilt.exists_readsAs
      refine ⟨_, hf.apply_eq hat, ?_⟩
      cases hread : f text with
      | none => intro hstate; exact absurd rfl hstate
      | some found =>
          obtain ⟨ps, rest⟩ := found
          intro _
          have hat' : l.At (Piece.join ps ++ rest) := hf.split hread ▸ hat
          rw [after_some, hat'.position_readAll, hat'.tokens_readAll]
          refine ⟨List.prefix_append _ _, Nat.le_add_right _ _, ?_⟩
          intro hstill
          have hjoin : Piece.join ps = [] := Text.byteSize_eq_zero.mp (by omega)
          rw [Piece.join_eq_nil.mp hjoin, readAll_nil]

/-- The invariant of reachable lexers, and what one more rule does to them. -/
theorem Reachable.sound_and_advances (hsize : source.size < wordCount) (h : Reachable source l) :
    l.Sound source ∧ ∀ r : Rule K, r.Built → ∃ m, r.apply l = .ok m ∧ (m.state ≠ .noMatch →
      l.tokens <+: m.tokens ∧ l.position ≤ m.position ∧ (m.position = l.position → m = l)) :=
  ⟨h.sound hsize, fun _ hbuilt => h.exists_apply hsize hbuilt⟩

/-- Tokens of more than one byte, and a failure that is not the end. -/
theorem Reachable.sound_and_advances_accents :
    ∃ l : Lexer Nat, l.Reachable (Source.exactly ['é', 'é', 'b']) ∧
      l.tokens = [⟨⟨0, 4⟩, 7⟩] ∧ l.state = .noMatch ∧ l.Sound (Source.exactly ['é', 'é', 'b']) := by
  have hread : Reachable (Source.exactly ['é', 'é', 'b']) _ :=
    .apply .start (.run (· == 'é') 7) rfl
  have hfail := hread.fail
  exact ⟨_, hfail, rfl, rfl, (hfail.sound_and_advances (by decide)).1⟩

end Lexer

end RuleLexer
