import RuleLexer.Lexer.Grammar
import RuleLexer.Proofs.Lexer.Primitive
import RuleLexer.Proofs.Lexer.Repetition

/-!
# Rules that are built from the library

A built rule is a finite nesting of the primitive rules and of the ways to
combine rules. What holds of built rules is proved by induction over this
nesting. Every built rule reads as some reader.
-/

namespace RuleLexer

variable {K : Type}

inductive Rule.Built : Rule K → Prop
  | text (literal : Text) (kind : K) : Built (Rule.text literal kind)
  | char (c : Char) (kind : K) : Built (Rule.char c kind)
  | run (p : Char → Bool) (kind : K) : Built (Rule.run p kind)
  | pattern (p : Anchored) (kind : K) : Built (Rule.pattern p kind)
  | eof : Built Rule.eof
  | sequence {a b : Rule K} : Built a → Built b → Built (Rule.sequence a b)
  | choice {a b : Rule K} : Built a → Built b → Built (Rule.choice a b)
  | seq {rs : List (Rule K)} : (∀ r ∈ rs, Built r) → Built (Rule.seq rs)
  | oneOf {rs : List (Rule K)} : (∀ r ∈ rs, Built r) → Built (Rule.oneOf rs)
  | option {r : Rule K} : Built r → Built (Rule.option r)
  | not {r : Rule K} : Built r → Built (Rule.not r)
  | repeated {r : Rule K} (low high : Bound) : Built r → Built (Rule.repeated r low high)
  | named {r : Rule K} (name : Text) : Built r → Built (Rule.named name r)

namespace Rule.Built

variable {r : Rule K}

theorem spaces (kind : K) : (Rule.spaces kind).Built := .run _ kind

theorem newline (kind : K) : (Rule.newline kind).Built :=
  .oneOf (by simp [Built.char, Built.text])

theorem eol (kind : K) : (Rule.eol kind).Built :=
  .oneOf (by simp [Built.eof, Built.newline])

theorem literal {text : Text} {kind : K} (h : Rule.literal text kind = .ok r) : r.Built := by
  unfold Rule.literal at h
  split at h
  · simp at h
  · cases h
    exact .text text kind

theorem grammarPattern {g : Grammar K} {p : Text} {kind : K} (h : g.pattern p kind = .ok r) :
    r.Built := by
  unfold Grammar.pattern at h
  split at h
  · cases h
    exact .pattern _ kind
  · simp at h

theorem grammarChar {g : Grammar K} {c : Char} (h : g.char c = .ok r) : r.Built := by
  unfold Grammar.char at h
  cases hkind : g.kinds.char c with
  | error e => simp [hkind, Except.map] at h
  | ok kind =>
      rw [hkind] at h
      cases h
      exact .char c kind

theorem grammarKeyword {g : Grammar K} {word : Text} (h : g.keyword word = .ok r) : r.Built := by
  unfold Grammar.keyword at h
  cases hkind : g.kinds.keyword word with
  | error e =>
      rw [hkind] at h
      cases h
  | ok kind =>
      rw [hkind] at h
      exact literal h

theorem grammarNewline (g : Grammar K) : g.newline.Built := newline _

theorem grammarEol (g : Grammar K) : g.eol.Built := eol _

theorem exists_readers {rs : List (Rule K)} (h : ∀ r ∈ rs, ∃ f, r.ReadsAs f) :
    ∃ fs, List.Forall₂ ReadsAs rs fs := by
  induction rs with
  | nil => exact ⟨[], .nil⟩
  | cons r rs ih =>
      obtain ⟨f, hf⟩ := h r List.mem_cons_self
      obtain ⟨fs, hfs⟩ := ih fun r hr => h r (List.mem_cons_of_mem _ hr)
      exact ⟨f :: fs, .cons hf hfs⟩

/-- The pieces that a built rule reads depend on nothing but the text that is left. -/
theorem exists_readsAs (h : r.Built) : ∃ f, r.ReadsAs f := by
  induction h with
  | text literal kind => exact ⟨_, .text literal kind⟩
  | char c kind => exact ⟨_, .char c kind⟩
  | run p kind => exact ⟨_, .run p kind⟩
  | pattern p kind => exact ⟨_, .pattern p kind⟩
  | eof => exact ⟨_, .eof⟩
  | sequence _ _ iha ihb =>
      obtain ⟨f, hf⟩ := iha
      obtain ⟨g, hg⟩ := ihb
      exact ⟨_, hf.sequence hg⟩
  | choice _ _ iha ihb =>
      obtain ⟨f, hf⟩ := iha
      obtain ⟨g, hg⟩ := ihb
      exact ⟨_, hf.choice hg⟩
  | seq _ ih =>
      obtain ⟨fs, hfs⟩ := exists_readers ih
      exact ⟨_, .seq hfs⟩
  | oneOf _ ih =>
      obtain ⟨fs, hfs⟩ := exists_readers ih
      exact ⟨_, .oneOf hfs⟩
  | option _ ih =>
      obtain ⟨f, hf⟩ := ih
      exact ⟨_, hf.option⟩
  | not _ ih =>
      obtain ⟨f, hf⟩ := ih
      exact ⟨_, hf.not⟩
  | repeated low high _ ih =>
      obtain ⟨f, hf⟩ := ih
      exact ⟨_, hf.repeated low high⟩
  | named name _ ih =>
      obtain ⟨f, hf⟩ := ih
      exact ⟨_, hf.named name⟩

end Rule.Built

end RuleLexer
