import RuleLexer.Proofs.Lexer.Apply
import RuleLexer.Proofs.Lexer.Reading
import RuleLexer.Proofs.Text.Lines
import Mathlib.Data.List.Forall2

/-!
# Rules as readers of a text

A reader looks at a text and answers with the pieces it reads and with
what is left. A rule reads as a reader if its result on every lexer at a
text is the lexer after the pieces, or the lexer itself, failed. There is
one reader for each way to build a rule.
-/

namespace RuleLexer

variable {K : Type}

abbrev Reader (K : Type) := Text → Option (List (Piece K) × Text)

/-- The lexer behind what a reader has read. -/
def Lexer.after (l : Lexer K) : Option (List (Piece K) × Text) → Lexer K
  | none => l.fail
  | some (ps, _) => l.readAll ps

@[simp] theorem Lexer.after_none (l : Lexer K) : l.after none = l.fail := rfl

@[simp] theorem Lexer.after_some (l : Lexer K) (ps : List (Piece K)) (rest : Text) :
    l.after (some (ps, rest)) = l.readAll ps := rfl

structure Rule.ReadsAs (r : Rule K) (f : Reader K) : Prop where
  split : ∀ {text ps rest}, f text = some (ps, rest) → text = Piece.join ps ++ rest
  apply_eq : ∀ {l : Lexer K} {text}, l.At text → r.apply l = .ok (l.after (f text))

namespace Reader

def nothing : Reader K := fun text => some ([], text)

def never : Reader K := fun _ => none

/-- The start of the text that `front` chooses, unless it is empty. -/
def token (front : Text → Text) (kind : K) : Reader K := fun text =>
  if h : front text ≠ [] then some ([⟨front text, kind, h⟩], text.drop (front text).length)
  else none

def atEnd : Reader K := fun text => if text = [] then some ([], text) else none

def andThen (f g : Reader K) : Reader K := fun text =>
  match f text with
  | none => none
  | some (ps, middle) => (g middle).map fun (qs, rest) => (ps ++ qs, rest)

def orElse (f g : Reader K) : Reader K := fun text =>
  match f text with
  | none => g text
  | some found => some found

def seq (fs : List (Reader K)) : Reader K := fs.foldr andThen nothing

@[simp] theorem seq_nil : seq ([] : List (Reader K)) = nothing := rfl

theorem seq_cons (f : Reader K) (fs : List (Reader K)) : seq (f :: fs) = f.andThen (seq fs) := rfl

def oneOf (fs : List (Reader K)) : Reader K := fs.foldr orElse never

@[simp] theorem oneOf_nil : oneOf ([] : List (Reader K)) = never := rfl

theorem oneOf_cons (f : Reader K) (fs : List (Reader K)) :
    oneOf (f :: fs) = f.orElse (oneOf fs) := rfl

def option (f : Reader K) : Reader K := orElse f nothing

def absent (f : Reader K) : Reader K := fun text =>
  match f text with
  | none => some ([], text)
  | some _ => none

theorem token_eq_some {front : Text → Text} {kind : K} {text rest : Text} {ps : List (Piece K)}
    (hfront : front text <+: text) :
    token front kind text = some (ps, rest) ↔
      ∃ h : front text ≠ [], ps = [⟨front text, kind, h⟩] ∧ text = front text ++ rest := by
  obtain ⟨tail, htail⟩ := hfront
  have hdrop : text.drop (front text).length = tail := by
    have h := congrArg (List.drop (front text).length) htail
    simpa using h.symm
  unfold token
  rw [hdrop]
  constructor
  · intro h
    split at h
    · rename_i hne
      simp only [Option.some.injEq, Prod.mk.injEq] at h
      exact ⟨hne, h.1.symm, by rw [← h.2, htail]⟩
    · simp at h
  · rintro ⟨hne, rfl, hrest⟩
    have hcancel : tail = rest := List.append_cancel_left (htail.trans hrest)
    rw [dif_pos hne, hcancel]

theorem token_eq_none {front : Text → Text} {kind : K} {text : Text} :
    token front kind text = none ↔ front text = [] := by
  unfold token
  split <;> simp_all

theorem andThen_of_none {f : Reader K} {text : Text} (hf : f text = none) (g : Reader K) :
    andThen f g text = none := by
  simp [andThen, hf]

theorem andThen_of_some {f : Reader K} {text middle : Text} {ps : List (Piece K)}
    (hf : f text = some (ps, middle)) (g : Reader K) :
    andThen f g text = (g middle).map fun (qs, rest) => (ps ++ qs, rest) := by
  simp [andThen, hf]

theorem andThen_eq_some {f g : Reader K} {text rest : Text} {ps : List (Piece K)} :
    andThen f g text = some (ps, rest) ↔
      ∃ qs middle rs, f text = some (qs, middle) ∧ g middle = some (rs, rest) ∧ ps = qs ++ rs := by
  unfold andThen
  constructor
  · intro h
    split at h
    · simp at h
    · rename_i qs middle hf
      obtain ⟨⟨rs, last⟩, hg, heq⟩ := Option.map_eq_some_iff.mp h
      simp only [Prod.mk.injEq] at heq
      obtain ⟨rfl, rfl⟩ := heq
      exact ⟨qs, middle, rs, hf, hg, rfl⟩
  · rintro ⟨qs, middle, rs, hf, hg, rfl⟩
    simp [hf, hg]

theorem orElse_eq_some {f g : Reader K} {text : Text} {found : List (Piece K) × Text} :
    orElse f g text = some found ↔ f text = some found ∨ f text = none ∧ g text = some found := by
  unfold orElse
  split <;> simp_all

section Compound

variable {f : Reader K} {fs : List (Reader K)} {text middle rest : Text} {qs rs : List (Piece K)}

theorem seq_cons_of_some (hf : f text = some (qs, middle)) (hfs : seq fs middle = some (rs, rest)) :
    seq (f :: fs) text = some (qs ++ rs, rest) :=
  andThen_eq_some.mpr ⟨qs, middle, rs, hf, hfs, rfl⟩

theorem seq_nil_eq (text : Text) : seq ([] : List (Reader K)) text = some ([], text) := rfl

theorem seq_cons_eq_some {ps : List (Piece K)} :
    seq (f :: fs) text = some (ps, rest) ↔
      ∃ qs middle rs, f text = some (qs, middle) ∧ seq fs middle = some (rs, rest) ∧
        ps = qs ++ rs :=
  andThen_eq_some

theorem option_of_some (hf : f text = some (qs, rest)) : f.option text = some (qs, rest) :=
  orElse_eq_some.mpr (.inl hf)

theorem option_of_none (hf : f text = none) : f.option text = some ([], text) :=
  orElse_eq_some.mpr (.inr ⟨hf, rfl⟩)

theorem token_append {front : Text → Text} {w : Text} (kind : K) (hstart : front (w ++ rest) = w)
    (hne : w ≠ []) : token front kind (w ++ rest) = some ([⟨w, kind, hne⟩], rest) := by
  have h : token front kind (w ++ rest) = some ([⟨front (w ++ rest), kind, hstart.symm ▸ hne⟩],
      rest) :=
    (token_eq_some (hstart.symm ▸ List.prefix_append w rest)).mpr
      ⟨hstart.symm ▸ hne, rfl, by rw [hstart]⟩
  rw [h]
  simp only [hstart]

theorem option_token_append {front : Text → Text} {w : Text} (kind : K)
    (hstart : front (w ++ rest) = w) :
    (token front kind).option (w ++ rest) = some (Piece.ofText w kind, rest) := by
  by_cases hne : w = []
  · subst hne
    exact option_of_none (token_eq_none.mpr hstart)
  · rw [Piece.ofText_of_ne_nil hne]
    exact option_of_some (token_append kind hstart hne)

end Compound

end Reader

/-- A matcher finds the start of the text that `front` chooses, unless it is empty. -/
structure Window.Finds (matcher : Window → Option Span) (front : Text → Text) : Prop where
  isPrefix : ∀ text, front text <+: text
  eq_none : ∀ w : Window, front w.text = [] → matcher w = none
  eq_some : ∀ w : Window, front w.text ≠ [] →
    matcher w = some ⟨w.span.start, w.span.start + Text.byteSize (front w.text)⟩

namespace Rule

variable {a b r : Rule K} {f g : Reader K}

theorem ReadsAs.matchSpan {matcher : Window → Option Span} {front : Text → Text}
    (h : Window.Finds matcher front) (kind : K) :
    (of fun l => l.matchSpan matcher kind).ReadsAs (Reader.token front kind) where
  split := by
    intro text ps rest hread
    obtain ⟨hne, rfl, htext⟩ := (Reader.token_eq_some (h.isPrefix text)).mp hread
    simpa using htext
  apply_eq := by
    intro l text hl
    have htext := hl.text_eq
    by_cases hempty : front text = []
    · have hnone := h.eq_none l.remaining (by rwa [htext])
      rw [Reader.token_eq_none.mpr hempty]
      exact hl.matchSpan_none hnone kind
    · obtain ⟨rest, hrest⟩ := h.isPrefix text
      let p : Piece K := ⟨front text, kind, hempty⟩
      have hl' : l.At (p.text ++ rest) := hrest ▸ hl
      have hsome := h.eq_some l.remaining (by rwa [htext])
      rw [htext] at hsome
      have hread : Reader.token front kind text = some ([p], rest) :=
        (Reader.token_eq_some (h.isPrefix text)).mpr ⟨hempty, rfl, hrest.symm⟩
      rw [hread]
      exact hl'.matchSpan_some hsome

theorem ReadsAs.nothing : (of fun l => .ok l : Rule K).ReadsAs Reader.nothing where
  split := by
    intro text ps rest h
    simp only [Reader.nothing, Option.some.injEq, Prod.mk.injEq] at h
    simp [← h.1, h.2]
  apply_eq := fun _ => rfl

theorem ReadsAs.eof : (eof : Rule K).ReadsAs Reader.atEnd where
  split := by
    intro text ps rest h
    simp only [Reader.atEnd, Option.ite_none_right_eq_some, Option.some.injEq,
      Prod.mk.injEq] at h
    simp [← h.2.1, h.2.2]
  apply_eq := by
    intro l text hl
    rw [apply_eof, hl.isDone_eq]
    cases text <;> rfl

/-- The result of a rule that has read pieces is a lexer at the rest. -/
theorem ReadsAs.at_rest (ha : a.ReadsAs f) {l : Lexer K} {text rest : Text} {ps : List (Piece K)}
    (hl : l.At text) (hf : f text = some (ps, rest)) : (l.readAll ps).At rest := by
  rw [ha.split hf] at hl
  exact hl.readAll

theorem ReadsAs.sequence (ha : a.ReadsAs f) (hb : b.ReadsAs g) :
    (Rule.sequence a b).ReadsAs (f.andThen g) where
  split := by
    intro text ps rest h
    obtain ⟨qs, middle, rs, hf, hg, rfl⟩ := Reader.andThen_eq_some.mp h
    rw [ha.split hf, hb.split hg]
    simp
  apply_eq := by
    intro l text hl
    rw [apply_sequence, ha.apply_eq hl, bind_ok]
    cases hf : f text with
    | none => rw [Reader.andThen_of_none hf]; rfl
    | some found =>
        obtain ⟨qs, middle⟩ := found
        have hmiddle := ha.at_rest hl hf
        rw [Reader.andThen_of_some hf, Lexer.after_some, hmiddle.not_failed,
          hb.apply_eq hmiddle, bind_ok]
        cases hg : g middle with
        | none => rfl
        | some found =>
            have hrest := hb.at_rest hmiddle hg
            simp [Lexer.after, hrest.not_failed, Lexer.readAll_append]

theorem ReadsAs.choice (ha : a.ReadsAs f) (hb : b.ReadsAs g) :
    (Rule.choice a b).ReadsAs (f.orElse g) where
  split := by
    intro text ps rest h
    rcases Reader.orElse_eq_some.mp h with hf | ⟨-, hg⟩
    · exact ha.split hf
    · exact hb.split hg
  apply_eq := by
    intro l text hl
    rw [apply_choice, ha.apply_eq hl, bind_ok, Reader.orElse]
    cases hf : f text with
    | none => exact hb.apply_eq hl
    | some found => simp [Lexer.after, (ha.at_rest hl hf).not_failed]

theorem ReadsAs.option (ha : a.ReadsAs f) : (Rule.option a).ReadsAs f.option :=
  have h := ha.choice (ReadsAs.nothing (K := K))
  ⟨h.split, h.apply_eq⟩

theorem ReadsAs.not (ha : a.ReadsAs f) : (Rule.not a).ReadsAs f.absent where
  split := by
    intro text ps rest h
    unfold Reader.absent at h
    split at h
    · simp only [Option.some.injEq, Prod.mk.injEq] at h
      simp [← h.1, h.2]
    · simp at h
  apply_eq := by
    intro l text hl
    rw [apply_not, hl.not_failed, ha.apply_eq hl, bind_ok, Reader.absent]
    cases hf : f text with
    | none => rfl
    | some found => simp [Lexer.after, (ha.at_rest hl hf).not_failed]

theorem ReadsAs.named (ha : a.ReadsAs f) (name : Text) : (Rule.named name a).ReadsAs f :=
  ⟨ha.split, ha.apply_eq⟩

theorem ReadsAs.oneOf {rs : List (Rule K)} {fs : List (Reader K)} (h : List.Forall₂ ReadsAs rs fs) :
    (Rule.oneOf rs).ReadsAs (Reader.oneOf fs) := by
  induction h with
  | nil => exact ⟨by simp [Reader.oneOf, Reader.never], fun _ => rfl⟩
  | cons hr _ ih =>
      have hchoice := hr.choice ih
      exact ⟨hchoice.split, hchoice.apply_eq⟩

/-- The lexer to which a failing list of rules returns is the one at which the whole list began. -/
theorem applyAll_eq {rs : List (Rule K)} {fs : List (Reader K)} (h : List.Forall₂ ReadsAs rs fs)
    (origin : Lexer K) {l : Lexer K} {text : Text} (hl : l.At text) :
    applyAll origin rs l =
      .ok ((Reader.seq fs text).elim origin.fail fun found => l.readAll found.1) := by
  induction h generalizing l text with
  | nil => rfl
  | @cons r f rs fs hr _ ih =>
      rw [applyAll_cons, hr.apply_eq hl, bind_ok, Reader.seq_cons]
      cases hf : f text with
      | none => rw [Reader.andThen_of_none hf]; rfl
      | some found =>
          obtain ⟨ps, rest⟩ := found
          have hrest := hr.at_rest hl hf
          rw [Reader.andThen_of_some hf, Lexer.after_some, hrest.not_failed]
          simp only [Bool.false_eq_true, if_false, ih hrest]
          cases Reader.seq fs rest with
          | none => rfl
          | some found => simp [Lexer.readAll_append]

theorem ReadsAs.seq {rs : List (Rule K)} {fs : List (Reader K)} (h : List.Forall₂ ReadsAs rs fs) :
    (Rule.seq rs).ReadsAs (Reader.seq fs) where
  split := by
    induction h with
    | nil => exact ReadsAs.nothing.split
    | cons hr _ ih =>
        intro text ps rest hread
        obtain ⟨qs, middle, rs, hf, hg, rfl⟩ := Reader.andThen_eq_some.mp hread
        rw [hr.split hf, ih hg]
        simp
  apply_eq := by
    intro l text hl
    have hall : (Rule.seq rs).apply l = _ := applyAll_eq h l hl
    rw [hall]
    cases Reader.seq fs text with
    | none => rfl
    | some found => rfl

end Rule

end RuleLexer
