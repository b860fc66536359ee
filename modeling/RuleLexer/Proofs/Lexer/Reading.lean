import RuleLexer.Lexer.Basic
import RuleLexer.Proofs.Text.Slice

/-!
# Reading pieces of a text

A lexer at a text has not failed, and the text is what is left of its
source. Such a lexer moves in one way only: it reads pieces, each a text
with a kind, off the text that is left. Where it stands and which tokens
it has then depend on the pieces alone.
-/

namespace RuleLexer

variable {K : Type}

/-- A text that becomes one token. -/
structure Piece (K : Type) where
  text : Text
  kind : K
  nonempty : text ≠ []

namespace Piece

def size (p : Piece K) : Nat := Text.byteSize p.text

theorem size_pos (p : Piece K) : 0 < p.size :=
  Nat.pos_of_ne_zero fun h => p.nonempty (Text.byteSize_eq_zero.mp h)

/-- The text as a piece, unless it is empty. -/
def ofText (text : Text) (kind : K) : List (Piece K) :=
  if h : text ≠ [] then [⟨text, kind, h⟩] else []

def ofChar (c : Char) (kind : K) : Piece K := ⟨[c], kind, List.cons_ne_nil c []⟩

@[simp] theorem text_ofChar (c : Char) (kind : K) : (ofChar c kind).text = [c] := rfl

def join (pieces : List (Piece K)) : Text := pieces.flatMap (·.text)

@[simp] theorem join_nil : join ([] : List (Piece K)) = [] := rfl

@[simp] theorem join_cons (p : Piece K) (ps : List (Piece K)) :
    join (p :: ps) = p.text ++ join ps := rfl

@[simp] theorem join_append (ps qs : List (Piece K)) : join (ps ++ qs) = join ps ++ join qs :=
  List.flatMap_append

@[simp] theorem ofText_nil (kind : K) : ofText [] kind = [] := rfl

theorem ofText_of_ne_nil {text : Text} (h : text ≠ []) (kind : K) :
    ofText text kind = [⟨text, kind, h⟩] := dif_pos h

@[simp] theorem join_ofText (text : Text) (kind : K) : join (ofText text kind) = text := by
  by_cases h : text = []
  · subst h
    rfl
  · simp [ofText_of_ne_nil h]

theorem join_eq_nil {ps : List (Piece K)} : join ps = [] ↔ ps = [] := by
  cases ps with
  | nil => simp
  | cons p ps => simp [p.nonempty]

/-- The tokens of pieces that begin at a byte offset. -/
def tokensFrom (offset : Nat) : List (Piece K) → List (Token K)
  | [] => []
  | p :: ps => ⟨⟨offset, offset + p.size⟩, p.kind⟩ :: tokensFrom (offset + p.size) ps

@[simp] theorem tokensFrom_nil (offset : Nat) : tokensFrom offset ([] : List (Piece K)) = [] := rfl

@[simp] theorem tokensFrom_cons (offset : Nat) (p : Piece K) (ps : List (Piece K)) :
    tokensFrom offset (p :: ps) =
      ⟨⟨offset, offset + p.size⟩, p.kind⟩ :: tokensFrom (offset + p.size) ps := rfl

theorem tokensFrom_append (offset : Nat) (ps qs : List (Piece K)) :
    tokensFrom offset (ps ++ qs) =
      tokensFrom offset ps ++ tokensFrom (offset + Text.byteSize (join ps)) qs := by
  induction ps generalizing offset with
  | nil => simp
  | cons p ps ih => simp [ih, size, Nat.add_assoc]

theorem map_text_tokensFrom {source : Source} {front rest : Text} {ps : List (Piece K)}
    (h : source.text = front ++ (join ps ++ rest)) :
    (tokensFrom (Text.byteSize front) ps).map (·.text source) = ps.map (·.text) := by
  induction ps generalizing front with
  | nil => rfl
  | cons p ps ih =>
      have hnext : source.text = (front ++ p.text) ++ (join ps ++ rest) := by simp [h]
      have htext : source.slice ⟨Text.byteSize front, Text.byteSize front + p.size⟩ = p.text :=
        Source.slice_of_eq_append (by simpa using h)
      have hrec := ih hnext
      rw [Text.byteSize_append] at hrec
      rw [tokensFrom_cons, List.map_cons, List.map_cons]
      exact List.cons_eq_cons.mpr ⟨htext, hrec⟩

end Piece

namespace Lexer

/-- The lexer after a piece at the start of its window. -/
def read (l : Lexer K) (p : Piece K) : Lexer K :=
  let remaining := l.remaining.advance p.size
  ⟨remaining, l.stack.push ⟨⟨l.position, l.position + p.size⟩, p.kind⟩,
    if remaining.isEmpty then .done else .matching⟩

def readAll (l : Lexer K) (ps : List (Piece K)) : Lexer K := ps.foldl read l

@[simp] theorem readAll_nil (l : Lexer K) : l.readAll [] = l := rfl

@[simp] theorem readAll_cons (l : Lexer K) (p : Piece K) (ps : List (Piece K)) :
    l.readAll (p :: ps) = (l.read p).readAll ps := rfl

theorem readAll_append (l : Lexer K) (ps qs : List (Piece K)) :
    l.readAll (ps ++ qs) = (l.readAll ps).readAll qs := List.foldl_append

@[simp] theorem source_read (l : Lexer K) (p : Piece K) : (l.read p).source = l.source :=
  Window.advance_source _ _

@[simp] theorem source_readAll (l : Lexer K) (ps : List (Piece K)) :
    (l.readAll ps).source = l.source := by
  induction ps generalizing l with
  | nil => rfl
  | cons p ps ih => simp [ih]

@[simp] theorem state_fail (l : Lexer K) : l.fail.state = .noMatch := rfl

@[simp] theorem failed_fail (l : Lexer K) : l.fail.failed = true := rfl

theorem failed_iff {l : Lexer K} : l.failed = true ↔ l.state = .noMatch := by
  simp [failed]

theorem failed_eq_false {l : Lexer K} (h : l.state ≠ .noMatch) : l.failed = false :=
  Bool.eq_false_iff.mpr (mt failed_iff.mp h)

theorem fail_eq_self {l : Lexer K} (h : l.failed = true) : l.fail = l := by
  unfold fail
  rw [← failed_iff.mp h]

/-- The lexer has not failed, and `rest` is what is left of its source, which is a text of a size
that offsets can name. -/
structure At (l : Lexer K) (rest : Text) : Prop where
  fits : l.source.size < wordCount
  stop : l.remaining.span.stop = l.source.size
  split : Text.dropBytes? l.source.text l.position = some rest
  state : l.state = if rest = [] then .done else .matching

theorem at_start {source : Source} (h : source.size < wordCount) :
    (start source : Lexer K).At source.text where
  fits := h
  stop := rfl
  split := Text.dropBytes?_zero _
  state := by simp [start, Source.isEmpty]

namespace At

variable {l : Lexer K} {rest : Text}

theorem exists_front (h : l.At rest) :
    ∃ front, l.source.text = front ++ rest ∧ Text.byteSize front = l.position :=
  Text.dropBytes?_eq_some.mp h.split

theorem size_eq (h : l.At rest) : l.source.size = l.position + Text.byteSize rest := by
  obtain ⟨front, htext, hfront⟩ := h.exists_front
  rw [Source.size, htext, Text.byteSize_append, hfront]

theorem span_eq (h : l.At rest) : l.remaining.span = ⟨l.position, l.source.size⟩ := by
  rw [← h.stop]
  rfl

theorem text_eq (h : l.At rest) : l.remaining.text = rest := by
  obtain ⟨front, htext, hfront⟩ := h.exists_front
  rw [l.remaining.text_eq, h.span_eq, ← hfront]
  exact Source.slice_to_end htext

theorem bytesLeft_eq (h : l.At rest) : l.bytesLeft = Text.byteSize rest := by
  have hsize := h.size_eq
  unfold bytesLeft
  rw [h.span_eq]
  simp only
  omega

theorem not_failed (h : l.At rest) : l.failed = false := by
  rw [failed, h.state]
  split <;> rfl

theorem isDone_eq (h : l.At rest) : l.isDone = rest.isEmpty := by
  rw [isDone, h.state]
  cases rest <;> rfl

theorem position_read {p : Piece K} (h : l.At (p.text ++ rest)) :
    (l.read p).position = l.position + p.size := by
  have hsize := h.size_eq
  rw [Text.byteSize_append] at hsize
  simp only [read, position, Window.start, Window.advance_span]
  rw [h.span_eq]
  simp only [Piece.size]
  omega

theorem read {p : Piece K} (h : l.At (p.text ++ rest)) : (l.read p).At rest := by
  have hposition := h.position_read
  have hsize := h.size_eq
  obtain ⟨front, htext, hfront⟩ := h.exists_front
  have hstop : (l.read p).remaining.span.stop = (l.read p).source.size := by
    rw [source_read, ← h.stop]
    simp [Lexer.read]
  refine ⟨by simpa using h.fits, hstop, ?_, ?_⟩
  · rw [source_read, hposition]
    exact Text.dropBytes?_eq_some.mpr ⟨front ++ p.text, by simp [htext], by
      simp [hfront, Piece.size]⟩
  · -- The window is empty exactly where the position has come to the end of the source.
    have hempty : (l.read p).remaining.isEmpty = decide (rest = []) := by
      have hspan : (l.read p).remaining.span = ⟨l.position + p.size, l.source.size⟩ := by
        rw [← hposition, ← source_read l p, ← hstop]
        rfl
      rw [Text.byteSize_append] at hsize
      rw [Window.isEmpty, hspan, Span.isEmpty, Bool.eq_iff_iff]
      simp only [beq_iff_eq, decide_eq_true_eq, ← Text.byteSize_eq_zero, Piece.size]
      omega
    change (if (l.read p).remaining.isEmpty then State.done else State.matching) = _
    simp [hempty]

theorem readAll {ps : List (Piece K)} (h : l.At (Piece.join ps ++ rest)) :
    (l.readAll ps).At rest := by
  induction ps generalizing l with
  | nil => simpa using h
  | cons p ps ih => exact ih (At.read (by simpa using h))

theorem position_readAll {ps : List (Piece K)} (h : l.At (Piece.join ps ++ rest)) :
    (l.readAll ps).position = l.position + Text.byteSize (Piece.join ps) := by
  induction ps generalizing l with
  | nil => simp
  | cons p ps ih =>
      have hp : l.At (p.text ++ (Piece.join ps ++ rest)) := by simpa using h
      rw [readAll_cons, ih hp.read, hp.position_read]
      simp [Piece.size, Nat.add_assoc]

theorem tokens_readAll {ps : List (Piece K)} (h : l.At (Piece.join ps ++ rest)) :
    (l.readAll ps).tokens = l.tokens ++ Piece.tokensFrom l.position ps := by
  induction ps generalizing l with
  | nil => simp
  | cons p ps ih =>
      have hp : l.At (p.text ++ (Piece.join ps ++ rest)) := by simpa using h
      rw [readAll_cons, ih hp.read, hp.position_read]
      simp [tokens, Lexer.read]

theorem take {p : Piece K} (h : l.At (p.text ++ rest)) :
    l.take ⟨l.position, l.position + p.size⟩ p.kind = .ok (l.read p) := by
  have hfits := h.fits
  have hsize := h.size_eq
  rw [Text.byteSize_append] at hsize
  have hinside : l.position = l.remaining.span.start ∧
      l.remaining.span.contains ⟨l.position, l.position + p.size⟩ := by
    rw [h.span_eq]
    simp only [Span.contains, Nat.le_refl, decide_true, Bool.true_and, decide_eq_true_eq, true_and]
    simp only [position, Window.start, Piece.size] at hsize ⊢
    omega
  have hlen : Span.len ⟨l.position, l.position + p.size⟩ = .ok p.size := by
    simp [Span.len]
  have htrim : l.remaining.trimStart p.size = .ok (l.remaining.advance p.size) := by
    unfold Window.trimStart
    rw [h.span_eq, if_pos (by simp only [Piece.size]; omega)]
  rw [Lexer.take, if_pos hinside, hlen]
  change (l.remaining.trimStart p.size).bind _ = _
  rw [htrim]
  rfl

theorem matchSpan_none {matcher : Window → Option Span} (h : l.At rest)
    (hm : matcher l.remaining = none) (kind : K) : l.matchSpan matcher kind = .ok l.fail := by
  simp [matchSpan, h.not_failed, hm]

theorem matchSpan_some {matcher : Window → Option Span} {p : Piece K} (h : l.At (p.text ++ rest))
    (hm : matcher l.remaining = some ⟨l.position, l.position + p.size⟩) :
    l.matchSpan matcher p.kind = .ok (l.read p) := by
  have hpos := p.size_pos
  have hempty : Span.isEmpty ⟨l.position, l.position + p.size⟩ = false := by
    simp only [Span.isEmpty, beq_eq_false_iff_ne, ne_eq]
    omega
  simp only [matchSpan, h.not_failed, hm, hempty, Bool.false_eq_true, if_false]
  exact h.take

end At

end Lexer

end RuleLexer
