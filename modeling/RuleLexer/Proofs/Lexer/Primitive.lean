import RuleLexer.Proofs.Lexer.Reader
import RuleLexer.Proofs.Pattern.Boundary

/-!
# What the primitive rules read

Each primitive rule reads one token: a literal, a run of characters, or the
match of a pattern on the first line of what is left.
-/

namespace RuleLexer

namespace Text

theorem startsWith_iff {text start : Text} : text.startsWith start = true ↔ start <+: text :=
  List.isPrefixOf_iff_prefix

/-- The literal, where the text starts with it. -/
def literalFront (literal text : Text) : Text := if text.startsWith literal then literal else []

theorem literalFront_append (literal rest : Text) :
    literalFront literal (literal ++ rest) = literal :=
  if_pos (startsWith_iff.mpr (List.prefix_append literal rest))

theorem literalFront_isPrefix (literal text : Text) : literalFront literal text <+: text := by
  unfold literalFront
  split
  · rename_i h
    exact startsWith_iff.mp h
  · exact List.nil_prefix

theorem firstLine_isPrefix (text : Text) : firstLine text <+: text := by
  obtain ⟨brk, rest, h⟩ := exists_begins text
  exact ⟨_, h.eq.symm⟩

end Text

/-- The match on the first line of a text. -/
def Anchored.front (p : Anchored) (text : Text) : Text :=
  match p.prefixLength (Text.firstLine text) with
  | some n => (Text.takeBytes? (Text.firstLine text) n).getD []
  | none => []

theorem Anchored.front_of_some {p : Anchored} {text : Text} {n : Nat}
    (h : p.prefixLength (Text.firstLine text) = some n) :
    p.front text <+: Text.firstLine text ∧ Text.byteSize (p.front text) = n := by
  obtain ⟨found, rest, htext, hsize⟩ := Text.isBoundary_iff.mp (isBoundary_prefixLength h).2
  have htake : Text.takeBytes? (Text.firstLine text) n = some found :=
    Text.takeBytes?_eq_some.mpr ⟨⟨rest, htext⟩, hsize⟩
  have hfront : p.front text = found := by simp [front, h, htake]
  rw [hfront]
  exact ⟨⟨rest, htext.symm⟩, hsize⟩

theorem Anchored.front_isPrefix_firstLine (p : Anchored) (text : Text) :
    p.front text <+: Text.firstLine text := by
  cases h : p.prefixLength (Text.firstLine text) with
  | none => simp [front, h]
  | some n => exact (front_of_some h).1

theorem Anchored.front_isPrefix (p : Anchored) (text : Text) : p.front text <+: text :=
  (p.front_isPrefix_firstLine text).trans (Text.firstLine_isPrefix text)

namespace Window

theorem finds_literal (literal : Text) :
    Finds (fun w => w.literal? literal) (Text.literalFront literal) where
  isPrefix := Text.literalFront_isPrefix literal
  eq_none := by
    intro w h
    cases literal with
    | nil => rfl
    | cons c literal =>
        cases hstart : w.text.startsWith (c :: literal) with
        | false => simp [literal?, hstart]
        | true => simp [Text.literalFront, hstart] at h
  eq_some := by
    intro w h
    cases hstart : w.text.startsWith literal with
    | false => simp [Text.literalFront, hstart] at h
    | true =>
        have hne : literal ≠ [] := by simpa [Text.literalFront, hstart] using h
        simp [literal?, Text.literalFront, hstart, hne]

theorem finds_char (c : Char) : Finds (fun w => w.char? c) (Text.literalFront [c]) := by
  have heq : (fun w : Window => w.char? c) = fun w => w.literal? [c] := by
    funext w
    unfold char? literal? Text.startsWith
    cases w.text with
    | nil => rfl
    | cons d text =>
        by_cases h : d = c
        · simp [List.isPrefixOf, h]
        · simp [List.isPrefixOf, h, Ne.symm h]
  rw [heq]
  exact finds_literal [c]

theorem finds_run (p : Char → Bool) : Finds (fun w => w.run? p) (List.takeWhile p) where
  isPrefix := fun text => List.takeWhile_prefix p
  eq_none := by
    intro w h
    simp [run?, h]
  eq_some := by
    intro w h
    have hpos : 0 < Text.byteSize (w.text.takeWhile p) :=
      Nat.pos_of_ne_zero fun hzero => h (Text.byteSize_eq_zero.mp hzero)
    simp [run?, hpos]

theorem finds_lineMatch (p : Anchored) : Finds (fun w => w.lineMatch? p.prefixLength) p.front where
  isPrefix := p.front_isPrefix
  eq_none := by
    intro w h
    unfold lineMatch?
    rw [Text.lineText_eq]
    cases hlength : p.prefixLength (Text.firstLine w.text) with
    | none => rfl
    | some n =>
        have hpos := (Anchored.isBoundary_prefixLength hlength).1
        have hsize := (Anchored.front_of_some hlength).2
        rw [h, Text.byteSize_nil] at hsize
        omega
  eq_some := by
    intro w h
    unfold lineMatch?
    rw [Text.lineText_eq]
    cases hlength : p.prefixLength (Text.firstLine w.text) with
    | none => simp [Anchored.front, hlength] at h
    | some n => rw [(Anchored.front_of_some hlength).2]; rfl

end Window

namespace Reader

variable {K : Type}

def literal (text : Text) (kind : K) : Reader K := token (Text.literalFront text) kind

def run (p : Char → Bool) (kind : K) : Reader K := token (List.takeWhile p) kind

def pattern (p : Anchored) (kind : K) : Reader K := token p.front kind

def newline (kind : K) : Reader K := oneOf [literal ['\n'] kind, literal ['\r', '\n'] kind]

def eol (kind : K) : Reader K := oneOf [atEnd, newline kind]

section Literal

variable {text rest : Text} {qs : List (Piece K)}

theorem literal_cons (c : Char) (kind : K) (rest : Text) :
    literal [c] kind (c :: rest) = some ([Piece.ofChar c kind], rest) :=
  token_append kind (Text.literalFront_append [c] rest) (List.cons_ne_nil c [])

theorem literal_eq_some {c : Char} {kind : K} :
    literal [c] kind text = some (qs, rest) ↔ qs = [Piece.ofChar c kind] ∧ text = c :: rest := by
  constructor
  · intro h
    obtain ⟨hne, rfl, htext⟩ := (token_eq_some (Text.literalFront_isPrefix [c] text)).mp h
    have hfront : Text.literalFront [c] text = [c] := by
      unfold Text.literalFront at hne ⊢
      split
      · rfl
      · rename_i hstarts
        rw [if_neg hstarts] at hne
        exact absurd rfl hne
    simp only [hfront] at htext
    exact ⟨by simp only [hfront]; rfl, htext⟩
  · rintro ⟨rfl, rfl⟩
    exact literal_cons c kind rest

theorem oneOf_literals_eq_some {a b : Char} {kind kind' : K} (hab : a ≠ b) :
    oneOf [literal [a] kind, literal [b] kind'] text = some (qs, rest) ↔
      qs = [Piece.ofChar a kind] ∧ text = a :: rest ∨
        qs = [Piece.ofChar b kind'] ∧ text = b :: rest := by
  simp only [oneOf_cons, orElse_eq_some, literal_eq_some]
  constructor
  · rintro (h | ⟨-, h | ⟨-, h⟩⟩)
    · exact .inl h
    · exact .inr h
    · exact absurd h (by simp [never])
  · rintro (h | ⟨rfl, rfl⟩)
    · exact .inl h
    · refine .inr ⟨?_, .inl ⟨rfl, rfl⟩⟩
      cases hread : literal [a] kind (b :: rest) with
      | none => rfl
      | some found =>
          have hhead := (List.cons.inj (literal_eq_some.mp hread).2).1
          exact absurd hhead.symm hab

end Literal

end Reader

namespace Rule

variable {K : Type}

theorem ReadsAs.text (literal : Text) (kind : K) :
    (Rule.text literal kind).ReadsAs (Reader.literal literal kind) :=
  .matchSpan (Window.finds_literal literal) kind

theorem ReadsAs.char (c : Char) (kind : K) : (Rule.char c kind).ReadsAs (Reader.literal [c] kind) :=
  .matchSpan (Window.finds_char c) kind

theorem ReadsAs.run (p : Char → Bool) (kind : K) :
    (Rule.run p kind).ReadsAs (Reader.run p kind) :=
  .matchSpan (Window.finds_run p) kind

theorem ReadsAs.pattern (p : Anchored) (kind : K) :
    (Rule.pattern p kind).ReadsAs (Reader.pattern p kind) :=
  .matchSpan (Window.finds_lineMatch p) kind

theorem ReadsAs.newline (kind : K) : (Rule.newline kind).ReadsAs (Reader.newline kind) :=
  .oneOf (.cons (.char '\n' kind) (.cons (.text ['\r', '\n'] kind) .nil))

theorem ReadsAs.eol (kind : K) : (Rule.eol kind).ReadsAs (Reader.eol kind) :=
  .oneOf (.cons .eof (.cons (.newline kind) .nil))

end Rule

end RuleLexer
