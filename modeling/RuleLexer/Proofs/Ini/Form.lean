import RuleLexer.Proofs.Ini.Line
import Mathlib.Computability.RegularExpressions

/-!
# The kinds of the tokens of a line

A regular expression over kinds is a form. The tokens of every line have
the form of a header or that of a blank line or an entry. A gap behind a
separator and a gap behind a value are two tokens, a gap behind a separator
without a value is one.
-/

namespace RuleLexer

def Piece.kinds {K : Type} (ps : List (Piece K)) : List K := ps.map (·.kind)

namespace Ini

open RegularExpression

abbrev Form := RegularExpression Kind

namespace Form

def maybe (p : Form) : Form := 1 + p

def gap : Form := maybe (char .whitespaceToken)

def mark : Form := char .hash + char .semicolon

def note : Form := maybe (mark * maybe (char .commentToken))

def separator : Form := char .equals + char .colon

def entry : Form := char .keyToken * gap * separator * gap * maybe (char .valueToken)

def plain : Form := gap * maybe entry * gap * note

def header : Form :=
  gap * char .leftBracket * char .headerToken * char .rightBracket * gap * note

/-- The form of a line without its break. -/
def line : Form := plain + header

def row : Form := line * char .endOfLine

theorem nil_mem_maybe (p : Form) : [] ∈ (maybe p).matches' :=
  (Language.mem_add _ _ _).mpr (.inl Language.nil_mem_one)

theorem mem_maybe {p : Form} {ks : List Kind} (h : ks ∈ p.matches') :
    ks ∈ (maybe p).matches' :=
  (Language.mem_add _ _ _).mpr (.inr h)

theorem mem_char (k : Kind) : [k] ∈ (char k : Form).matches' := rfl

theorem cons_mem {k : Kind} {ks : List Kind} {p : Form} {m : Language Kind}
    (hk : [k] ∈ p.matches') (hks : ks ∈ m) : k :: ks ∈ p.matches' * m :=
  Language.append_mem_mul hk hks

/-- The kinds that are written in a form. -/
def atoms : Form → List Kind
  | .char k => [k]
  | .plus p q => atoms p ++ atoms q
  | .comp p q => atoms p ++ atoms q
  | .star p => atoms p
  | _ => []

theorem subset_atoms {p : Form} {ks : List Kind} (h : ks ∈ p.matches') : ks ⊆ atoms p := by
  induction p generalizing ks with
  | zero => exact absurd h (Language.notMem_zero ks)
  | epsilon =>
      obtain rfl := (Language.mem_one ks).mp h
      exact List.nil_subset _
  | char k =>
      obtain rfl : ks = [k] := h
      exact List.Subset.refl _
  | plus p q ihp ihq =>
      rcases (Language.mem_add _ _ _).mp h with hp | hq
      · exact List.subset_append_of_subset_left _ (ihp hp)
      · exact List.subset_append_of_subset_right _ (ihq hq)
  | comp p q ihp ihq =>
      obtain ⟨as, has, bs, hbs, rfl⟩ := Language.mem_mul.mp h
      exact List.append_subset.mpr ⟨List.subset_append_of_subset_left _ (ihp has),
        List.subset_append_of_subset_right _ (ihq hbs)⟩
  | star p ih =>
      obtain ⟨words, rfl, hwords⟩ := Language.mem_kstar.mp h
      intro k hk
      obtain ⟨word, hword, hk⟩ := List.mem_flatten.mp hk
      exact ih (hwords word hword) hk

end Form

open Form

@[simp] theorem kinds_ofChar (c : Char) (k : Kind) (ps : List (Piece Kind)) :
    Piece.kinds (Piece.ofChar c k :: ps) = k :: Piece.kinds ps := rfl

@[simp] theorem kinds_append (ps qs : List (Piece Kind)) :
    Piece.kinds (ps ++ qs) = Piece.kinds ps ++ Piece.kinds qs := List.map_append

@[simp] theorem Word.kinds_pieces {p : Char → Bool} (w : Word p) (k : Kind) :
    Piece.kinds (Word.pieces w k) = [k] := rfl

theorem kinds_ofText_mem (text : Text) (k : Kind) :
    Piece.kinds (Piece.ofText text k) ∈ (maybe (char k)).matches' := by
  by_cases hempty : text = []
  · subst hempty
    exact nil_mem_maybe _
  · rw [Piece.ofText_of_ne_nil hempty]
    exact mem_maybe (mem_char k)

theorem Gap.kinds_mem (g : Gap) : Piece.kinds g.pieces ∈ gap.matches' := kinds_ofText_mem _ _

theorem Mark.kind_mem (m : Mark) : [m.kind] ∈ Form.mark.matches' := by
  cases m with
  | hash => exact .inl rfl
  | semicolon => exact .inr rfl

theorem Separator.kind_mem (s : Separator) : [s.kind] ∈ Form.separator.matches' := by
  cases s with
  | equals => exact .inl rfl
  | colon => exact .inr rfl

theorem Note.kinds_mem (n : Option Note) : Piece.kinds (Note.optionPieces n) ∈ note.matches' := by
  cases n with
  | none => exact nil_mem_maybe _
  | some n =>
      refine mem_maybe ?_
      exact cons_mem n.mark.kind_mem (kinds_ofText_mem n.text .commentToken)

theorem Value.kinds_mem (value : Option (Value × Gap)) :
    Piece.kinds (Value.optionPieces value) ∈ (maybe (char .valueToken) * gap).matches' := by
  cases value with
  | none => exact Language.append_mem_mul (nil_mem_maybe _) (nil_mem_maybe _)
  | some found => exact cons_mem (mem_maybe (mem_char _)) found.2.kinds_mem

theorem Body.kinds_mem_of_header {body : Body} (h : body.IsHeader) :
    Piece.kinds body.pieces ∈
      (char .leftBracket * char .headerToken * char .rightBracket * gap : Form).matches' := by
  cases body with
  | blank => exact h.elim
  | header name g =>
      have hkinds := cons_mem (mem_char .leftBracket)
        (cons_mem (mem_char .headerToken) (cons_mem (mem_char .rightBracket) g.kinds_mem))
      simpa [Body.pieces, matches'_mul, mul_assoc] using hkinds
  | entry => exact h.elim

theorem Body.kinds_mem_of_not_header {body : Body} (h : ¬body.IsHeader) :
    Piece.kinds body.pieces ∈ (maybe Form.entry * gap).matches' := by
  cases body with
  | blank => exact Language.append_mem_mul (nil_mem_maybe _) (nil_mem_maybe _)
  | header => exact absurd trivial h
  | entry key before separator after value =>
      have hafter := Language.append_mem_mul after.kinds_mem (Value.kinds_mem value)
      have hkinds := cons_mem (mem_char .keyToken)
        (Language.append_mem_mul before.kinds_mem (cons_mem separator.kind_mem hafter))
      have hentry : Piece.kinds (Body.entry key before separator after value).pieces ∈
          (Form.entry * gap).matches' := by
        simpa [Body.pieces, Form.entry, matches'_mul, mul_assoc] using hkinds
      -- The gap behind a value is not part of the entry, so the entry is cut off before it.
      obtain ⟨ks, hks, gs, hgs, hjoin⟩ := Language.mem_mul.mp hentry
      exact hjoin ▸ Language.append_mem_mul (mem_maybe hks) hgs

theorem Line.kinds_mem (l : Line) : Piece.kinds l.pieces ∈ line.matches' := by
  by_cases hbody : l.body.IsHeader
  · have hkinds := Language.append_mem_mul l.indent.kinds_mem
      (Language.append_mem_mul (Body.kinds_mem_of_header hbody) (Note.kinds_mem l.note))
    refine (Language.mem_add _ _ _).mpr (.inr ?_)
    simpa [Line.pieces, Form.header, matches'_mul, mul_assoc] using hkinds
  · have hkinds := Language.append_mem_mul l.indent.kinds_mem
      (Language.append_mem_mul (Body.kinds_mem_of_not_header hbody) (Note.kinds_mem l.note))
    refine (Language.mem_add _ _ _).mpr (.inl ?_)
    simpa [Line.pieces, Form.plain, matches'_mul, mul_assoc] using hkinds

example : [.keyToken, .valueToken] ∉ Form.line.matches' := by
  rw [← rmatch_iff_matches']
  decide

theorem Line.endOfLine_notMem (l : Line) : .endOfLine ∉ Piece.kinds l.pieces := fun h =>
  absurd (subset_atoms l.kinds_mem h) (by decide)

end Ini

end RuleLexer
