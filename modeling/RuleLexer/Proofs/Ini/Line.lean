import RuleLexer.Ini.Kind
import RuleLexer.Proofs.Ini.Patterns
import RuleLexer.Proofs.Lexer.Reading

/-!
# Lines of INI files

A line of an INI file is blank, a header or an entry, in each case with a
comment behind it or without one. The forms are given twice. `WellFormed`
says of a text that it has one of them. A `Line` has the parts of such a
text, and its pieces are what the rules read from it; the well-formed texts
are those of lines.
-/

namespace RuleLexer.Ini

open Text

section WellFormed

def IsGap (text : Text) : Prop := ∀ c ∈ text, c = ' ' ∨ c = '\t'

def IsComment (text : Text) : Prop := ∃ rest, text = '#' :: rest ∨ text = ';' :: rest

/-- What may stand behind the last gap of a line: nothing, or a comment. -/
def IsEnd (text : Text) : Prop := text = [] ∨ IsComment text

/-- Characters that are neither white space nor begin a comment. -/
def IsValueWord (text : Text) : Prop :=
  text ≠ [] ∧ ∀ c ∈ text, isBlank c = false ∧ c ≠ '#' ∧ c ≠ ';'

inductive IsValue : Text → Prop
  | word {w : Text} : IsValueWord w → IsValue w
  | more {w gap rest : Text} : IsValueWord w → gap ≠ [] → IsGap gap → IsValue rest →
      IsValue (w ++ (gap ++ rest))

def IsName (text : Text) : Prop := text ≠ [] ∧ ']' ∉ text ∧ '\r' ∉ text

def IsKey (text : Text) : Prop :=
  text ≠ [] ∧ ∀ c ∈ text, isBlank c = false ∧ c ∉ ['=', ':', '#', ';', '[', ']']

/-- The forms of a line behind its indentation. -/
inductive WellFormedBody : Text → Prop
  | empty : WellFormedBody []
  | comment {text : Text} : IsComment text → WellFormedBody text
  | header {name gap last : Text} : IsName name → IsGap gap → IsEnd last →
      WellFormedBody ('[' :: (name ++ ']' :: (gap ++ last)))
  | entry {key before after value gap last : Text} {separator : Char} : IsKey key →
      IsGap before → separator = '=' ∨ separator = ':' → IsGap after →
      value = [] ∨ IsValue value → IsGap gap → IsEnd last →
      WellFormedBody (key ++ (before ++ separator :: (after ++ (value ++ (gap ++ last)))))

def WellFormed (line : Text) : Prop :=
  WellFormedBody (line.dropWhile fun c => c == ' ' || c == '\t')

end WellFormed

abbrev Gap := Run isSpace

/-- What begins a comment. -/
inductive Mark where
  | hash
  | semicolon
  deriving DecidableEq

namespace Mark

def char : Mark → Char
  | hash => '#'
  | semicolon => ';'

def kind : Mark → Kind
  | hash => .hash
  | semicolon => .semicolon

end Mark

/-- What stands between a key and its value. -/
inductive Separator where
  | equals
  | colon
  deriving DecidableEq

namespace Separator

def char : Separator → Char
  | equals => '='
  | colon => ':'

def kind : Separator → Kind
  | equals => .equals
  | colon => .colon

end Separator

/-- A comment: its mark and the text behind the mark. -/
structure Note where
  mark : Mark
  text : Text

inductive Body where
  | blank
  | header (name : Word isNameChar) (gap : Gap)
  | entry (key : Word isKeyChar) (before : Gap) (separator : Separator) (after : Gap)
      (value : Option (Value × Gap))

structure Line where
  indent : Gap
  body : Body
  note : Option Note

def Gap.pieces (g : Gap) : List (Piece Kind) := Piece.ofText g.text .whitespaceToken

namespace Note

def pieces (n : Note) : List (Piece Kind) :=
  Piece.ofChar n.mark.char n.mark.kind :: Piece.ofText n.text .commentToken

def optionPieces : Option Note → List (Piece Kind)
  | none => []
  | some n => n.pieces

def optionText : Option Note → Text
  | none => []
  | some n => n.mark.char :: n.text

end Note

namespace Value

def pieces (v : Value) : List (Piece Kind) := [⟨v.text, .valueToken, v.text_ne_nil⟩]

def optionPieces : Option (Value × Gap) → List (Piece Kind)
  | none => []
  | some (v, gap) => v.pieces ++ gap.pieces

end Value

def Word.pieces {p : Char → Bool} (w : Word p) (kind : Kind) : List (Piece Kind) :=
  [⟨w.text, kind, w.nonempty⟩]

namespace Body

def pieces : Body → List (Piece Kind)
  | blank => []
  | header name gap =>
      Piece.ofChar '[' .leftBracket :: (Word.pieces name .headerToken ++
        Piece.ofChar ']' .rightBracket :: gap.pieces)
  | entry key before separator after value =>
      Word.pieces key .keyToken ++ (before.pieces ++
        Piece.ofChar separator.char separator.kind :: (after.pieces ++ Value.optionPieces value))

def IsHeader : Body → Prop
  | header _ _ => True
  | _ => False

end Body

namespace Line

def pieces (l : Line) : List (Piece Kind) :=
  l.indent.pieces ++ (l.body.pieces ++ Note.optionPieces l.note)

def text (l : Line) : Text := Piece.join l.pieces

end Line

@[simp] theorem Gap.join_pieces (g : Gap) : Piece.join g.pieces = g.text := Piece.join_ofText _ _

@[simp] theorem Value.join_pieces (v : Value) : Piece.join v.pieces = v.text := by
  simp [Value.pieces]

@[simp] theorem Word.join_pieces {p : Char → Bool} (w : Word p) (kind : Kind) :
    Piece.join (Word.pieces w kind) = w.text := by
  simp [Word.pieces]

@[simp] theorem Note.join_pieces (n : Note) : Piece.join n.pieces = n.mark.char :: n.text := by
  simp [Note.pieces]

@[simp] theorem Note.join_optionPieces (note : Option Note) :
    Piece.join (Note.optionPieces note) = Note.optionText note := by
  cases note with
  | none => rfl
  | some n => exact n.join_pieces

theorem Line.text_eq (l : Line) :
    l.text = l.indent.text ++ (Piece.join l.body.pieces ++ Note.optionText l.note) := by
  simp [Line.text, Line.pieces]

theorem Line.text_header (indent gap : Gap) (name : Word isNameChar) (note : Option Note) :
    (Line.mk indent (.header name gap) note).text =
      indent.text ++ '[' :: (name.text ++ ']' :: (gap.text ++ Note.optionText note)) := by
  simp [Line.text_eq, Body.pieces]

theorem Line.text_entry (indent before after : Gap) (key : Word isKeyChar) (separator : Separator)
    (value : Option (Value × Gap)) (note : Option Note) :
    (Line.mk indent (.entry key before separator after value) note).text =
      indent.text ++ (key.text ++ (before.text ++ separator.char ::
        (after.text ++ (Piece.join (Value.optionPieces value) ++ Note.optionText note)))) := by
  simp [Line.text_eq, Body.pieces]

section Forms

theorem isGap_iff {text : Text} : IsGap text ↔ ∀ c ∈ text, isSpace c = true := by
  simp [IsGap, isSpace]

theorem isEnd_iff {text : Text} :
    IsEnd text ↔ ∃ note : Option Note, Note.optionText note = text := by
  constructor
  · rintro (rfl | ⟨rest, rfl | rfl⟩)
    · exact ⟨none, rfl⟩
    · exact ⟨some ⟨.hash, rest⟩, rfl⟩
    · exact ⟨some ⟨.semicolon, rest⟩, rfl⟩
  · rintro ⟨note, rfl⟩
    cases note with
    | none => exact .inl rfl
    | some n =>
        obtain ⟨mark, text⟩ := n
        cases mark with
        | hash => exact .inr ⟨text, .inl rfl⟩
        | semicolon => exact .inr ⟨text, .inr rfl⟩

theorem isValueWord_iff {text : Text} :
    IsValueWord text ↔ text ≠ [] ∧ ∀ c ∈ text, isValueChar c = true := by
  simp [IsValueWord, isValueChar, and_assoc]

theorem IsValue.exists_value {text : Text} (h : IsValue text) : ∃ v : Value, v.text = text := by
  induction h with
  | @word w hw =>
      rw [isValueWord_iff] at hw
      exact ⟨.word ⟨⟨w, hw.2⟩, hw.1⟩, rfl⟩
  | @more w gap rest hw hne hgap _ ih =>
      rw [isValueWord_iff] at hw
      rw [isGap_iff] at hgap
      obtain ⟨v, rfl⟩ := ih
      exact ⟨.more ⟨⟨w, hw.2⟩, hw.1⟩ ⟨⟨gap, hgap⟩, hne⟩ v, rfl⟩

theorem Value.isValue_text (v : Value) : IsValue v.text := by
  have hword (w : Word isValueChar) : IsValueWord w.text :=
    isValueWord_iff.mpr ⟨w.nonempty, w.all⟩
  induction v with
  | word w => exact .word (hword w)
  | more w gap rest ih => exact .more (hword w) gap.nonempty (isGap_iff.mpr gap.all) ih

theorem isKey_iff {text : Text} :
    IsKey text ↔ text ≠ [] ∧ ∀ c ∈ text, isKeyChar c = true := by
  simp [IsKey, isKeyChar]

theorem isName_iff {text : Text} (h : '\n' ∉ text) :
    IsName text ↔ text ≠ [] ∧ ∀ c ∈ text, isNameChar c = true := by
  have hchar : (']' ∉ text ∧ '\r' ∉ text) ↔ ∀ c ∈ text, isNameChar c = true := by
    constructor
    · rintro ⟨hbracket, hreturn⟩ c hc
      simp only [isNameChar, Bool.and_eq_true, bne_iff_ne]
      exact ⟨⟨fun heq => hbracket (heq ▸ hc), fun heq => hreturn (heq ▸ hc)⟩,
        fun heq => h (heq ▸ hc)⟩
    · intro hall
      exact ⟨fun hc => by simpa [isNameChar] using hall _ hc,
        fun hc => by simpa [isNameChar] using hall _ hc⟩
  rw [IsName, hchar]

theorem newline_notMem_name (name : Word isNameChar) : '\n' ∉ name.text := fun h => by
  simpa [isNameChar] using name.all _ h

theorem WellFormedBody.exists_body {text : Text} (hform : WellFormedBody text)
    (h : '\n' ∉ text) : ∃ (body : Body) (note : Option Note),
      Piece.join body.pieces ++ Note.optionText note = text := by
  cases hform with
  | empty => exact ⟨.blank, none, rfl⟩
  | comment hcomment =>
      obtain ⟨note, rfl⟩ := isEnd_iff.mp (.inr hcomment)
      exact ⟨.blank, note, rfl⟩
  | @header name gap last hname hgap hlast =>
      rw [isName_iff (by simp_all)] at hname
      rw [isGap_iff] at hgap
      obtain ⟨note, rfl⟩ := isEnd_iff.mp hlast
      exact ⟨.header ⟨⟨name, hname.2⟩, hname.1⟩ ⟨gap, hgap⟩, note, by simp [Body.pieces]⟩
  | @entry key before after value gap last c hkey hbefore hc hafter hvalue hgap hlast =>
      rw [isKey_iff] at hkey
      rw [isGap_iff] at hbefore hafter hgap
      obtain ⟨note, rfl⟩ := isEnd_iff.mp hlast
      obtain ⟨separator, rfl⟩ : ∃ separator : Separator, separator.char = c := by
        rcases hc with rfl | rfl
        · exact ⟨.equals, rfl⟩
        · exact ⟨.colon, rfl⟩
      rcases hvalue with rfl | hvalue
      · -- Without a value, what is before it and behind it is one gap.
        have hboth : ∀ c ∈ after ++ gap, isSpace c = true := by
          simpa [or_imp, forall_and] using ⟨hafter, hgap⟩
        refine ⟨.entry ⟨⟨key, hkey.2⟩, hkey.1⟩ ⟨before, hbefore⟩ separator ⟨after ++ gap, hboth⟩
          none, note, ?_⟩
        simp [Body.pieces, Value.optionPieces]
      · obtain ⟨v, rfl⟩ := hvalue.exists_value
        refine ⟨.entry ⟨⟨key, hkey.2⟩, hkey.1⟩ ⟨before, hbefore⟩ separator ⟨after, hafter⟩
          (some (v, ⟨gap, hgap⟩)), note, ?_⟩
        simp [Body.pieces, Value.optionPieces]

theorem Body.wellFormedBody (body : Body) (note : Option Note) :
    WellFormedBody (Piece.join body.pieces ++ Note.optionText note) := by
  have hlast := isEnd_iff.mpr ⟨note, rfl⟩
  cases body with
  | blank =>
      rcases hlast with hnil | hcomment
      · rw [hnil]
        exact .empty
      · exact .comment hcomment
  | header name gap =>
      have hname := (isName_iff (newline_notMem_name name)).mpr ⟨name.nonempty, name.all⟩
      have hform := WellFormedBody.header hname (isGap_iff.mpr gap.all) hlast
      simpa [Body.pieces] using hform
  | entry key before separator after value =>
      have hkey := isKey_iff.mpr ⟨key.nonempty, key.all⟩
      have hc : separator.char = '=' ∨ separator.char = ':' := by
        cases separator <;> simp [Separator.char]
      have hbefore := isGap_iff.mpr before.all
      have hafter := isGap_iff.mpr after.all
      cases value with
      | none =>
          have hempty : IsGap [] := by simp [IsGap]
          have hform := WellFormedBody.entry hkey hbefore hc hafter (.inl rfl) hempty hlast
          simpa [Body.pieces, Value.optionPieces] using hform
      | some found =>
          obtain ⟨v, gap⟩ := found
          have hform := WellFormedBody.entry hkey hbefore hc hafter (.inr v.isValue_text)
            (isGap_iff.mpr gap.all) hlast
          simpa [Body.pieces, Value.optionPieces] using hform

/-- The text of a body and a comment behind it, and all such texts, have one of the forms. -/
theorem wellFormedBody_iff {text : Text} (h : '\n' ∉ text) :
    WellFormedBody text ↔ ∃ (body : Body) (note : Option Note),
      Piece.join body.pieces ++ Note.optionText note = text := by
  constructor
  · intro hform
    exact hform.exists_body h
  · rintro ⟨body, note, rfl⟩
    exact body.wellFormedBody note

theorem stops_note (note : Option Note) {p : Char → Bool} (hhash : p '#' = false)
    (hsemicolon : p ';' = false) : Stops p (Note.optionText note) := by
  cases note with
  | none => exact stops_nil
  | some n =>
      obtain ⟨mark, text⟩ := n
      cases mark with
      | hash => exact stops_cons.mpr hhash
      | semicolon => exact stops_cons.mpr hsemicolon

/-- What stands behind the indentation of a line does not begin with a space or a tab. -/
theorem Body.stops_isSpace (body : Body) (note : Option Note) :
    Stops isSpace (Piece.join body.pieces ++ Note.optionText note) := by
  cases body with
  | blank => exact stops_note note rfl rfl
  | header name gap => simp [Body.pieces, isSpace]
  | entry key before separator after value =>
      rw [Body.pieces, Piece.join_append, Word.join_pieces, List.append_assoc]
      exact key.stops_append (fun c => isSpace_of_isKeyChar) _

theorem wellFormed_iff {text : Text} (h : '\n' ∉ text) :
    WellFormed text ↔ ∃ l : Line, l.text = text := by
  have hsplit : (Run.front isSpace text).text ++ text.dropWhile isSpace = text :=
    Run.front_append isSpace text
  have hrest : '\n' ∉ text.dropWhile isSpace := fun hmem =>
    h (hsplit ▸ List.mem_append_right _ hmem)
  have hform : WellFormed text ↔ WellFormedBody (text.dropWhile isSpace) := Iff.rfl
  rw [hform, wellFormedBody_iff hrest]
  constructor
  · rintro ⟨body, note, heq⟩
    refine ⟨⟨.front isSpace text, body, note⟩, ?_⟩
    rw [Line.text_eq, heq, hsplit]
  · rintro ⟨⟨indent, body, note⟩, rfl⟩
    refine ⟨body, note, ?_⟩
    rw [Line.text_eq, dropWhile_run indent.all (body.stops_isSpace note)]

end Forms

end RuleLexer.Ini
