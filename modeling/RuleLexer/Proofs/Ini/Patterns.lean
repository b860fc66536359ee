import RuleLexer.Ini.Patterns
import RuleLexer.Proofs.Lexer.Primitive
import RuleLexer.Proofs.Pattern.Greedy

/-!
# What the patterns of INI files match

On a single line the patterns of names, keys and comments match the longest
run of their characters. The pattern of values matches words with gaps
between them, and leaves the gap behind the last word.
-/

namespace RuleLexer

open Text

/-- A text all of whose characters satisfy the predicate. -/
structure Run (p : Char → Bool) where
  text : Text
  all : ∀ c ∈ text, p c = true

structure Word (p : Char → Bool) extends Run p where
  nonempty : text ≠ []

namespace Run

variable {p q : Char → Bool}

/-- The longest run at the start of a text. -/
def front (p : Char → Bool) (text : Text) : Run p :=
  ⟨text.takeWhile p, fun _ h => List.mem_takeWhile_imp h⟩

theorem front_append (p : Char → Bool) (text : Text) :
    (front p text).text ++ text.dropWhile p = text := List.takeWhile_append_dropWhile

theorem stops_append (r : Run p) (hpq : ∀ c, p c = true → q c = false) {text : Text}
    (h : Stops q text) : Stops q (r.text ++ text) :=
  Text.stops_append (fun c hc => hpq c (r.all c hc)) h

end Run

theorem Word.stops_append {p q : Char → Bool} (w : Word p) (hpq : ∀ c, p c = true → q c = false)
    (text : Text) : Stops q (w.text ++ text) := by
  obtain ⟨⟨front, hall⟩, hne⟩ := w
  cases front with
  | nil => exact absurd rfl hne
  | cons c front => simpa using hpq c (hall c List.mem_cons_self)

theorem CharSet.mem_single (a c : Char) : (CharSet.single a).mem c = (c == a) := by
  rw [single, mem, ← Bool.decide_and, Bool.eq_iff_iff]
  simp only [decide_eq_true_eq, beq_iff_eq]
  constructor
  · rintro ⟨h, h'⟩
    exact Char.le_antisymm h' h
  · rintro rfl
    exact ⟨Char.le_refl _, Char.le_refl _⟩

namespace Anchored

variable {p : Anchored} {line : Text}

theorem front_eq_nil (hline : '\n' ∉ line) (h : p.prefixLength line = none) :
    p.front line = [] := by
  have hfirst : firstLine line = line := if_neg hline
  rw [front, hfirst, h]

theorem front_eq {found tail : Text} (hline : '\n' ∉ line) (hsplit : line = found ++ tail)
    (h : p.prefixLength line = some (byteSize found)) : p.front line = found := by
  have hfirst : firstLine line = line := if_neg hline
  have htake : takeBytes? line (byteSize found) = some found :=
    takeBytes?_eq_some.mpr ⟨⟨tail, hsplit⟩, rfl⟩
  simp only [front, hfirst, h, htake, Option.getD_some]

end Anchored

namespace Ini

theorem prefixLength_of_anchor {p : Anchored} {r : Regex} (h : p.regex = anchor r) (text : Text) :
    p.prefixLength text = (r.lengthAt none text).filter (0 < ·) := by
  obtain ⟨pattern, regex⟩ := p
  subst h
  exact Regex.prefixLength_anchored pattern r text

theorem front_of_run {p : Anchored} {s : CharSet} (h : p.regex = anchor (Regex.run s))
    {line : Text} (hline : '\n' ∉ line) : p.front line = line.takeWhile s.mem := by
  have hlength := prefixLength_of_anchor h line
  rw [Regex.lengthAt_run] at hlength
  by_cases hempty : line.takeWhile s.mem = []
  · rw [if_pos hempty] at hlength
    rw [hempty]
    exact Anchored.front_eq_nil hline hlength
  · have hpos : 0 < byteSize (line.takeWhile s.mem) :=
      Nat.pos_of_ne_zero fun h => hempty (byteSize_eq_zero.mp h)
    rw [if_neg hempty, Option.filter_some, if_pos (by simpa using hpos)] at hlength
    exact Anchored.front_eq hline List.takeWhile_append_dropWhile.symm hlength

def isSpace (c : Char) : Bool := c == ' ' || c == '\t'

/-- The characters of a section's name. -/
def isNameChar (c : Char) : Bool := c != ']' && c != '\r' && c != '\n'

def isKeyChar (c : Char) : Bool := !isBlank c && !(['=', ':', '#', ';', '[', ']'].contains c)

def isValueChar (c : Char) : Bool := !isBlank c && c != '#' && c != ';'

theorem mem_headerChar : headerChar.mem = isNameChar := by
  funext c
  simp [headerChar, CharSet.mem, CharSet.unions, CharSet.mem_single, isNameChar, Bool.and_assoc,
    bne]

theorem mem_keyChar : keyChar.mem = isKeyChar := by
  funext c
  simp [keyChar, CharSet.mem, CharSet.unions, CharSet.mem_single, isKeyChar, beq_eq_decide]

theorem mem_valueChar : valueChar.mem = isValueChar := by
  funext c
  simp [valueChar, CharSet.mem, CharSet.unions, CharSet.mem_single, isValueChar, Bool.and_assoc,
    bne]

theorem mem_gapChar : gapChar.mem = isSpace := by
  funext c
  simp [gapChar, CharSet.mem, CharSet.unions, CharSet.mem_single, isSpace]

theorem isBlank_of_isSpace {c : Char} (h : isSpace c = true) : isBlank c = true := by
  simp only [isSpace, Bool.or_eq_true, beq_iff_eq] at h
  rcases h with rfl | rfl <;> decide

theorem isValueChar_of_isSpace {c : Char} (h : isSpace c = true) : isValueChar c = false := by
  simp [isValueChar, isBlank_of_isSpace h]

theorem valueChar_of_gapChar (c : Char) (h : gapChar.mem c = true) : valueChar.mem c = false := by
  rw [mem_gapChar] at h
  rw [mem_valueChar]
  exact isValueChar_of_isSpace h

theorem isKeyChar_of_isSpace {c : Char} (h : isSpace c = true) : isKeyChar c = false := by
  simp [isKeyChar, isBlank_of_isSpace h]

theorem isSpace_of_isKeyChar {c : Char} (h : isKeyChar c = true) : isSpace c = false := by
  cases hspace : isSpace c with
  | false => rfl
  | true => simp [isKeyChar_of_isSpace hspace] at h

theorem isSpace_of_isValueChar {c : Char} (h : isValueChar c = true) : isSpace c = false := by
  cases hspace : isSpace c with
  | false => rfl
  | true => simp [isValueChar_of_isSpace hspace] at h

theorem front_commentPattern {line : Text} (hline : '\n' ∉ line) :
    commentPattern.front line = line := by
  rw [front_of_run rfl hline, List.takeWhile_eq_self_iff]
  intro c hc
  have : c ≠ '\n' := fun h => hline (h ▸ hc)
  simpa [CharSet.mem, CharSet.mem_single] using this

theorem front_headerPattern {line : Text} (hline : '\n' ∉ line) :
    headerPattern.front line = line.takeWhile isNameChar := by
  rw [front_of_run rfl hline, mem_headerChar]

theorem front_keyPattern {line : Text} (hline : '\n' ∉ line) :
    keyPattern.front line = line.takeWhile isKeyChar := by
  rw [front_of_run rfl hline, mem_keyChar]

/-- A value: words with spaces and tabs between them. -/
inductive Value where
  | word (w : Word isValueChar)
  | more (w : Word isValueChar) (gap : Word isSpace) (rest : Value)

namespace Value

def text : Value → Text
  | word w => w.text
  | more w gap rest => w.text ++ (gap.text ++ rest.text)

theorem text_ne_nil (v : Value) : v.text ≠ [] := by
  cases v with
  | word w => exact w.nonempty
  | more w gap rest => simp [text, w.nonempty]

theorem not_stops (v : Value) (text : Text) : ¬Stops isValueChar (v.text ++ text) := by
  have hword (w : Word isValueChar) (text : Text) : ¬Stops isValueChar (w.text ++ text) := by
    intro h
    obtain ⟨⟨front, hall⟩, hne⟩ := w
    cases front with
    | nil => exact hne rfl
    | cons c front => simp [hall c] at h
  cases v with
  | word w => exact hword w text
  | more w gap rest => simpa [Value.text] using hword w _

theorem stops_isSpace (v : Value) (text : Text) : Stops isSpace (v.text ++ text) := by
  cases v with
  | word w => exact w.stops_append (fun c => isSpace_of_isValueChar) text
  | more w gap rest =>
      rw [Value.text, List.append_assoc]
      exact w.stops_append (fun c => isSpace_of_isValueChar) _

/-- A text that begins with a word is a value, a gap and a rest that begins with neither. -/
theorem exists_append (text : Text) (h : ¬Stops isValueChar text) :
    ∃ (v : Value) (gap : Run isSpace) (rest : Text), text = v.text ++ (gap.text ++ rest) ∧
      Stops isSpace rest ∧ Stops isValueChar rest := by
  have hne : text.takeWhile isValueChar ≠ [] := fun hempty => h (takeWhile_eq_nil_iff.mp hempty)
  let w : Word isValueChar := ⟨.front isValueChar text, hne⟩
  let tail := text.dropWhile isValueChar
  let gap := Run.front isSpace tail
  let rest := tail.dropWhile isSpace
  have htext : text = w.text ++ (gap.text ++ rest) := by
    rw [Run.front_append, Run.front_append]
  have hrest : Stops isSpace rest := stops_dropWhile _ _
  by_cases hgap : gap.text ≠ [] ∧ ¬Stops isValueChar rest
  · have hlt : rest.length < text.length := by
      have := List.length_pos_of_ne_nil hgap.1
      rw [htext, List.length_append, List.length_append]
      omega
    obtain ⟨v, gap', rest', hrest, hstops⟩ := exists_append rest hgap.2
    exact ⟨.more w ⟨gap, hgap.1⟩ v, gap', rest', by simp [Value.text, htext, hrest], hstops⟩
  · refine ⟨.word w, gap, rest, htext, hrest, ?_⟩
    by_cases hempty : gap.text = []
    · have htail : rest = tail := by
        have := Run.front_append isSpace tail
        rwa [show (Run.front isSpace tail).text = [] from hempty] at this
      rw [htail]
      exact stops_dropWhile _ _
    · exact not_not.mp fun hstops => hgap ⟨hempty, hstops⟩
termination_by text.length

theorem inWord_text (v : Value) (gap : Run isSpace) {rest : Text} (hspace : Stops isSpace rest)
    (hvalue : Stops isValueChar rest) :
    Regex.inWord valueChar gapChar (v.text ++ (gap.text ++ rest)) = byteSize v.text := by
  have hdisjoint := valueChar_of_gapChar
  have hblanks (r : Run isSpace) : ∀ c ∈ r.text, gapChar.mem c = true := by
    rw [mem_gapChar]
    exact r.all
  have hchars (w : Word isValueChar) : ∀ c ∈ w.text, valueChar.mem c = true := by
    rw [mem_valueChar]
    exact w.all
  rw [← mem_gapChar] at hspace
  rw [← mem_valueChar] at hvalue
  induction v with
  | word w =>
      rw [Value.text, Regex.inWord_run (hchars w)]
      by_cases hgap : gap.text = []
      · rw [hgap, List.nil_append, Regex.inWord_stops hvalue hspace, Nat.add_zero]
      · rw [Regex.inWord_blanks hdisjoint (hblanks gap) hgap, Regex.inGap_stops hvalue hspace]
        rfl
  | more w between v ih =>
      have hgap : Regex.inGap valueChar gapChar (v.text ++ (gap.text ++ rest)) =
          some (Regex.inWord valueChar gapChar (v.text ++ (gap.text ++ rest))) :=
        Regex.inGap_of_not_stops (mem_valueChar ▸ v.not_stops (gap.text ++ rest))
      rw [Value.text, List.append_assoc, List.append_assoc, Regex.inWord_run (hchars w),
        Regex.inWord_blanks hdisjoint (hblanks between.toRun) between.nonempty, hgap, ih]
      simp

theorem prefixLength_valuePattern (line : Text) :
    valuePattern.prefixLength line = (if line.takeWhile isValueChar = [] then none
      else some (Regex.inWord valueChar gapChar line)).filter (0 < ·) := by
  have hlength := Regex.lengthAt_words valueChar_of_gapChar none line
  rw [mem_valueChar] at hlength
  rw [← hlength]
  exact prefixLength_of_anchor rfl line

/-- The pattern of values matches a value and leaves the gap behind it. -/
theorem front_valuePattern (v : Value) (gap : Run isSpace) {rest : Text}
    (hline : '\n' ∉ v.text ++ (gap.text ++ rest)) (hspace : Stops isSpace rest)
    (hvalue : Stops isValueChar rest) :
    valuePattern.front (v.text ++ (gap.text ++ rest)) = v.text := by
  have hlength := prefixLength_valuePattern (v.text ++ (gap.text ++ rest))
  have hpos : 0 < byteSize v.text :=
    Nat.pos_of_ne_zero fun h => v.text_ne_nil (byteSize_eq_zero.mp h)
  rw [if_neg fun h => v.not_stops _ (takeWhile_eq_nil_iff.mp h),
    v.inWord_text gap hspace hvalue, Option.filter_some, if_pos (by simpa using hpos)] at hlength
  exact Anchored.front_eq hline rfl hlength

theorem front_valuePattern_of_stops {line : Text} (hline : '\n' ∉ line)
    (h : Stops isValueChar line) : valuePattern.front line = [] := by
  have hlength := prefixLength_valuePattern line
  rw [if_pos (takeWhile_eq_nil h)] at hlength
  exact Anchored.front_eq_nil hline hlength

end Value

end Ini

end RuleLexer
