import RuleLexer.Proofs.Ini.LineByLine

/-!
# Writing an outline

An outline is what a document says without the places where it says it: the
entries above the first header, and the sections with their names and
entries. It is written with one line for each header and each entry, and
each of these lines reads as the header or the entry that was written.
-/

namespace RuleLexer.Ini

open Text

structure Pair where
  key : Text
  value : Text
  isKey : IsKey key
  isValue : value = [] ∨ IsValue value

structure Group where
  name : Text
  pairs : List Pair
  isName : IsName name
  noFeed : '\n' ∉ name
  trim_eq : trim name = name

structure Outline where
  globals : List Pair
  groups : List Group

namespace Pair

def line (p : Pair) : Text := p.key ++ " = ".toList ++ p.value

def text (p : Pair) : Text := p.key ++ " = ".toList ++ p.value ++ "\n".toList

def view (p : Pair) : Text × Text := (p.key, p.value)

end Pair

namespace Group

def header (g : Group) : Text := "[".toList ++ g.name ++ "]".toList

def lines (g : Group) : List Text := g.header :: g.pairs.map Pair.line

def text (g : Group) : Text :=
  "[".toList ++ g.name ++ "]\n".toList ++ g.pairs.flatMap Pair.text

def view (g : Group) : Option Text × List (Text × Text) := (some g.name, g.pairs.map Pair.view)

end Group

namespace Outline

def lines (o : Outline) : List Text := o.globals.map Pair.line ++ o.groups.flatMap Group.lines

def text (o : Outline) : Text := o.globals.flatMap Pair.text ++ o.groups.flatMap Group.text

/-- The sections by name, with the keys and values of their entries. There is a section without a
name if there are entries above the first header. -/
def view (o : Outline) : List (Option Text × List (Text × Text)) :=
  (if o.globals = [] then [] else [(none, o.globals.map Pair.view)]) ++ o.groups.map Group.view

end Outline

def Entry.view (e : Entry) : Text × Text := (e.key, e.value)

def Section.view (s : Section) : Option Text × List (Text × Text) :=
  (s.name, s.entries.map Entry.view)

def Document.view (d : Document) : List (Option Text × List (Text × Text)) :=
  d.sections.map Section.view

theorem flatMap_text (ps : List Pair) :
    ps.flatMap Pair.text = (ps.map Pair.line).flatMap (· ++ ['\n']) := by
  rw [List.flatMap_map]
  rfl

theorem Group.text_eq (g : Group) : g.text = g.lines.flatMap (· ++ ['\n']) := by
  simp [text, lines, header, flatMap_text]

theorem Outline.text_eq (o : Outline) : o.text = o.lines.flatMap (· ++ ['\n']) := by
  have hgroups : o.groups.flatMap Group.text =
      (o.groups.flatMap Group.lines).flatMap (· ++ ['\n']) := by
    rw [List.flatMap_assoc]
    exact congrArg (List.flatMap · o.groups) (funext Group.text_eq)
  rw [text, lines, List.flatMap_append, flatMap_text, hgroups]

section Parts

def emptyGap : Gap := ⟨[], by simp⟩

def space : Gap := ⟨[' '], by simp [isSpace]⟩

theorem exists_textOf {text : Text} (h : text = [] ∨ IsValue text) :
    ∃ value : Option (Value × Gap), Value.textOf value = text ∧
      Piece.join (Value.optionPieces value) = text := by
  rcases h with rfl | h
  · exact ⟨none, rfl, rfl⟩
  · obtain ⟨v, rfl⟩ := h.exists_value
    exact ⟨some (v, emptyGap), rfl, by simp [Value.optionPieces, emptyGap]⟩

theorem Pair.exists_parts (p : Pair) :
    ∃ (key : Word isKeyChar) (value : Option (Value × Gap)), key.text = p.key ∧
      Value.textOf value = p.value ∧
      (Line.mk emptyGap (.entry key space .equals space value) none).text = p.line := by
  obtain ⟨hne, hall⟩ := isKey_iff.mp p.isKey
  obtain ⟨value, hvalue, hpieces⟩ := exists_textOf p.isValue
  refine ⟨⟨⟨p.key, hall⟩, hne⟩, value, rfl, hvalue, ?_⟩
  rw [Line.text_entry, hpieces]
  simp [emptyGap, space, Separator.char, Note.optionText, Pair.line]

theorem Group.exists_parts (g : Group) :
    ∃ name : Word isNameChar, name.text = g.name ∧
      (Line.mk emptyGap (.header name emptyGap) none).text = g.header := by
  obtain ⟨hne, hall⟩ := (isName_iff g.noFeed).mp g.isName
  refine ⟨⟨⟨g.name, hall⟩, hne⟩, rfl, ?_⟩
  rw [Line.text_header]
  simp [emptyGap, Note.optionText, Group.header]

end Parts

section Lines

theorem IsValue.blank {text : Text} (h : IsValue text) {c : Char} (hc : c ∈ text)
    (hblank : isBlank c = true) : c = ' ' ∨ c = '\t' := by
  have hword {w : Text} (hw : IsValueWord w) (hc : c ∈ w) : c = ' ' ∨ c = '\t' := by
    have hnot := (hw.2 c hc).1
    simp [hblank] at hnot
  induction h with
  | word hw => exact hword hw hc
  | more hw _ hgap _ ih =>
      rcases List.mem_append.mp hc with hc | hc
      · exact hword hw hc
      · rcases List.mem_append.mp hc with hc | hc
        · exact hgap c hc
        · exact ih hc

theorem Pair.blank_line (p : Pair) {c : Char} (hc : c ∈ p.line) (hblank : isBlank c = true) :
    c = ' ' ∨ c = '\t' := by
  simp only [line, List.mem_append] at hc
  rcases hc with (hkey | hseparator) | hvalue
  · have hnot := (p.isKey.2 c hkey).1
    simp [hblank] at hnot
  · have hcases : c = ' ' ∨ c = '=' ∨ c = ' ' := by simpa using hseparator
    rcases hcases with rfl | rfl | rfl
    · exact .inl rfl
    · exact absurd hblank (by decide)
    · exact .inl rfl
  · rcases p.isValue with hempty | hform
    · simp [hempty] at hvalue
    · exact hform.blank hvalue hblank

theorem Pair.not_mem_line (p : Pair) : '\n' ∉ p.line ∧ '\r' ∉ p.line :=
  ⟨fun h => absurd (p.blank_line h (by decide)) (by decide),
    fun h => absurd (p.blank_line h (by decide)) (by decide)⟩

theorem Group.not_mem_header (g : Group) : '\n' ∉ g.header ∧ '\r' ∉ g.header :=
  ⟨by simpa [header] using g.noFeed, by simpa [header] using g.isName.2.2⟩

theorem Pair.wellFormed_line (p : Pair) : WellFormed p.line := by
  obtain ⟨key, value, -, -, htext⟩ := p.exists_parts
  exact (wellFormed_iff p.not_mem_line.1).mpr ⟨_, htext⟩

theorem Group.wellFormed_header (g : Group) : WellFormed g.header := by
  obtain ⟨name, -, htext⟩ := g.exists_parts
  exact (wellFormed_iff g.not_mem_header.1).mpr ⟨_, htext⟩

theorem Outline.forall_lines {P : Text → Prop} (hpair : ∀ p : Pair, P p.line)
    (hheader : ∀ g : Group, P g.header) (o : Outline) : ∀ line ∈ o.lines, P line := by
  intro line hline
  rcases List.mem_append.mp hline with hglobal | hgroup
  · obtain ⟨p, -, rfl⟩ := List.mem_map.mp hglobal
    exact hpair p
  · obtain ⟨g, -, hline⟩ := List.mem_flatMap.mp hgroup
    rcases List.mem_cons.mp hline with rfl | hline
    · exact hheader g
    · obtain ⟨p, -, rfl⟩ := List.mem_map.mp hline
      exact hpair p

theorem Outline.lines_text (o : Outline) : Text.lines o.text = o.lines ++ [[]] := by
  rw [o.text_eq]
  exact lines_flatMap (o.forall_lines Pair.not_mem_line Group.not_mem_header)

theorem Outline.wellFormed (o : Outline) : ∀ line ∈ Text.lines o.text, WellFormed line := by
  rw [o.lines_text]
  intro line hline
  rcases List.mem_append.mp hline with hline | hline
  · exact o.forall_lines Pair.wellFormed_line Group.wellFormed_header line hline
  · obtain rfl := List.mem_singleton.mp hline
    exact .empty

end Lines

section Item

variable {row : Row}

theorem Pair.exists_item (p : Pair) (h : row.text = p.line) :
    ∃ e, row.item = .entry e ∧ e.view = p.view := by
  obtain ⟨number, start, stop, text⟩ := row
  obtain ⟨key, value, hkey, hvalue, htext⟩ := p.exists_parts
  obtain rfl : text = _ := h.trans htext.symm
  exact ⟨_, item_entry _ _ _ _ _ _ _ _ _ _, Prod.ext hkey hvalue⟩

theorem Group.item (g : Group) (h : row.text = g.header) : row.item = .header g.name := by
  obtain ⟨number, start, stop, text⟩ := row
  obtain ⟨name, hname, htext⟩ := g.exists_parts
  obtain rfl : text = _ := h.trans htext.symm
  rw [item_header, hname, g.trim_eq]

end Item

end RuleLexer.Ini
