import RuleLexer.Proofs.Ini.Document
import RuleLexer.Proofs.Ini.Outline

/-!
# Reading a written outline back

A written outline is accepted, and the document that is read from it says
what the outline says. The document is followed down the written lines:
the entries of a section are added to it one by one, and a header closes
the section before it.
-/

namespace RuleLexer.Ini

open Text

theorem map_text_rows (source : Source) : (rows source).map (·.text) = lines source.text := by
  rw [rows, rowsFrom]
  exact List.ext_getElem (by simp) (by simp)

namespace Progress

def view (p : Progress) : List (Option Text × List (Text × Text)) := p.sections.map Section.view

variable {rows : List Row}

theorem foldl_pairs {ps : List Pair} (h : rows.map (·.text) = ps.map Pair.line) (p : Progress) :
    (rows.foldl addRow p).complete = p.complete ∧
      (rows.foldl addRow p).current.name = p.current.name ∧
      (rows.foldl addRow p).current.entries.map Entry.view =
        p.current.entries.map Entry.view ++ ps.map Pair.view := by
  induction ps generalizing rows p with
  | nil =>
      obtain rfl := List.map_eq_nil_iff.mp h
      exact ⟨rfl, rfl, (List.append_nil _).symm⟩
  | cons pair ps ih =>
      obtain ⟨row, rows, rfl, hrow, hrows⟩ := List.map_eq_cons_iff.mp h
      obtain ⟨e, he, hview⟩ := pair.exists_item hrow
      obtain ⟨hcomplete, hname, hentries⟩ := ih hrows (p.addRow row)
      rw [List.foldl_cons, hcomplete, hname, hentries]
      simp [addRow, he, hview]

theorem foldl_group {g : Group} (h : rows.map (·.text) = g.lines) (p : Progress) :
    (rows.foldl addRow p).view = p.view ++ [g.view] := by
  obtain ⟨row, rows, rfl, hrow, hrows⟩ := List.map_eq_cons_iff.mp h
  have hopen : p.addRow row =
      ⟨p.sections, ⟨some g.name, ⟨row.start, row.stop⟩, row.number, []⟩⟩ := by
    rw [addRow, g.item hrow]
  obtain ⟨hcomplete, hname, hentries⟩ := foldl_pairs hrows (p.addRow row)
  rw [List.foldl_cons, view, sections]
  rw [hopen] at hcomplete hname hentries ⊢
  have hsection : Section.view (rows.foldl addRow
      ⟨p.sections, ⟨some g.name, ⟨row.start, row.stop⟩, row.number, []⟩⟩).current = g.view :=
    Prod.ext hname hentries
  -- A section with a name is kept, with entries or without them.
  rw [if_neg (by simp [hname]), List.map_append, hcomplete, List.map_singleton, hsection]
  rfl

theorem foldl_groups {gs : List Group} (h : rows.map (·.text) = gs.flatMap Group.lines)
    (p : Progress) : (rows.foldl addRow p).view = p.view ++ gs.map Group.view := by
  induction gs generalizing rows p with
  | nil =>
      obtain rfl := List.map_eq_nil_iff.mp h
      exact (List.append_nil _).symm
  | cons g gs ih =>
      obtain ⟨first, rest, rfl, hfirst, hrest⟩ := List.map_eq_append_iff.mp h
      rw [List.foldl_append, ih hrest, foldl_group hfirst, List.append_assoc]
      rfl

theorem foldl_globals {ps : List Pair} (h : rows.map (·.text) = ps.map Pair.line) :
    (rows.foldl addRow .start).view = if ps = [] then [] else [(none, ps.map Pair.view)] := by
  obtain ⟨hcomplete, hname, hentries⟩ := foldl_pairs h .start
  have hempty : (rows.foldl addRow .start).current.entries = [] ↔ ps = [] := by
    rw [← List.map_eq_nil_iff (f := Entry.view), hentries]
    simp [start]
  have hsection : (rows.foldl addRow .start).current.view = (none, ps.map Pair.view) :=
    Prod.ext hname hentries
  rw [view, sections, hcomplete, hname]
  -- A section without a name is dropped exactly if it has no entry.
  by_cases hps : ps = []
  · rw [if_pos ⟨rfl, hempty.mpr hps⟩, if_pos hps]
    rfl
  · rw [if_neg (fun h => hps (hempty.mp h.2)), if_neg hps, ← hsection]
    rfl

theorem view_addRow_of_nothing {row : Row} (h : row.item = .nothing) (p : Progress) :
    (p.addRow row).view = p.view := by
  rw [addRow, h, view, view, sections, sections]
  simp only
  split
  · rfl
  · rw [List.map_append, List.map_append]
    rfl

theorem foldl_outline {o : Outline} (h : rows.map (·.text) = o.lines ++ [[]]) :
    (rows.foldl addRow .start).view = o.view := by
  obtain ⟨written, last, rfl, hwritten, hlast⟩ := List.map_eq_append_iff.mp h
  obtain ⟨first, rest, rfl, hfirst, hrest⟩ := List.map_eq_append_iff.mp hwritten
  obtain ⟨row, rfl, hrow⟩ := List.map_eq_singleton_iff.mp hlast
  have hitem : row.item = .nothing := by
    rw [Row.item, hrow]
    rfl
  rw [List.foldl_append, List.foldl_append, List.foldl_cons, List.foldl_nil,
    view_addRow_of_nothing hitem, foldl_groups hrest, foldl_globals hfirst]
  rfl

end Progress

/-- A written outline is accepted, and it is what the parsed document says. -/
theorem parse_text (o : Outline) (hsize : byteSize o.text < wordCount)
    (hmark : o.text.head? ≠ some Source.byteOrderMark) :
    (∃ l, tokenize (.ofText o.text) = .ok l ∧ l.state = .done) ∧
      ∃ d, Document.parse (.ofText o.text) = .ok d ∧ d.view = o.view := by
  have htext := Source.text_ofText hmark
  have hall : ∀ line ∈ lines (Source.ofText o.text).text, WellFormed line := by
    rw [htext]
    exact o.wellFormed
  obtain ⟨hdone, hparse⟩ := parse_of_wellFormed (by rwa [Source.size, htext]) hall
  have hrows : (rows (.ofText o.text)).map (·.text) = o.lines ++ [[]] := by
    rw [map_text_rows, htext, o.lines_text]
  exact ⟨hdone, _, hparse, Progress.foldl_outline hrows⟩

/-- Brackets in values and names, an empty value and an empty section. -/
theorem parse_text_brackets :
    ∃ d, Document.parse (.ofText "k = v [1]\n[x y]\nj = \n[[]\n".toList) = .ok d ∧
      d.view = [(none, [("k".toList, "v [1]".toList)]), (some "x y".toList, [("j".toList, [])]),
        (some "[".toList, [])] := by
  have hkey {text : Text} (hne : text ≠ []) (hall : text.all isKeyChar = true) : IsKey text :=
    isKey_iff.mpr ⟨hne, List.all_eq_true.mp hall⟩
  have hword {text : Text} (hne : text ≠ []) (hall : text.all isValueChar = true) :
      IsValueWord text := isValueWord_iff.mpr ⟨hne, List.all_eq_true.mp hall⟩
  have hvalue : IsValue "v [1]".toList :=
    .more (hword (List.cons_ne_nil 'v' []) rfl) (List.cons_ne_nil ' ' []) (by simp [IsGap])
      (.word (hword (List.cons_ne_nil '[' ['1', ']']) rfl))
  let o : Outline :=
    { globals := [⟨"k".toList, "v [1]".toList, hkey (by decide) rfl, .inr hvalue⟩]
      groups := [
        ⟨"x y".toList, [⟨"j".toList, [], hkey (by decide) rfl, .inl rfl⟩],
          by unfold IsName; decide, by decide, by decide⟩,
        ⟨"[".toList, [], by unfold IsName; decide, by decide, by decide⟩] }
  have htext : o.text = "k = v [1]\n[x y]\nj = \n[[]\n".toList := rfl
  obtain ⟨-, d, hparse, hview⟩ := parse_text o (by rw [htext]; decide) (by rw [htext]; decide)
  exact ⟨d, hparse, hview⟩

end RuleLexer.Ini
