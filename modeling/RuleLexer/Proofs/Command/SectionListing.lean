import RuleLexer.Proofs.Chain
import RuleLexer.Proofs.Command.Verdict
import RuleLexer.Proofs.Ini.RoundTrip
import RuleLexer.Proofs.Ini.Tiling
import RuleLexer.Proofs.Text.Quoting

/-!
# The listing of sections

A listing has a line for each section and for each entry. Names, keys and
values stand on it as they are, without quotes. They can be told apart
because of what the lines of an accepted source keep out of them: a name
has no closing bracket, a key has no blank, and none of them has a newline.
So the sections are read off the listing.
-/

namespace RuleLexer

open Text

namespace Ini

/-- Key and value end on their line, and the key in front of a blank. -/
structure Entry.Plain (e : Entry) : Prop where
  key : ∀ c ∈ e.key, isBlank c = false
  value : '\n' ∉ e.value

/-- Nothing in the section looks like the end of it on the line where it stands. -/
structure Section.Plain (s : Section) : Prop where
  name : ∀ name ∈ s.name, ']' ∉ name ∧ '\n' ∉ name
  entries : ∀ e ∈ s.entries, e.Plain

section Plain

variable {source : Source}

theorem plain_entryOf (number start : Nat) (indent before after : Gap) (key : Word isKeyChar)
    (separator : Separator) (value : Option (Value × Gap)) :
    (entryOf number start indent before after key separator value).Plain where
  key := by
    intro c hc
    have hchar := key.all c hc
    simp only [isKeyChar, Bool.and_eq_true, Bool.not_eq_true'] at hchar
    exact hchar.1
  value := by
    cases value with
    | none => exact List.not_mem_nil
    | some found =>
        intro hmem
        have hblank := found.1.isValue_text.blank hmem (by decide)
        exact absurd hblank (by decide)

theorem plain_of_mem_rows (hall : ∀ line ∈ lines source.text, WellFormed line) :
    ∀ row ∈ rows source, ∀ e, row.item = .entry e → e.Plain := by
  rintro ⟨number, start, stop, text⟩ hrow e hitem
  have hline : text ∈ lines source.text := by
    rw [← map_text_rows]
    exact List.mem_map_of_mem hrow
  obtain ⟨l, rfl⟩ := (wellFormed_iff (newline_notMem_of_mem_lines hline)).mp (hall text hline)
  obtain ⟨key, before, separator, after, value, -, rfl⟩ := exists_of_item_entry hitem
  exact plain_entryOf _ _ _ _ _ _ _ _

theorem plain_readLines (hall : ∀ line ∈ lines source.text, WellFormed line) :
    ∀ s ∈ (Document.readLines source).sections, s.Plain := by
  have hrows : RowsTile source 0 0 (rows source) source.size :=
    tile_rowsFrom startsLine_nil (List.nil_append _).symm rfl hall
  have htiled := ((Progress.tiled_start source).foldl hrows).sections.1
  have hempty : Progress.start.Forall Entry.Plain :=
    ⟨fun s hs => absurd hs List.not_mem_nil, fun e he => absurd he List.not_mem_nil⟩
  have hentries := (hempty.foldl (plain_of_mem_rows hall)).sections
  intro s hs
  refine ⟨?_, hentries s hs⟩
  intro name hname
  obtain ⟨i, indent, word, gap, note, -, -, -, hword⟩ :=
    (htiled.placed s hs).named (by simp [Option.mem_def.mp hname])
  obtain rfl : trim word.text = name := Option.some.inj (hword.symm.trans hname)
  have hchar (c : Char) (hc : c ∈ trim word.text) : isNameChar c = true :=
    word.all c (mem_of_mem_trim hc)
  exact ⟨fun hc => absurd (hchar _ hc) (by decide), fun hc => absurd (hchar _ hc) (by decide)⟩

end Plain

end Ini

namespace FileReport

/-- What a line of a listing shows: that the entries above the first header follow, the name and
the line of a header, or an entry. -/
inductive ListedRow where
  | global
  | header (name : Text) (line : Nat)
  | entry (key value : Text)

namespace ListedRow

def text : ListedRow → Text
  | global => "(global)".toList
  | header name line => '[' :: (name ++ "] (line ".toList ++ decimal line ++ [')'])
  | entry key value => "  ".toList ++ key ++ " = ".toList ++ value

theorem text_header (name : Text) (line : Nat) :
    (header name line).text = '[' :: (name ++ "] (line ".toList ++ decimal line ++ [')']) := rfl

theorem text_entry (key value : Text) :
    (entry key value).text = "  ".toList ++ key ++ " = ".toList ++ value := rfl

/-- Reads a line. A name goes up to its bracket, behind which there are the digits of the line, and
a key goes from behind the two blanks at the start of its line up to the next one. -/
def read? : Text → Option ListedRow
  | [] => none
  | c :: rest =>
      if c = '(' then some global
      else if c = '[' then
        let digits := (rest.dropWhile (· ≠ ']')).filter (·.isDigit)
        some (header (rest.takeWhile (· ≠ ']')) (Nat.ofDigitChars 10 digits 0))
      else
        let body := rest.tail
        some (entry (body.takeWhile (· ≠ ' ')) ((body.dropWhile (· ≠ ' ')).drop 3))

theorem read?_header {name : Text} (hname : ']' ∉ name) (line : Nat) :
    read? (header name line).text = some (header name line) := by
  have hrun : ∀ c ∈ name, decide (c ≠ ']') = true := by
    intro c hc
    simpa using fun heq : c = ']' => hname (heq ▸ hc)
  have hstops : Stops (· ≠ ']') ("] (line ".toList ++ (decimal line ++ [')'])) := by simp [Stops]
  have hdigits : ("] (line ".toList ++ (decimal line ++ [')'])).filter (·.isDigit) =
      decimal line := by
    rw [List.filter_append, List.filter_append,
      List.filter_eq_self.mpr fun c => isDigit_of_mem_decimal]
    simp
  rw [text_header, List.append_assoc, List.append_assoc, read?, if_neg (by decide), if_pos rfl]
  simp only [takeWhile_run hrun hstops, dropWhile_run hrun hstops, hdigits, ofDigitChars_decimal]

theorem read?_entry {key : Text} (hkey : ' ' ∉ key) (value : Text) :
    read? (entry key value).text = some (entry key value) := by
  have hrun : ∀ c ∈ key, decide (c ≠ ' ') = true := by
    intro c hc
    simpa using fun heq : c = ' ' => hkey (heq ▸ hc)
  have hstops : Stops (· ≠ ' ') (' ' :: '=' :: ' ' :: value) := by simp [Stops]
  have htext : (entry key value).text = ' ' :: ' ' :: (key ++ ' ' :: '=' :: ' ' :: value) := by
    simp [text_entry]
  rw [htext, read?, if_neg (by decide), if_neg (by decide), List.tail_cons]
  simp only [takeWhile_run hrun hstops, dropWhile_run hrun hstops, List.drop_succ_cons,
    List.drop_zero]

theorem newline_notMem_header {name : Text} (hname : '\n' ∉ name) (line : Nat) :
    '\n' ∉ (header name line).text := by
  simp [text_header, hname, notMem_decimal (c := '\n') rfl]

theorem newline_notMem_entry {key value : Text} (hkey : '\n' ∉ key) (hvalue : '\n' ∉ value) :
    '\n' ∉ (entry key value).text := by
  simp [text_entry, hkey, hvalue]

end ListedRow

section Rows

def entryRow (e : Ini.Entry) : ListedRow := .entry e.key e.value

def headRow (s : Ini.Section) : ListedRow :=
  match s.name with
  | some name => .header name s.line
  | none => .global

def sectionRows (s : Ini.Section) : List ListedRow := headRow s :: s.entries.map entryRow

def documentRows (d : Ini.Document) : List ListedRow := d.sections.flatMap sectionRows

theorem sectionLine_eq (s : Ini.Section) : sectionLine s = (headRow s).text ++ ['\n'] := by
  unfold sectionLine headRow
  cases s.name with
  | none => rfl
  | some name => simp [ListedRow.text_header]

theorem documentLines_eq (d : Ini.Document) :
    documentLines d = ((documentRows d).map ListedRow.text).flatMap (· ++ ['\n']) := by
  have hsection (s : Ini.Section) :
      sectionLines s = (sectionRows s).flatMap fun row => row.text ++ ['\n'] := by
    rw [sectionLines, sectionLine_eq, sectionRows, List.flatMap_cons, List.flatMap_map]
    rfl
  rw [List.flatMap_map, documentRows, List.flatMap_assoc, documentLines]
  exact congrArg (List.flatMap · d.sections) (funext hsection)

theorem length_documentRows (d : Ini.Document) :
    (documentRows d).length = d.sections.length + (d.sections.flatMap (·.entries)).length := by
  rw [documentRows]
  induction d.sections with
  | nil => rfl
  | cons s ss ih =>
      rw [List.flatMap_cons, List.length_append, ih, List.flatMap_cons, List.length_append,
        sectionRows, List.length_cons, List.length_map, List.length_cons]
      omega

variable {d : Ini.Document}

/-- Each line of a section without surprises ends where its row does, and is read back as that
row. -/
theorem read?_of_mem_rows (h : ∀ s ∈ d.sections, s.Plain) :
    ∀ row ∈ documentRows d, '\n' ∉ row.text ∧ ListedRow.read? row.text = some row := by
  intro row hrow
  obtain ⟨s, hs, hrow⟩ := List.mem_flatMap.mp hrow
  obtain ⟨hname, hentries⟩ := h s hs
  rcases List.mem_cons.mp hrow with rfl | hrow
  · unfold headRow
    cases hsname : s.name with
    | none =>
        have hfeed : '\n' ∉ ListedRow.global.text := by decide
        exact ⟨hfeed, rfl⟩
    | some name =>
        obtain ⟨hbracket, hfeed⟩ := hname name hsname
        exact ⟨ListedRow.newline_notMem_header hfeed _, ListedRow.read?_header hbracket _⟩
  · obtain ⟨e, he, rfl⟩ := List.mem_map.mp hrow
    obtain ⟨hkey, hvalue⟩ := hentries e he
    have hnot (c : Char) (hc : isBlank c = true) : c ∉ e.key := by
      intro hmem
      rw [hkey c hmem] at hc
      exact absurd hc (by simp)
    exact ⟨ListedRow.newline_notMem_entry (hnot _ (by decide)) hvalue,
      ListedRow.read?_entry (hnot _ (by decide)) _⟩

end Rows

/-- What a listing shows of a section: its name and line unless it has no name, and the keys and
values of its entries. -/
abbrev ShownSection := Option (Text × Nat) × List (Text × Text)

def shownSection (s : Ini.Section) : ShownSection :=
  (s.name.map fun name => (name, s.line), s.entries.map Ini.Entry.view)

/-- Puts a row in front of those below it, of which some entries are not under a header yet. -/
def gather (row : ListedRow) (below : List (Text × Text) × List ShownSection) :
    List (Text × Text) × List ShownSection :=
  match row with
  | .global => ([], (none, below.1) :: below.2)
  | .header name line => ([], (some (name, line), below.1) :: below.2)
  | .entry key value => ((key, value) :: below.1, below.2)

/-- The sections that a listing shows. -/
def shownSections? (listing : Text) : Option (List ShownSection) :=
  ((listing.splitOn '\n').dropLast.mapM ListedRow.read?).map fun rows =>
    (rows.foldr gather ([], [])).2

theorem foldr_gather (ss : List Ini.Section) :
    (ss.flatMap sectionRows).foldr gather ([], []) = ([], ss.map shownSection) := by
  have hentries (es : List Ini.Entry) (below : List ShownSection) :
      (es.map entryRow).foldr gather ([], below) = (es.map Ini.Entry.view, below) := by
    induction es with
    | nil => rfl
    | cons e es ih =>
        rw [List.map_cons, List.foldr_cons, ih]
        rfl
  induction ss with
  | nil => rfl
  | cons s ss ih =>
      rw [List.flatMap_cons, List.foldr_append, ih, sectionRows, List.foldr_cons, hentries,
        headRow, List.map_cons, shownSection]
      cases s.name <;> rfl

/-- A listing of the sections of a document: a line for each section and each entry, in their
order, from which the sections can be read. -/
structure ListsSections (d : Ini.Document) (listing : Text) : Prop where
  newlines : listing.count '\n' = d.sections.length + (d.sections.flatMap (·.entries)).length
  rows : listing.splitOn '\n' = (documentRows d).map ListedRow.text ++ [[]]
  sections : shownSections? listing = some (d.sections.map shownSection)

theorem listsSections {d : Ini.Document} (h : ∀ s ∈ d.sections, s.Plain) :
    ListsSections d (documentLines d) := by
  have hread := read?_of_mem_rows h
  have hfeeds : ∀ row ∈ (documentRows d).map ListedRow.text, '\n' ∉ row :=
    List.forall_mem_map.mpr fun row hrow => (hread row hrow).1
  have hrows : (documentLines d).splitOn '\n' = (documentRows d).map ListedRow.text ++ [[]] := by
    rw [documentLines_eq, splitOn_flatMap hfeeds]
  refine ⟨?_, hrows, ?_⟩
  · rw [documentLines_eq, count_flatMap hfeeds, List.length_map, length_documentRows]
  · rw [shownSections?, hrows, List.dropLast_concat,
      mapM_map_eq_some fun row hrow => (hread row hrow).2, List.map_id', Option.map_some,
      documentRows, foldr_gather]

theorem exists_listsSections {source : Source} (hsize : source.size < wordCount)
    (haccepts : Ini.Accepts source) (options : Options) (path : Text) :
    ∃ report d listing,
      process { options with command := .sections, json := false } path source = .ok report ∧
      report.accepted = true ∧ Ini.Document.parse source = .ok d ∧
      report.output = .text listing ∧ ListsSections d listing := by
  obtain ⟨l, hl, hdone⟩ := haccepts
  have hprocess := process_eq { options with command := .sections, json := false } path hl
  have hall := (Ini.tokens_eq_of_done hsize hl hdone).2
  have hparse := (Ini.parse_of_wellFormed hsize hall).2
  have htokens : Ini.Document.parse source = .ok (.ofTokens source l.tokens) := by
    have hisDone : l.isDone = true := decide_eq_true hdone
    simp only [Ini.Document.parse, hl, Lexer.accepted, hisDone, if_true]
  obtain hdocument := Except.ok.inj (htokens.symm.trans hparse)
  refine ⟨_, _, documentLines (.readLines source), hprocess, decide_eq_true hdone, hparse, ?_,
    listsSections (Ini.plain_readLines hall)⟩
  rw [← hdocument, ofRun]
  simp [outputOf, hdone]

/-- The listing of the sections of an accepted source has a line for each section and each entry,
and the sections can be read off it. So accepted sources with the same listing have documents that
agree in their names, the lines of their headers, and their keys and values. -/
theorem sections_listing_unambiguous :
    (∀ (options : Options) (path : Text) (source : Source), source.size < wordCount →
      Ini.Accepts source → ∃ report d listing,
        process { options with command := .sections, json := false } path source = .ok report ∧
        report.accepted = true ∧ Ini.Document.parse source = .ok d ∧
        report.output = .text listing ∧ ListsSections d listing) ∧
    ∀ (options options' : Options) (path path' : Text) (source source' : Source)
      (report report' : FileReport), source.size < wordCount → source'.size < wordCount →
      process { options with command := .sections, json := false } path source = .ok report →
      process { options' with command := .sections, json := false } path' source' = .ok report' →
      report.accepted = true → report'.accepted = true → report.output = report'.output →
      ∃ d d', Ini.Document.parse source = .ok d ∧ Ini.Document.parse source' = .ok d' ∧
        d.sections.map shownSection = d'.sections.map shownSection := by
  refine ⟨fun options path source hsize haccepts =>
    exists_listsSections hsize haccepts options path, ?_⟩
  intro options options' path path' source source' report report' hsize hsize' hreport hreport'
    haccepted haccepted' houtput
  have haccepts := accepts_of_process hsize hreport haccepted
  have haccepts' := accepts_of_process hsize' hreport' haccepted'
  obtain ⟨r, d, listing, hr, -, hparse, hlisting, hlists⟩ :=
    exists_listsSections hsize haccepts options path
  obtain ⟨r', d', listing', hr', -, hparse', hlisting', hlists'⟩ :=
    exists_listsSections hsize' haccepts' options' path'
  obtain rfl : r = report := Except.ok.inj (hr.symm.trans hreport)
  obtain rfl : r' = report' := Except.ok.inj (hr'.symm.trans hreport')
  obtain rfl : listing = listing' := by
    rw [hlisting, hlisting'] at houtput
    exact Output.text.inj houtput
  exact ⟨d, d', hparse, hparse', Option.some.inj (hlists.sections.symm.trans hlists'.sections)⟩

/-- An entry above a header and one below it, and the same ones among blanks and comments. -/
theorem sections_listing_unambiguous_comments :
    (∃ report d listing, process ⟨.sections, [], false, true, false, false⟩ ['f']
        (.ofText "x=1\n[a]\nk=v".toList) = .ok report ∧ report.output = .text listing ∧
      Ini.Document.parse (.ofText "x=1\n[a]\nk=v".toList) = .ok d ∧
      listing.count '\n' = 4 ∧ shownSections? listing = some (d.sections.map shownSection)) ∧
    ∃ d d', Ini.Document.parse (.ofText "x=1\n[a]\nk=v".toList) = .ok d ∧
      Ini.Document.parse (.ofText "x : 1\n[ a ] ;\n# b\nk = v".toList) = .ok d' ∧
      d.sections.map shownSection = d'.sections.map shownSection := by
  obtain ⟨hlist, hsame⟩ := sections_listing_unambiguous
  constructor
  · obtain ⟨report, d, listing, hreport, -, hparse, hlisting, hlists⟩ :=
      hlist ⟨.check, [], true, true, false, false⟩ ['f'] (.ofText "x=1\n[a]\nk=v".toList)
        (by decide) ⟨_, rfl, by decide +kernel⟩
    refine ⟨report, d, listing, hreport, hlisting, hparse, ?_, hlists.sections⟩
    rw [hlists.newlines]
    cases hparse
    decide +kernel
  · have houtput {source : Source} {l : Lexer Ini.Kind}
        (h : documentLines (.ofTokens source l.tokens) =
          "(global)\n  x = 1\n[a] (line 2)\n  k = v\n".toList) :
        outputOf ⟨.sections, [], false, true, false, false⟩ [] source l.tokens none =
          .text "(global)\n  x = 1\n[a] (line 2)\n  k = v\n".toList := congrArg Output.text h
    exact hsame ⟨.check, [], true, true, false, false⟩ ⟨.check, [], true, true, false, false⟩
      ['f'] ['g'] _ _ _ _ (by decide) (by decide) rfl rfl rfl rfl
      ((houtput (by decide +kernel)).trans (houtput (by decide +kernel)).symm)

end FileReport

end RuleLexer
