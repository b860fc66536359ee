import RuleLexer.Proofs.Command.JsonText
import RuleLexer.Proofs.Command.Verdict

/-!
# The output of a run

In the JSON format the output is one array, with a record for each file that
can be read. Otherwise it is made of the texts of these files, each below a
line with its path if there are several files; a file without a text gets no
such line. A file that cannot be read leaves nothing in the output.
-/

namespace RuleLexer

open Text

namespace FileReport

/-- The record of a file says which file it is, whether it is accepted, and if not, where it was
rejected. -/
theorem exists_fileJson (path : Text) (rejection : Option Rejection)
    {fields : List (String × Json)}
    (hfields : ∀ field ∈ fields, field.1 = "tokens" ∨ field.1 = "document") :
    ∃ sorted, fileJson path rejection fields = .object sorted ∧ Json.Ordered sorted ∧
      sorted.lookup "path".toList = some (.string path) ∧
      sorted.lookup "accepted".toList = some (.bool rejection.isNone) ∧
      sorted.lookup "rejection".toList = rejection.map rejectionJson := by
  obtain ⟨sorted, hrecord, hordered, hlookup⟩ := Json.exists_record
    ([("path", .string path), ("accepted", .bool rejection.isNone)]
      ++ (rejection.map fun r => ("rejection", rejectionJson r)).toList ++ fields)
  have hnone (name : Text) (htokens : name ≠ "tokens".toList)
      (hdocument : name ≠ "document".toList) :
      (fields.reverse.map fun field => (field.1.toList, field.2)).lookup name = none := by
    rw [List.lookup_eq_none_iff]
    intro field hfield
    obtain ⟨f, hf, rfl⟩ := List.mem_map.mp hfield
    rcases hfields f (List.mem_reverse.mp hf) with heq | heq
    · simpa [heq] using htokens
    · simpa [heq] using hdocument
  refine ⟨sorted, hrecord, hordered, ?_, ?_, ?_⟩
  all_goals
    rw [hlookup, List.reverse_append, List.map_append, List.lookup_append,
      hnone _ (by decide) (by decide), Option.none_or]
    cases rejection <;> simp [Json.lookup_cons]

theorem exists_outputOf_json {options : Options} (hjson : options.json = true) (path : Text)
    (source : Source) (tokens : List (Token Ini.Kind)) (rejection : Option Rejection) :
    ∃ fields, outputOf options path source tokens rejection =
        .json (fileJson path rejection fields) ∧
      ∀ field ∈ fields, field.1 = "tokens" ∨ field.1 = "document" := by
  cases hcommand : options.command with
  | tokenize =>
      refine ⟨[("tokens", .array (tokens.map (tokenJson source)))], ?_, by simp⟩
      simp [outputOf, hcommand, hjson]
  | check => exact ⟨[], by simp [outputOf, hcommand, hjson], by simp⟩
  | sections =>
      cases rejection with
      | none =>
          refine ⟨[("document", documentJson (.ofTokens source tokens))], ?_, by simp⟩
          simp [outputOf, hcommand, hjson]
      | some r => exact ⟨[], by simp [outputOf, hcommand, hjson], by simp⟩

theorem exists_outputOf_text {options : Options} (hjson : options.json = false) (path : Text)
    (source : Source) (tokens : List (Token Ini.Kind)) (rejection : Option Rejection) :
    ∃ text, outputOf options path source tokens rejection = .text text := by
  simp only [outputOf, hjson, Bool.false_eq_true, if_false]
  cases options.command with
  | tokenize => exact ⟨_, rfl⟩
  | check =>
      by_cases hverbose : (rejection.isNone && options.verbose) = true
      · exact ⟨_, if_pos hverbose⟩
      · exact ⟨_, if_neg hverbose⟩
  | sections =>
      cases rejection with
      | none => exact ⟨_, rfl⟩
      | some r => exact ⟨_, rfl⟩

end FileReport

namespace Outcome

/-- The files that can be read, each with its text. -/
def readable (read : FileReader) (files : List Text) : List (Text × Text) :=
  files.filterMap fun path => (read path).toOption.map (path, ·)

/-- What the command makes of a file with this text. -/
def Writes (options : Options) (file : Text × Text) (output : Output) : Prop :=
  ∃ report, FileReport.process options file.1 (Source.ofText file.2) = .ok report ∧
    report.output = output

/-- The value is a record with the path of the file and the verdict on its text, and with a
rejection exactly if the text is rejected. -/
def Describes (file : Text × Text) (value : Json) : Prop :=
  ∃ l fields, Ini.tokenize (Source.ofText file.2) = .ok l ∧ value = .object fields ∧
    (fields.map Prod.fst).Nodup ∧ fields.lookup "path".toList = some (.string file.1) ∧
    fields.lookup "accepted".toList = some (.bool (decide (l.state = .done))) ∧
    fields.lookup "rejection".toList =
      if l.state = .done then none else some (FileReport.rejectionJson l.rejection)

variable {options : Options} {read : FileReader} {path : Text} {files : List Text}

/-- The parts of the files that cannot be read have no share in the output. -/
theorem exists_parts {R : Text × Text → Part → Prop}
    (h : ∀ path ∈ files, ∀ text, read path = .ok text →
      ∃ p, part options read path = .ok p ∧ R (path, text) p) :
    ∃ parts shown, files.mapM (part options read) = .ok parts ∧
      List.Forall₂ R (readable read files) shown ∧
      parts.flatMap (·.text) = shown.flatMap (·.text) ∧
      parts.filterMap (·.json) = shown.filterMap (·.json) := by
  induction files with
  | nil => exact ⟨[], [], rfl, .nil, rfl, rfl⟩
  | cons path files ih =>
      rw [List.forall_mem_cons] at h
      obtain ⟨parts, shown, hparts, hshown, htext, hjson⟩ := ih h.2
      cases hread : read path with
      | error error =>
          -- Its part has no text and no value, so it is left out on both sides.
          have hpart : part options read path = .ok ⟨false, [], none, readFailure path error⟩ := by
            rw [part, hread]
          refine ⟨⟨false, [], none, readFailure path error⟩ :: parts, shown, ?_, ?_, htext, hjson⟩
          · rw [List.mapM_cons, hpart, hparts]
            rfl
          · simpa [readable, hread, Except.toOption] using hshown
      | ok text =>
          obtain ⟨p, hp, hR⟩ := h.1 text hread
          refine ⟨p :: parts, p :: shown, ?_, ?_, ?_, ?_⟩
          · rw [List.mapM_cons, hp, hparts]
            rfl
          · simpa [readable, hread, Except.toOption] using hshown.cons hR
          · rw [List.flatMap_cons, List.flatMap_cons, htext]
          · rw [List.filterMap_cons, List.filterMap_cons, hjson]

theorem partOf_json (options : Options) (report : FileReport) {value : Json}
    (h : report.output = .json value) :
    (partOf options report).text = [] ∧ (partOf options report).json = some value := by
  simp [partOf, h]

theorem partOf_text (options : Options) (report : FileReport) {text : Text}
    (h : report.output = .text text) :
    (partOf options report).text =
      if text.isEmpty then [] else heading options report.path ++ text := by
  simp [partOf, h]

/-- The part of a file in the JSON format is a record and no text. -/
def AddsRecord (options : Options) (file : Text × Text) (p : Part) : Prop :=
  p.text = [] ∧ ∃ value, p.json = some value ∧ Writes options file (.json value) ∧
    Describes file value

/-- The part of a file is a text, which has a line above it if it is not empty. -/
def AddsText (options : Options) (file : Text × Text) (p : Part) : Prop :=
  ∃ text, p.text = (if text.isEmpty then [] else heading options file.1 ++ text) ∧
    Writes options file (.text text)

theorem exists_addsRecord (hjson : options.json = true) {text : Text}
    (hread : read path = .ok text) (hsize : (Source.ofText text).size < wordCount) :
    ∃ p, part options read path = .ok p ∧ AddsRecord options (path, text) p := by
  have hl := Ini.tokenize_eq hsize
  generalize (Lexer.start (Source.ofText text)).readAll _ = l at hl
  obtain ⟨fields, houtput, hfields⟩ := FileReport.exists_outputOf_json hjson path
    (Source.ofText text) l.tokens (if l.state = .done then none else some l.rejection)
  obtain ⟨sorted, hrecord, hordered, hpath, haccepted, hrejection⟩ :=
    FileReport.exists_fileJson path (if l.state = .done then none else some l.rejection) hfields
  obtain ⟨htext, hvalue⟩ := partOf_json options
    (.ofRun options path (Source.ofText text) l) houtput
  refine ⟨_, part_of_text options hread hl, htext, _, hvalue,
    ⟨_, FileReport.process_eq options path hl, houtput⟩, l, sorted, hl, hrecord, hordered.nodup,
    hpath, ?_, ?_⟩
  · rw [haccepted]
    by_cases hdone : l.state = .done <;> simp [hdone]
  · rw [hrejection]
    by_cases hdone : l.state = .done <;> simp [hdone]

theorem exists_addsText (hjson : options.json = false) {text : Text}
    (hread : read path = .ok text) (hsize : (Source.ofText text).size < wordCount) :
    ∃ p, part options read path = .ok p ∧ AddsText options (path, text) p := by
  have hl := Ini.tokenize_eq hsize
  generalize (Lexer.start (Source.ofText text)).readAll _ = l at hl
  obtain ⟨shown, houtput⟩ := FileReport.exists_outputOf_text hjson path
    (Source.ofText text) l.tokens (if l.state = .done then none else some l.rejection)
  exact ⟨_, part_of_text options hread hl, shown, partOf_text options _ houtput,
    _, FileReport.process_eq options path hl, houtput⟩

variable {given : List (Text × Text)} {parts : List Part}

theorem records_of_forall₂ (h : List.Forall₂ (AddsRecord options) given parts) :
    parts.flatMap (·.text) = [] ∧
      List.Forall₂ (fun file value => Writes options file (.json value) ∧ Describes file value)
        given (parts.filterMap (·.json)) := by
  induction h with
  | nil => exact ⟨rfl, .nil⟩
  | cons hadds _ ih =>
      obtain ⟨htext, value, hvalue, hrecord⟩ := hadds
      rw [List.flatMap_cons, htext, List.filterMap_cons_some hvalue]
      exact ⟨ih.1, .cons hrecord ih.2⟩

theorem texts_of_forall₂ (h : List.Forall₂ (AddsText options) given parts) :
    ∃ texts, List.Forall₂ (fun file text => Writes options file (.text text)) given texts ∧
      parts.flatMap (·.text) = ((given.zip texts).filter fun shown => !shown.2.isEmpty).flatMap
        fun shown => heading options shown.1.1 ++ shown.2 := by
  induction h with
  | nil => exact ⟨[], .nil, rfl⟩
  | cons hadds _ ih =>
      obtain ⟨text, htext, hwrites⟩ := hadds
      obtain ⟨texts, hall, heq⟩ := ih
      refine ⟨text :: texts, .cons hwrites hall, ?_⟩
      rw [List.flatMap_cons, heq, htext, List.zip_cons_cons, List.filter_cons]
      cases hempty : text.isEmpty <;> simp

/-- A run comes to an end with any options, whatever can be read of the files. In the JSON format
its output is an array with the record of each file that can be read, in the order of the files.
Otherwise it is the texts of these files that are not empty, each below a line with its path if
there is more than one file. -/
theorem run_output (options : Options) (read : FileReader)
    (hfits : ∀ path ∈ options.files, ∀ text, read path = .ok text →
      (Source.ofText text).size < wordCount) :
    ∃ outcome, run options read = .ok outcome ∧
      (options.json = true → ∃ values,
        List.Forall₂ (fun file value => Writes options file (.json value) ∧ Describes file value)
          (readable read options.files) values ∧
        outcome.stdout = (Json.array values).pretty ++ ['\n'] ∧
        Json.read? outcome.stdout = some (.array values)) ∧
      (options.json = false → ∃ texts,
        List.Forall₂ (fun file text => Writes options file (.text text))
          (readable read options.files) texts ∧
        outcome.stdout = (((readable read options.files).zip texts).filter
          fun shown => !shown.2.isEmpty).flatMap fun shown =>
            (if 1 < options.files.length then "==> ".toList ++ shown.1.1 ++ " <==\n".toList
              else []) ++ shown.2) := by
  cases hjson : options.json with
  | true =>
      obtain ⟨parts, shown, hparts, hshown, htext, hvalues⟩ := exists_parts
        (fun path hpath text hread => exists_addsRecord hjson hread (hfits path hpath text hread))
      obtain ⟨hempty, hrecords⟩ := records_of_forall₂ hshown
      have hstdout : (ofParts options parts).stdout =
          (Json.array (shown.filterMap (·.json))).pretty ++ ['\n'] := by
        simp only [ofParts, hjson, htext, hempty, hvalues, List.nil_append, if_true]
      refine ⟨ofParts options parts, run_of_parts hparts, fun _ => ?_, by simp⟩
      exact ⟨_, hrecords, hstdout, by rw [hstdout, Json.read?_pretty]⟩
  | false =>
      obtain ⟨parts, shown, hparts, hshown, htext, -⟩ := exists_parts
        (fun path hpath text hread => exists_addsText hjson hread (hfits path hpath text hread))
      obtain ⟨texts, hall, heq⟩ := texts_of_forall₂ hshown
      refine ⟨ofParts options parts, run_of_parts hparts, by simp, fun _ => ?_⟩
      refine ⟨texts, hall, ?_⟩
      simp only [ofParts, hjson, htext, heq, Bool.false_eq_true, if_false, List.append_nil]
      rfl

/-- A file with an entry and one that is not there, in both formats. -/
theorem run_output_not_found :
    (∃ outcome value, run ⟨.sections, [['a'], ['b']], true, true, false, false⟩
        (fun path => if path = ['a'] then .ok "k=v".toList else .error .notFound) = .ok outcome ∧
      Json.read? outcome.stdout = some (.array [value]) ∧ Describes (['a'], "k=v".toList) value) ∧
    ∃ outcome, run ⟨.sections, [['a'], ['b']], false, true, false, false⟩
        (fun path => if path = ['a'] then .ok "k=v".toList else .error .notFound) = .ok outcome ∧
      outcome.stdout = "==> a <==\n(global)\n  k = v\n".toList := by
  have hfits : ∀ path ∈ [['a'], ['b']], ∀ text,
      (if path = ['a'] then (.ok "k=v".toList : Except FileError Text) else .error .notFound) =
        .ok text → (Source.ofText text).size < wordCount := by
    intro path _ text hread
    split at hread
    · cases hread
      decide
    · cases hread
  have hreadable : readable (fun path => if path = ['a'] then .ok "k=v".toList
      else .error .notFound) [['a'], ['b']] = [(['a'], "k=v".toList)] := by decide
  constructor
  · obtain ⟨outcome, hrun, hvalues, -⟩ := run_output
      ⟨.sections, [['a'], ['b']], true, true, false, false⟩
      (fun path => if path = ['a'] then .ok "k=v".toList else .error .notFound) hfits
    obtain ⟨values, hall, -, hstdout⟩ := hvalues rfl
    rw [hreadable] at hall
    rcases hall with _ | ⟨hvalue, _ | _⟩
    exact ⟨outcome, _, hrun, hstdout, hvalue.2⟩
  · obtain ⟨outcome, hrun, -, htexts⟩ := run_output
      ⟨.sections, [['a'], ['b']], false, true, false, false⟩
      (fun path => if path = ['a'] then .ok "k=v".toList else .error .notFound) hfits
    obtain ⟨texts, hall, hstdout⟩ := htexts rfl
    rw [hreadable] at hall hstdout
    rcases hall with _ | ⟨⟨report, hreport, houtput⟩, _ | _⟩
    cases hreport
    cases houtput
    refine ⟨outcome, hrun, hstdout.trans ?_⟩
    decide +kernel

end Outcome

end RuleLexer
