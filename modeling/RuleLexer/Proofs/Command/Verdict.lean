import RuleLexer.Command.Run
import RuleLexer.Proofs.Chain
import RuleLexer.Proofs.Ini.File

/-!
# The verdict of a run

A run over files accepts them if it can read each file and accepts its text.
Its diagnostics are those of the files, in the order in which they are given.
Neither depends on what is written about the files that are accepted: not on
the command, and not on the format of the output. The work may be divided, and
the files are still taken in this order.
-/

namespace RuleLexer

/-- The run over the source reads all of it. -/
def Ini.Accepts (source : Source) : Prop :=
  ∃ l, Ini.tokenize source = .ok l ∧ l.state = .done

theorem FileReport.rejection?_eq (l : Lexer Ini.Kind) :
    FileReport.rejection? l = if l.state = .done then none else some l.rejection := by
  have hdone : l.isDone = true ↔ l.state = .done := by simp [Lexer.isDone]
  rw [rejection?, Lexer.accepted]
  by_cases h : l.state = .done
  · rw [if_pos (hdone.mpr h), if_pos h]
  · rw [if_neg (mt hdone.mp h), if_neg h]

/-- The report of a run that has come to this lexer. -/
def FileReport.ofRun (options : Options) (path : Text) (source : Source) (l : Lexer Ini.Kind) :
    FileReport where
  path := path
  accepted := decide (l.state = .done)
  output := outputOf options path source l.tokens
    (if l.state = .done then none else some l.rejection)
  diagnostic := if l.state = .done then none
    else some (Report.render path source.text l.rejection options.color)

theorem FileReport.process_eq (options : Options) (path : Text) {source : Source}
    {l : Lexer Ini.Kind} (hl : Ini.tokenize source = .ok l) :
    process options path source = .ok (ofRun options path source l) := by
  have hprocess : process options path source = .ok
      { path := path
        accepted := (rejection? l).isNone
        output := outputOf options path source l.tokens (rejection? l)
        diagnostic := (rejection? l).map fun r =>
          Report.render path source.text r options.color } := by
    rw [process, hl]
    rfl
  rw [hprocess, rejection?_eq, ofRun]
  by_cases h : l.state = .done <;> simp [h]

theorem FileReport.accepts_of_process {options : Options} {path : Text} {source : Source}
    {report : FileReport} (hsize : source.size < wordCount)
    (h : process options path source = .ok report) (haccepted : report.accepted = true) :
    Ini.Accepts source := by
  have hl := Ini.tokenize_eq hsize
  rw [process_eq options path hl] at h
  obtain rfl := Except.ok.inj h
  exact ⟨_, hl, of_decide_eq_true haccepted⟩

namespace Outcome

/-- What the file at a path adds to the diagnostics: a line if it cannot be read, and a report if
its text is rejected. -/
inductive Complains (color : Bool) (read : FileReader) (path : Text) : Text → Prop
  | unreadable {error : FileError} : read path = .error error →
      Complains color read path
        ("error: cannot read ".toList ++ path ++ ": ".toList ++ error.message ++ ['\n'])
  | accepted {text : Text} : read path = .ok text → Ini.Accepts (Source.ofText text) →
      Complains color read path []
  | rejected {text : Text} {l : Lexer Ini.Kind} : read path = .ok text →
      Ini.tokenize (Source.ofText text) = .ok l → l.state ≠ .done →
      Complains color read path (Report.render path (Source.ofText text).text l.rejection color)

/-- The file at a path can be read, and its text is accepted. -/
def Passes (read : FileReader) (path : Text) : Prop :=
  ∃ text, read path = .ok text ∧ Ini.Accepts (Source.ofText text)

/-- However the work is divided, every element is worked on, and the results are in order. -/
theorem forkJoin_eq_map {α β : Type} (f : α → β) (splits : Nat) (xs : List α) :
    forkJoin f splits xs = xs.map f := by
  induction splits generalizing xs with
  | zero => rfl
  | succ splits ih =>
      rw [forkJoin]
      split
      · rfl
      · dsimp only
        rw [ih, ih, ← List.map_append, List.take_append_drop]

theorem results_eq (options : Options) (read : FileReader) :
    results options read = options.files.map (part options read) := by
  unfold results
  split
  · exact forkJoin_eq_map _ _ _
  · rfl

/-- A run puts together the parts of its files. -/
theorem run_of_parts {options : Options} {read : FileReader} {parts : List Part}
    (h : options.files.mapM (part options read) = .ok parts) :
    run options read = .ok (ofParts options parts) := by
  have hresults : (results options read).mapM id = .ok parts := by
    rw [results_eq, List.mapM_map]
    exact h
  rw [run, hresults]
  rfl

/-- Whatever is asked for, the parts of a run with these colors have this verdict and these
diagnostics. -/
def Yields (color : Bool) (read : FileReader) (files : List Text) (verdict : Bool)
    (stderr : Text) : Prop :=
  ∀ options : Options, options.color = color → ∃ parts : List Part,
    files.mapM (part options read) = .ok parts ∧ parts.all (·.accepted) = verdict ∧
      parts.flatMap (·.stderr) = stderr

variable {color : Bool} {read : FileReader} {path : Text} {files : List Text}

theorem yields_nil : Yields color read [] true [] :=
  fun _ _ => ⟨[], rfl, rfl, rfl⟩

theorem Yields.cons {verdict verdict' : Bool} {stderr stderr' : Text}
    (hpath : ∀ options : Options, options.color = color → ∃ p,
      part options read path = .ok p ∧ p.accepted = verdict ∧ p.stderr = stderr)
    (h : Yields color read files verdict' stderr') :
    Yields color read (path :: files) (verdict && verdict') (stderr ++ stderr') := by
  intro options hcolor
  obtain ⟨p, hp, rfl, rfl⟩ := hpath options hcolor
  obtain ⟨parts, hparts, rfl, rfl⟩ := h options hcolor
  refine ⟨p :: parts, ?_, List.all_cons, List.flatMap_cons⟩
  rw [List.mapM_cons, hp, hparts]
  rfl

/-- The part of a file whose text has been read. -/
theorem part_of_text (options : Options) {text : Text} {l : Lexer Ini.Kind}
    (hread : read path = .ok text) (hl : Ini.tokenize (Source.ofText text) = .ok l) :
    part options read path =
      .ok (partOf options (FileReport.ofRun options path (Source.ofText text) l)) := by
  rw [part, hread]
  change (FileReport.process options path (Source.ofText text)).map _ = _
  rw [FileReport.process_eq options path hl]
  rfl

theorem stderr_partOf (options : Options) (path : Text) (source : Source) (l : Lexer Ini.Kind) :
    (partOf options (FileReport.ofRun options path source l)).stderr =
      if l.state = .done then [] else Report.render path source.text l.rejection options.color := by
  change (ite (l.state = .done) none (some _)).getD [] = _
  split <;> rfl

theorem exists_complaint
    (hfits : ∀ text, read path = .ok text → (Source.ofText text).size < wordCount) :
    ∃ verdict stderr, (verdict = true ↔ Passes read path) ∧
      Complains color read path stderr ∧
      ∀ options : Options, options.color = color → ∃ p,
        part options read path = .ok p ∧ p.accepted = verdict ∧ p.stderr = stderr := by
  cases hread : read path with
  | error error =>
      refine ⟨false, _, ?_, .unreadable hread, fun options _ => ?_⟩
      · simp [Passes, hread]
      · exact ⟨_, by rw [part, hread], rfl, rfl⟩
  | ok text =>
      have hl := Ini.tokenize_eq (hfits text hread)
      generalize (Lexer.start (Source.ofText text)).readAll _ = l at hl
      have hpasses : Passes read path ↔ l.state = .done := by
        simp [Passes, Ini.Accepts, hread, hl]
      by_cases hdone : l.state = .done
      · refine ⟨true, [], iff_of_true rfl (hpasses.mpr hdone),
          .accepted hread ⟨l, hl, hdone⟩, fun options _ => ?_⟩
        refine ⟨_, part_of_text options hread hl, decide_eq_true hdone, ?_⟩
        rw [stderr_partOf, if_pos hdone]
      · refine ⟨false, _, iff_of_false (by simp) (mt hpasses.mp hdone),
          .rejected hread hl hdone, fun options hcolor => ?_⟩
        refine ⟨_, part_of_text options hread hl, decide_eq_false hdone, ?_⟩
        rw [stderr_partOf, if_neg hdone, hcolor]

theorem exists_yields (color : Bool)
    (hfits : ∀ path ∈ files, ∀ text, read path = .ok text →
      (Source.ofText text).size < wordCount) :
    ∃ verdict complaints, (verdict = true ↔ ∀ path ∈ files, Passes read path) ∧
      List.Forall₂ (Complains color read) files complaints ∧
      Yields color read files verdict complaints.flatten := by
  induction files with
  | nil => exact ⟨true, [], by simp, .nil, yields_nil⟩
  | cons path files ih =>
      rw [List.forall_mem_cons] at hfits
      obtain ⟨verdict, stderr, hverdict, hcomplains, hpart⟩ := exists_complaint hfits.1
      obtain ⟨verdict', complaints, hverdict', hall, hyields⟩ := ih hfits.2
      refine ⟨verdict && verdict', stderr :: complaints, ?_, .cons hcomplains hall,
        hyields.cons hpart⟩
      rw [Bool.and_eq_true, hverdict, hverdict', List.forall_mem_cons]

/-- Over any files, whatever can be read of them, a run has a verdict and diagnostics. It accepts
exactly if each file can be read and its text is accepted, and the diagnostics are, file by file, a
line for one that cannot be read, the report for one that is rejected and nothing for one that is
accepted. Both are the same for all options with these files and colors. -/
theorem run_verdict (files : List Text) (color : Bool) (read : FileReader)
    (hfits : ∀ path ∈ files, ∀ text, read path = .ok text →
      (Source.ofText text).size < wordCount) :
    ∃ (verdict : Bool) (complaints : List Text),
      (verdict = true ↔ ∀ path ∈ files, ∃ text, read path = .ok text ∧
        Ini.Accepts (Source.ofText text)) ∧
      List.Forall₂ (Complains color read) files complaints ∧
      ∀ options : Options, options.files = files → options.color = color →
        ∃ outcome, run options read = .ok outcome ∧ outcome.accepted = verdict ∧
          outcome.stderr = complaints.flatten := by
  obtain ⟨verdict, complaints, hverdict, hall, hyields⟩ := exists_yields color hfits
  refine ⟨verdict, complaints, hverdict, hall, fun options hfiles hcolor => ?_⟩
  obtain ⟨parts, hparts, hverdict, hstderr⟩ := hyields options hcolor
  exact ⟨ofParts options parts, run_of_parts (hfiles ▸ hparts), hverdict, hstderr⟩

/-- A file with an entry, and one that is not UTF-8. -/
theorem run_verdict_not_utf8 :
    ∃ outcome, run ⟨.sections, [['a'], ['b']], true, true, false, false⟩
        (fun path => if path = ['a'] then .ok "k=v".toList else .error .notUtf8) = .ok outcome ∧
      outcome.accepted = false ∧
      outcome.stderr = "error: cannot read b: stream did not contain valid UTF-8\n".toList := by
  have hb : (if ['b'] = ['a'] then (.ok "k=v".toList : Except FileError Text) else .error .notUtf8) =
      .error .notUtf8 := if_neg (by decide)
  obtain ⟨verdict, complaints, hverdict, hall, hrun⟩ := run_verdict [['a'], ['b']] false
    (fun path => if path = ['a'] then .ok "k=v".toList else .error .notUtf8) (by
      intro path _ text hread
      split at hread
      · cases hread
        decide
      · cases hread)
  obtain ⟨outcome, houtcome, haccepted, hstderr⟩ := hrun
    ⟨.sections, [['a'], ['b']], true, true, false, false⟩ rfl rfl
  refine ⟨outcome, houtcome, ?_, ?_⟩
  · rw [haccepted, ← Bool.not_eq_true, hverdict]
    intro hpasses
    obtain ⟨text, hread, -⟩ := hpasses ['b'] (by simp)
    rw [hb] at hread
    cases hread
  · have hdone : ∃ l, Ini.tokenize (Source.ofText "k=v".toList) = .ok l ∧ l.state = .done :=
      ⟨_, rfl, by decide +kernel⟩
    obtain ⟨l, hl, hstate⟩ := hdone
    rw [hstderr]
    rcases hall with _ | ⟨hfirst, _ | ⟨hsecond, _ | _⟩⟩
    rcases hfirst with hread | ⟨hread, -⟩ | ⟨hread, hl', hnot⟩
    · cases hread
    · rcases hsecond with hread' | ⟨hread', -⟩ | ⟨hread', -⟩
      · rw [hb] at hread'
        cases hread'
        decide
      · rw [hb] at hread'
        cases hread'
      · rw [hb] at hread'
        cases hread'
    · cases hread
      rw [hl] at hl'
      cases hl'
      exact absurd hstate hnot

end Outcome

end RuleLexer
