import RuleLexer.Command.Options
import RuleLexer.Proofs.Chain

/-!
# The arguments behind a command

The first argument is a word for a command. Among the others a flag may stand anywhere and more
than once, and every argument that does not begin with a dash is the name of a file. The arguments
are read one after the other; what has been read of them at any point is what the arguments up to
there say by themselves, so the order of the flags cannot be seen in the result.
-/

namespace RuleLexer

namespace Command

/-- The words for a command. -/
def words : Command → List Text
  | tokenize => ["tokenize".toList, "lex".toList]
  | check => ["check".toList]
  | sections => ["sections".toList]

theorem ofName?_eq_some_iff {name : Text} {command : Command} :
    ofName? name = some command ↔ name ∈ command.words := by
  unfold ofName?
  constructor
  · intro h
    split at h
    · obtain rfl := Option.some.inj h
      simpa [words] using ‹_ ∨ _›
    · split at h
      · obtain rfl := Option.some.inj h
        simpa [words]
      · obtain ⟨hname, hcommand⟩ := Option.ite_none_right_eq_some.mp h
        obtain rfl := Option.some.inj hcommand
        simpa [words] using hname
  · intro h
    cases command with
    | tokenize => rw [if_pos (by simpa [words] using h)]
    | check =>
        obtain rfl : name = "check".toList := by simpa [words] using h
        rfl
    | sections =>
        obtain rfl : name = "sections".toList := by simpa [words] using h
        rfl

end Command

namespace Options

/-- The argument begins with a dash, so that it is no name of a file. -/
def IsDashed (arg : Text) : Prop := arg.head? = some '-'

instance (arg : Text) : Decidable (IsDashed arg) := inferInstanceAs (Decidable (_ = _))

def flags : List Text :=
  ["--json".toList, "--no-parallel".toList, "-v".toList, "--verbose".toList]

/-- The argument looks like an option and is none of the flags. -/
def IsUnknown (arg : Text) : Prop := IsDashed arg ∧ arg ∉ flags

instance (arg : Text) : Decidable (IsUnknown arg) := inferInstanceAs (Decidable (_ ∧ _))

theorem not_isUnknown_iff {arg : Text} : ¬IsUnknown arg ↔ IsDashed arg → arg ∈ flags := by
  rw [IsUnknown, not_and, Classical.not_not]

theorem isDashed_of_mem_flags {arg : Text} (h : arg ∈ flags) : IsDashed arg :=
  (by decide : ∀ flag ∈ flags, IsDashed flag) arg h

/-- The options that say what the arguments behind the command say. -/
structure ReadFrom (options : Options) (command : Command) (args : List Text) : Prop where
  command_eq : options.command = command
  files_eq : options.files = args.filter (¬IsDashed ·)
  json_iff : options.json = true ↔ "--json".toList ∈ args
  parallel_iff : options.parallel = false ↔ "--no-parallel".toList ∈ args
  verbose_iff : options.verbose = true ↔ "-v".toList ∈ args ∨ "--verbose".toList ∈ args
  color_eq : options.color = false

variable {options : Options} {command : Command} {args front rest : List Text} {name arg : Text}

theorem ReadFrom.new (command : Command) : (new command).ReadFrom command [] := by
  constructor <;> simp [Options.new]

theorem ReadFrom.unique {options' : Options} (h : options.ReadFrom command args)
    (h' : options'.ReadFrom command args) : options = options' := by
  cases options with
  | mk c files json parallel verbose color =>
    cases options' with
    | mk c' files' json' parallel' verbose' color' =>
      obtain ⟨rfl, rfl, hjson, hparallel, hverbose, rfl⟩ := h
      obtain ⟨rfl, rfl, hjson', hparallel', hverbose', rfl⟩ := h'
      obtain rfl : json = json' := Bool.eq_iff_iff.mpr (hjson.trans hjson'.symm)
      obtain rfl : verbose = verbose' := Bool.eq_iff_iff.mpr (hverbose.trans hverbose'.symm)
      obtain rfl : parallel = parallel' := by
        cases parallel <;> cases parallel' <;> simp_all
      rfl

/-- An argument that is none of the flags, an unknown option or the name of a file. -/
theorem addArgument_of_notMem (harg : arg ∉ flags) : options.addArgument arg =
    if IsDashed arg then .error (.unknownOption arg)
    else .ok { options with files := options.files ++ [arg] } := by
  have hother (flag : Text) (hmem : flag ∈ flags) : arg ≠ flag := fun heq => harg (heq ▸ hmem)
  rw [Options.addArgument, if_neg (hother _ (by decide)), if_neg (hother _ (by decide)),
    if_neg (not_or.mpr ⟨hother _ (by decide), hother _ (by decide)⟩)]
  rfl

/-- A flag among the arguments sets its own option and leaves the others as they are. -/
theorem ReadFrom.addFlag (h : options.ReadFrom command args) (harg : arg ∈ flags) :
    ∃ next, options.addArgument arg = .ok next ∧ next.ReadFrom command (args ++ [arg]) := by
  obtain ⟨hcommand, hfiles, hjson, hparallel, hverbose, hcolor⟩ := h
  simp only [flags, List.mem_cons, List.not_mem_nil, or_false] at harg
  rcases harg with rfl | rfl | rfl | rfl
  all_goals
    refine ⟨_, rfl, ?_⟩
    constructor <;> simp [*, IsDashed]

theorem ReadFrom.addFile (h : options.ReadFrom command args) (harg : ¬IsDashed arg) :
    ∃ next, options.addArgument arg = .ok next ∧ next.ReadFrom command (args ++ [arg]) := by
  have hnot : arg ∉ flags := mt isDashed_of_mem_flags harg
  have hkeep (flag : Text) (hflag : flag ∈ flags) : flag ∈ args ↔ flag ∈ args ++ [arg] := by
    have hne : flag ≠ arg := fun heq => hnot (heq ▸ hflag)
    simp [hne]
  refine ⟨_, (addArgument_of_notMem hnot).trans (if_neg harg), h.command_eq, ?_, ?_, ?_, ?_,
    h.color_eq⟩
  · simp [h.files_eq, harg]
  · exact h.json_iff.trans (hkeep _ (by decide))
  · exact h.parallel_iff.trans (hkeep _ (by decide))
  · exact h.verbose_iff.trans (or_congr (hkeep _ (by decide)) (hkeep _ (by decide)))

theorem addArguments_cons (options : Options) (arg : Text) (rest : List Text) :
    options.addArguments (arg :: rest) = (options.addArgument arg).bind (·.addArguments rest) := rfl

theorem addArguments_append (options : Options) (front rest : List Text) :
    options.addArguments (front ++ rest) = (options.addArguments front).bind (·.addArguments rest) := by
  induction front generalizing options with
  | nil => rfl
  | cons arg front ih =>
      rw [List.cons_append, addArguments_cons, addArguments_cons]
      cases options.addArgument arg with
      | error e => rfl
      | ok next => exact ih next

/-- Without an unknown option among them, all arguments are read. -/
theorem ReadFrom.addArguments (h : options.ReadFrom command front) (rest : List Text)
    (hknown : ∀ arg ∈ rest, ¬IsUnknown arg) :
    ∃ last, options.addArguments rest = .ok last ∧ last.ReadFrom command (front ++ rest) := by
  induction rest generalizing options front with
  | nil => exact ⟨options, rfl, by simpa using h⟩
  | cons arg rest ih =>
      rw [List.forall_mem_cons] at hknown
      have hnext : ∃ next, options.addArgument arg = .ok next ∧
          next.ReadFrom command (front ++ [arg]) := by
        by_cases hflag : arg ∈ flags
        · exact h.addFlag hflag
        · exact h.addFile fun hdash => hknown.1 ⟨hdash, hflag⟩
      obtain ⟨next, hadd, hread⟩ := hnext
      obtain ⟨last, hlast, hread⟩ := ih hread hknown.2
      refine ⟨last, ?_, by simpa using hread⟩
      rw [addArguments_cons, hadd, bind_ok, hlast]

theorem addArgument_of_unknown (harg : IsUnknown arg) :
    options.addArgument arg = .error (.unknownOption arg) :=
  (addArgument_of_notMem harg.2).trans (if_pos harg.1)

/-- Behind a word for a command, the first unknown option is reported, whether or not files are
given, and then a missing file. -/
theorem parse_of_words (hname : name ∈ command.words) (rest : List Text) :
    match rest.find? (IsUnknown ·) with
    | some arg => parse (name :: rest) = .error (.unknownOption arg)
    | none => ∃ options : Options, options.ReadFrom command rest ∧ parse (name :: rest) =
        if options.files = [] then .error (.missingFile command) else .ok options := by
  have hparse : parse (name :: rest) = ((new command).addArguments rest).bind fun options =>
      if options.files.isEmpty then .error (.missingFile command) else .ok options := by
    rw [parse, Command.ofName?_eq_some_iff.mpr hname]
    rfl
  cases hfind : rest.find? (IsUnknown ·) with
  | some arg =>
      obtain ⟨harg, front, back, rfl, hfront⟩ := List.find?_eq_some_iff_append.mp hfind
      obtain ⟨last, hlast, -⟩ := (ReadFrom.new command).addArguments front
        (by simpa using hfront)
      rw [hparse, addArguments_append, hlast, bind_ok, addArguments_cons,
        addArgument_of_unknown (by simpa using harg)]
      rfl
  | none =>
      obtain ⟨last, hlast, hread⟩ := (ReadFrom.new command).addArguments rest
        (by simpa using hfind)
      refine ⟨last, by simpa using hread, ?_⟩
      rw [hparse, hlast, bind_ok]
      simp

/-- The second list comes from the first by moving, permuting and repeating flags: both hold the
same flags, and the same other arguments in the same order. -/
structure Rearranged (args args' : List Text) : Prop where
  flags_iff : ∀ flag ∈ flags, flag ∈ args ↔ flag ∈ args'
  others_eq : args.filter (· ∉ flags) = args'.filter (· ∉ flags)

namespace Rearranged

variable {args' : List Text}

theorem filter_eq (h : Rearranged args args') {p : Text → Bool}
    (hp : ∀ arg, p arg = true → arg ∉ flags) : args.filter p = args'.filter p := by
  have hfilter (as : List Text) : as.filter p = (as.filter (· ∉ flags)).filter p := by
    rw [List.filter_filter]
    refine List.filter_congr fun arg _ => ?_
    cases hkeep : p arg with
    | true => simp [hp arg hkeep]
    | false => rfl
  rw [hfilter, h.others_eq, ← hfilter]

theorem find?_eq (h : Rearranged args args') :
    args.find? (IsUnknown ·) = args'.find? (IsUnknown ·) := by
  rw [← List.head?_filter, ← List.head?_filter, h.filter_eq]
  intro arg harg
  exact (of_decide_eq_true harg).2

theorem readFrom (h : Rearranged args args') (hread : options.ReadFrom command args) :
    options.ReadFrom command args' where
  command_eq := hread.command_eq
  files_eq := by
    rw [hread.files_eq, h.filter_eq]
    intro arg harg
    exact mt isDashed_of_mem_flags (of_decide_eq_true harg)
  json_iff := hread.json_iff.trans (h.flags_iff _ (by decide))
  parallel_iff := hread.parallel_iff.trans (h.flags_iff _ (by decide))
  verbose_iff :=
    hread.verbose_iff.trans (or_congr (h.flags_iff _ (by decide)) (h.flags_iff _ (by decide)))
  color_eq := hread.color_eq

theorem parse_eq (h : Rearranged args args') (name : Text) :
    parse (name :: args) = parse (name :: args') := by
  cases hname : Command.ofName? name with
  | none => rw [parse, parse, hname]
  | some command =>
      have hwords := Command.ofName?_eq_some_iff.mp hname
      have hargs := parse_of_words hwords args
      have hargs' := parse_of_words hwords args'
      rw [← h.find?_eq] at hargs'
      cases hfind : args.find? (IsUnknown ·) with
      | some arg =>
          rw [hfind] at hargs hargs'
          exact hargs.trans hargs'.symm
      | none =>
          rw [hfind] at hargs hargs'
          obtain ⟨options, hread, hparse⟩ := hargs
          obtain ⟨options', hread', hparse'⟩ := hargs'
          obtain rfl := (h.readFrom hread).unique hread'
          exact hparse.trans hparse'.symm

end Rearranged

/-- The options of a run are those that its arguments say, if there is nothing unknown among them
and a file is named. -/
theorem parse_eq_ok_iff : parse (name :: rest) = .ok options ↔
    ∃ command : Command, name ∈ command.words ∧ (∀ arg ∈ rest, IsDashed arg → arg ∈ flags) ∧
      (∃ arg ∈ rest, ¬IsDashed arg) ∧ options.ReadFrom command rest := by
  have hfiles {command : Command} {options : Options} (h : options.ReadFrom command rest) :
      options.files = [] ↔ ¬∃ arg ∈ rest, ¬IsDashed arg := by
    simp [h.files_eq]
  have hnone : rest.find? (IsUnknown ·) = none ↔ ∀ arg ∈ rest, IsDashed arg → arg ∈ flags := by
    simp [not_isUnknown_iff]
  cases hname : Command.ofName? name with
  | none =>
      have hnot (command : Command) : name ∉ command.words := fun h => by
        simp [Command.ofName?_eq_some_iff.mpr h] at hname
      simp [parse, hname, hnot]
  | some command =>
      have hwords := Command.ofName?_eq_some_iff.mp hname
      have hcommand {command' : Command} (h : name ∈ command'.words) : command' = command :=
        Option.some.inj ((Command.ofName?_eq_some_iff.mpr h).symm.trans hname)
      have hargs := parse_of_words hwords rest
      cases hfind : rest.find? (IsUnknown ·) with
      | some arg =>
          rw [hfind] at hargs
          rw [hargs]
          refine iff_of_false (by simp) ?_
          rintro ⟨_, -, hknown, -⟩
          simp [hnone.mpr hknown] at hfind
      | none =>
          rw [hfind] at hargs
          obtain ⟨found, hread, hparse⟩ := hargs
          rw [hparse]
          constructor
          · intro h
            split at h
            · simp at h
            · rename_i hsome
              cases h
              exact ⟨command, hwords, hnone.mp hfind, Classical.not_not.mp (mt (hfiles hread).mpr hsome),
                hread⟩
          · rintro ⟨command', hwords', -, hfile, hread'⟩
            obtain rfl := hcommand hwords'
            obtain rfl := hread'.unique hread
            exact if_neg fun hempty => (hfiles hread).mp hempty hfile

/-- The arguments are accepted exactly if the first is a word for a command, every other one that
begins with a dash is a flag, and one of them does not. Then those that do not are the files, and
each option is set if one of its flags is there. Moving, permuting and repeating flags changes
nothing. Behind a word for a command, the first unknown option is what is reported. -/
theorem parse_arguments (args : List Text) :
    ((∃ options, parse args = .ok options) ↔ ∃ name rest, args = name :: rest ∧
        (∃ command : Command, name ∈ command.words) ∧
        (∀ arg ∈ rest, IsDashed arg → arg ∈ flags) ∧ ∃ arg ∈ rest, ¬IsDashed arg) ∧
      ∀ name rest, args = name :: rest →
        (∀ options, parse args = .ok options →
          ∃ command : Command, name ∈ command.words ∧ options.ReadFrom command rest) ∧
        (∀ rest', Rearranged rest rest' → parse (name :: rest') = parse args) ∧
        ∀ front arg back, rest = front ++ arg :: back →
          (∃ command : Command, name ∈ command.words) →
          (∀ known ∈ front, ¬IsUnknown known) → IsUnknown arg →
            parse args = .error (.unknownOption arg) := by
  refine ⟨⟨?_, ?_⟩, ?_⟩
  · rintro ⟨options, h⟩
    cases args with
    | nil => simp [parse] at h
    | cons name rest =>
        obtain ⟨command, hwords, hknown, hfile, -⟩ := parse_eq_ok_iff.mp h
        exact ⟨name, rest, rfl, ⟨command, hwords⟩, hknown, hfile⟩
  · rintro ⟨name, rest, rfl, ⟨command, hwords⟩, hknown, hfile⟩
    obtain ⟨options, -, hread⟩ := (ReadFrom.new command).addArguments rest
      fun arg harg => not_isUnknown_iff.mpr (hknown arg harg)
    exact ⟨options, parse_eq_ok_iff.mpr ⟨command, hwords, hknown, hfile, by simpa using hread⟩⟩
  · rintro name rest rfl
    refine ⟨fun options h => ?_, fun rest' h => (h.parse_eq name).symm, ?_⟩
    · obtain ⟨command, hwords, -, -, hread⟩ := parse_eq_ok_iff.mp h
      exact ⟨command, hwords, hread⟩
    · rintro front arg back rfl ⟨command, hwords⟩ hfront harg
      have hargs := parse_of_words hwords (front ++ arg :: back)
      have hfind : (front ++ arg :: back).find? (IsUnknown ·) = some arg :=
        List.find?_eq_some_iff_append.mpr ⟨by simpa using harg, front, back, rfl, by
          simpa using hfront⟩
      rwa [hfind] at hargs

/-- Flags moved and repeated among two files, one of which has an empty name, and a single dash,
which is an unknown option. -/
theorem parse_arguments_empty_name :
    (∃ options, parse ["lex".toList, "-v".toList, "a".toList, "--json".toList, []] = .ok options ∧
      options.files = ["a".toList, []] ∧ options.json = true ∧
      parse ["lex".toList, "--json".toList, "--json".toList, "a".toList, [], "-v".toList] =
        .ok options) ∧
      parse ["lex".toList, "-v".toList, "-".toList, "--fast".toList] =
        .error (.unknownOption "-".toList) := by
  have hargs := parse_arguments ["lex".toList, "-v".toList, "a".toList, "--json".toList, []]
  obtain ⟨options, hparse⟩ := hargs.1.mpr
    ⟨_, _, rfl, ⟨.tokenize, by decide⟩, by decide, [], by decide, by decide⟩
  obtain ⟨hread, hmoved, -⟩ := hargs.2 _ _ rfl
  obtain ⟨command, -, hread⟩ := hread options hparse
  refine ⟨⟨options, hparse, hread.files_eq, hread.json_iff.mpr (by decide), ?_⟩, ?_⟩
  · rw [hmoved _ ⟨by decide, by decide⟩, hparse]
  · obtain ⟨-, -, hunknown⟩ :=
      (parse_arguments ["lex".toList, "-v".toList, "-".toList, "--fast".toList]).2 _ _ rfl
    exact hunknown ["-v".toList] _ _ rfl ⟨.tokenize, by decide⟩ (by decide) (by decide)

end Options

end RuleLexer
