import RuleLexer.Pattern.Brackets

/-!
# Reading a pattern

A pattern is read from left to right. The groups that are open around the current place are kept
on a stack of levels; a level holds the branches of a choice that are complete and the pieces of
the branch that is under way.
-/

namespace RuleLexer.Pattern

namespace Parser

/-- A piece of a sequence: something to match, or a setting of flags. -/
inductive Piece where
  | tree (p : Pattern)
  | setting
  deriving DecidableEq, Repr

def Piece.toPattern : Piece → Pattern
  | tree p => p
  | setting => .empty

/-- What has been read at one level of groups, the latest first. -/
structure Level where
  branches : List Pattern
  pieces : List Piece
  deriving DecidableEq, Repr

namespace Level

def start : Level := ⟨[], []⟩

def push (level : Level) (p : Pattern) : Level :=
  { level with pieces := .tree p :: level.pieces }

def branch (level : Level) : Pattern := sequence (level.pieces.reverse.map Piece.toPattern)

def nextBranch (level : Level) : Level := ⟨level.branch :: level.branches, []⟩

def finish (level : Level) : Pattern := choice (level.branch :: level.branches).reverse

end Level

/-- A place within a pattern: the flags in force, the level, and for each group that is open the
flags and the level around it. -/
structure State where
  flags : Flags
  level : Level
  outer : List (Flags × Level)
  names : List Text
  deriving DecidableEq, Repr

namespace State

def start : State := ⟨.standard, .start, [], []⟩

def push (st : State) (p : Pattern) : State := { st with level := st.level.push p }

def enter (st : State) (flags : Flags) : State :=
  { st with flags := flags, level := .start, outer := (st.flags, st.level) :: st.outer }

def close (st : State) : Except Error State :=
  match st.outer with
  | [] => .error .groupUnopened
  | (flags, level) :: outer =>
      .ok { st with flags := flags, level := level.push (.group st.level.finish), outer := outer }

end State

def isNameChar (isFirst : Bool) (c : Char) : Bool :=
  c == '_' || Text.isLetter c
    || (!isFirst && (c == '.' || c == '[' || c == ']' || Text.isNumeral c))

/-- The name of a group up to its closing bracket. -/
def groupName (name : Text) : Text → Except Error (Text × Text)
  | [] => .error .groupName
  | c :: rest =>
      if c = '>' then
        if name.isEmpty then .error .groupName else .ok (name.reverse, rest)
      else if isNameChar name.isEmpty c then groupName (c :: name) rest
      else .error .groupName

/-- A group that has a name, behind the bracket that opens the name. -/
def namedGroup (st : State) (text : Text) : Except Error (State × Text) := do
  let (name, rest) ← groupName [] text
  if st.names.contains name then .error .groupName
  else return ({ st with names := name :: st.names }.enter st.flags, rest)

/-- A group or a setting of flags, behind the bracket that opens it. -/
def openGroup (st : State) (text : Text) : Except Error (State × Text) := do
  match st.flags.skip text with
  | '?' :: '=' :: _ => .error .lookAround
  | '?' :: '!' :: _ => .error .lookAround
  | '?' :: '<' :: '=' :: _ => .error .lookAround
  | '?' :: '<' :: '!' :: _ => .error .lookAround
  | '?' :: 'P' :: '<' :: rest => namedGroup st rest
  | '?' :: '<' :: rest => namedGroup st rest
  | '?' :: rest =>
      let (flags, after) ← st.flags.read true [] rest
      match after with
      | ':' :: after => return (st.enter flags, after)
      | _ :: after =>
          if after.length + 1 = rest.length then .error .repetitionMissing
          else
            let level := { st.level with pieces := .setting :: st.level.pieces }
            return ({ st with flags := flags, level := level }, after)
      | [] => .error .groupUnclosed
  | rest => return (st.enter st.flags, rest)

def repeatLast (st : State) (min : Nat) (max : Option Nat) (greedy : Bool) :
    Except Error State :=
  match st.level.pieces with
  | .tree p :: pieces =>
      let p := .repeated p min max (greedy != st.flags.swapGreed)
      .ok { st with level := { st.level with pieces := .tree p :: pieces } }
  | _ => .error .repetitionMissing

/-- A question mark behind a repetition makes it lazy. -/
def greedyMark (text : Text) : Bool × Text :=
  match text with
  | '?' :: rest => (false, rest)
  | _ => (true, text)

def maxCount : Nat := 4294967295

/-- The decimal digits of a count, at most `fuel` of them. -/
def digits (flags : Flags) (acc : List Nat) : Nat → Text → List Nat × Text
  | 0, text => (acc.reverse, text)
  | fuel + 1, text =>
      match text with
      | [] => (acc.reverse, [])
      | c :: rest =>
          if '0' ≤ c ∧ c ≤ '9' then
            digits flags ((c.toNat - '0'.toNat) :: acc) fuel (flags.skip rest)
          else (acc.reverse, c :: rest)

/-- A count in decimal, with white space around it. -/
def count (flags : Flags) (text : Text) : Except Error (Nat × Text) :=
  let (ds, rest) := digits flags [] text.length (Text.trimStart text)
  let n := ds.foldl (10 * · + ·) 0
  if ds.isEmpty || decide (maxCount < n) then .error .repetitionCount
  else .ok (n, Text.trimStart rest)

/-- The bounds of a counted repetition behind its opening brace. -/
def counts (flags : Flags) (text : Text) : Except Error ((Nat × Option Nat) × Text) := do
  let (min, rest) ← count flags (flags.skip text)
  match rest with
  | '\x7d' :: rest => return ((min, some min), rest)
  | ',' :: rest =>
      match flags.skip rest with
      | '\x7d' :: rest => return ((min, none), rest)
      | rest =>
          let (max, rest) ← count flags rest
          match rest with
          | '\x7d' :: rest =>
              if min ≤ max then return ((min, some max), rest) else .error .repetitionCount
          | _ => .error .repetitionCount
  | _ => .error .repetitionCount

def elementPattern (flags : Flags) : Element → Except Error Pattern
  | .literal c asByte =>
      if asByte && !flags.unicode && decide (127 < c.toNat) then .error .notText
      else .ok (.set (flags.literal c) 0)
  | .named s => .ok (.set s 0)
  | .assert a => .ok (.assert a)

/-- One step: reads what `c` begins. -/
def step (properties : Properties) (st : State) (c : Char) (rest : Text) :
    Except Error (State × Text) := do
  match c with
  | '(' => openGroup st rest
  | ')' => return (← st.close, rest)
  | '|' => return ({ st with level := st.level.nextBranch }, rest)
  | '[' =>
      let (inner, rest) ← Brackets.read properties st.flags rest
      return (st.push (.set inner.set inner.depth), rest)
  | '?' =>
      let (greedy, rest) := greedyMark rest
      return (← repeatLast st 0 (some 1) greedy, rest)
  | '*' =>
      let (greedy, rest) := greedyMark rest
      return (← repeatLast st 0 none greedy, rest)
  | '+' =>
      let (greedy, rest) := greedyMark rest
      return (← repeatLast st 1 none greedy, rest)
  | '\x7b' =>
      let ((min, max), rest) ← counts st.flags rest
      let (greedy, rest) := greedyMark (st.flags.skip rest)
      return (← repeatLast st min max greedy, rest)
  | '\\' =>
      let (element, rest) ← Escape.read properties st.flags rest
      return (st.push (← elementPattern st.flags element), rest)
  | '.' => return (st.push (.set (← st.flags.dot) 0), rest)
  | '^' => return (st.push (.assert st.flags.startAnchor), rest)
  | '$' => return (st.push (.assert st.flags.endAnchor), rest)
  | c => return (st.push (.set (st.flags.literal c) 0), rest)

/-- Reads to the end of the pattern, in at most `fuel` steps. -/
def readFrom (properties : Properties) : Nat → State → Text → Except Error State
  | 0, _, _ => .error .groupUnclosed
  | fuel + 1, st, text =>
      match st.flags.skip text with
      | [] => .ok st
      | c :: rest => do
          let (st, rest) ← step properties st c rest
          readFrom properties fuel st rest

end Parser

def parse (properties : Properties) (text : Text) : Except Error Pattern := do
  let st ← Parser.readFrom properties (text.length + 1) .start text
  if st.outer.isEmpty then return st.level.finish else .error .groupUnclosed

end RuleLexer.Pattern
