import RuleLexer.Pattern.Regex

/-!
# Patterns

The tree of a written pattern. Flags are worked into the tree where they apply, so it holds only
what is matched. The tree keeps the groups and counted repetitions as written, since the nesting
limit is about them; the size limit is about the automaton that it stands for.
-/

namespace RuleLexer

inductive Pattern where
  /-- Nothing, or a place where flags are set. -/
  | empty
  /-- One character of the set, written with `nest` brackets or unions inside one another. -/
  | set (s : CharSet) (nest : Nat)
  | assert (a : Assertion)
  | repeated (p : Pattern) (min : Nat) (max : Option Nat) (greedy : Bool)
  | group (p : Pattern)
  /-- A sequence of pieces ends in `q`, unless `q` continues it. -/
  | cat (p q : Pattern)
  /-- A choice of branches ends in `q`, unless `q` continues it. -/
  | alt (p q : Pattern)
  deriving DecidableEq, Repr

namespace Pattern

/-- Why a pattern is refused. -/
inductive Error where
  | groupUnclosed
  | groupUnopened
  | groupName
  | lookAround
  | flags
  | classUnclosed
  | classRange
  | classMember
  | repetitionMissing
  | repetitionCount
  | escape
  | property
  /-- Without Unicode classes, the pattern could match a part of a character. -/
  | notText
  | tooDeep
  | tooLarge
  deriving DecidableEq, Repr

/-- The limits on a pattern: the size of its automaton in bytes and the depth of its tree. The
memory that a search may take is none of them, since it has no bearing on what is found. -/
structure Limits where
  size : Nat
  nest : Nat
  deriving DecidableEq, Repr

def Limits.standard : Limits := ⟨1048576, 128⟩

def sequence : List Pattern → Pattern
  | [] => empty
  | [p] => p
  | p :: rest => cat p (sequence rest)

def choice : List Pattern → Pattern
  | [] => empty
  | [p] => p
  | p :: rest => alt p (choice rest)

/-- The tree that a subtree continues. -/
inductive Joint where
  | none
  | cat
  | alt
  deriving DecidableEq

/-- The number of nodes with content inside one another; a sequence or a choice of any number of
parts is one node. -/
def depthWithin : Joint → Pattern → Nat
  | _, empty => 0
  | _, set _ nest => nest
  | _, assert _ => 0
  | _, repeated p _ _ _ => 1 + depthWithin .none p
  | _, group p => 1 + depthWithin .none p
  | joint, cat p q =>
      (if joint = .cat then 0 else 1) + max (depthWithin .none p) (depthWithin .cat q)
  | joint, alt p q =>
      (if joint = .alt then 0 else 1) + max (depthWithin .none p) (depthWithin .alt q)

def depth (p : Pattern) : Nat := depthWithin .none p

/-- The pattern can match the empty text only. -/
def readsNothing : Pattern → Bool
  | empty => true
  | set _ _ => false
  | assert _ => true
  | repeated p _ max _ => max == some 0 || p.readsNothing
  | group p => p.readsNothing
  | cat p q => p.readsNothing && q.readsNothing
  | alt p q => p.readsNothing && q.readsNothing

/-- The bounds that count for a repetition: what reads nothing is repeated at most once. -/
def bounds (p : Pattern) (min : Nat) (max : Option Nat) : Nat × Option Nat :=
  if p.readsNothing then (Nat.min min 1, some (Nat.min (max.getD 1) 1)) else (min, max)

/-- The bytes of a state of the automaton. -/
def stateSize : Nat := 32

/-- The approximate size of the automaton in bytes. -/
def size : Pattern → Nat
  | empty => 0
  | set s _ => stateSize + 2 * stateSize * (s.rangeCount - 1)
  | assert _ => stateSize
  | repeated p min max _ =>
      match p.bounds min max with
      | (min, none) => Nat.max 1 min * p.size + stateSize
      | (_, some max) => max * (p.size + stateSize)
  | group p => p.size
  | cat p q => p.size + q.size
  | alt p q => p.size + q.size + stateSize

/-- The size of the automaton of any pattern: its frame and its parts. -/
def totalSize (p : Pattern) : Nat := 8 * stateSize + p.size

def toRegex : Pattern → Regex
  | empty => .empty
  | set s _ => .set s
  | assert a => .assert a
  | repeated p min max greedy =>
      let (min, max) := p.bounds min max
      .repeated greedy min max p.toRegex
  | group p => p.toRegex
  | cat p q => .cat p.toRegex q.toRegex
  | alt p q => .alt p.toRegex q.toRegex

def limitTo (limits : Limits) (p : Pattern) : Except Error Pattern :=
  if limits.nest < p.depth then .error .tooDeep
  else if limits.size < p.totalSize then .error .tooLarge
  else .ok p

end Pattern

end RuleLexer
