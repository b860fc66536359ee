import RuleLexer.Pattern.Regex

/-!
# Preferred matches

The preferred match of an expression is found in one pass over the text from its end to its start.
At each position the pass knows, for every set in the expression, how far the preferred match
reaches once a character of the set has been read up to that position; this is the expression's
`Column` there. A choice takes its first branch that leads to a match at all, so the match found
is the one a search with backtracking would find first, in time proportional to the text.

`Reach` sums up what an expression can do at one position, in order of preference: the matches
that read something and are preferred to reading nothing, whether nothing may be read, and the
matches that read something and come after that.
-/

namespace RuleLexer

namespace Regex

/-- For every set in an expression, how many bytes the preferred match still reads after a
character of that set. -/
def Column : Regex → Type
  | set _ => Option Nat
  | cat p q => Column p × Column q
  | alt p q => Column p × Column q
  | plus _ p => Column p
  | empty => Unit
  | assert _ => Unit

/-- The column at the far side of the end of the text, where nothing can be read. -/
def Column.blank : (r : Regex) → Column r
  | set _ => (none : Option Nat)
  | cat p q => (blank p, blank q)
  | alt p q => (blank p, blank q)
  | plus _ p => blank p
  | empty => ()
  | assert _ => ()

structure Reach where
  /-- The preferred match that reads something and is preferred to reading nothing. -/
  first : Option Nat
  /-- Nothing may be read. -/
  nothing : Bool
  /-- The preferred match that reads something and comes after reading nothing. -/
  last : Option Nat
  deriving DecidableEq, Repr

namespace Reach

/-- The preferred match when reading nothing leads to `k`. -/
def followedBy (reach : Reach) (k : Option Nat) : Option Nat :=
  reach.first <|> (if reach.nothing then k else none) <|> reach.last

/-- The preferred match among those that read something. -/
def progress (reach : Reach) : Option Nat := reach.first <|> reach.last

/-- First `a`, which may read nothing, and then `b`. -/
def cat (a b : Reach) : Reach :=
  if b.nothing then ⟨a.first <|> b.first, true, b.last <|> a.last⟩
  else ⟨a.first <|> b.progress <|> a.last, false, none⟩

def alt (a b : Reach) : Reach :=
  if a.nothing then ⟨a.first, true, a.last <|> b.progress⟩
  else ⟨a.progress <|> b.first, b.nothing, b.last⟩

end Reach

/-- What an expression can do at a position, given the column at the next one. -/
def reach : (r : Regex) → Surround → Column r → Reach
  | empty, _, _ => ⟨none, true, none⟩
  | set s, here, after =>
      match here.after with
      | some c => ⟨if s.mem c then (after : Option Nat).map (c.utf8Size + ·) else none, false, none⟩
      | none => ⟨none, false, none⟩
  | assert a, here, _ => ⟨none, a.holds here, none⟩
  | cat p q, here, next =>
      let a := reach p here next.1
      if a.nothing then a.cat (reach q here next.2) else ⟨a.progress, false, none⟩
  | alt p q, here, next => (reach p here next.1).alt (reach q here next.2)
  | plus _ p, here, next => reach p here next

/-- The column at a position, given the column at the next one, when the match of the whole
expression is followed by one of length `k`. -/
def column : (r : Regex) → Surround → Column r → Option Nat → Column r
  | empty, _, _, _ => ()
  | set _, _, _, k => k
  | assert _, _, _, _ => ()
  | cat p q, here, next, k =>
      (column p here next.1 ((reach q here next.2).followedBy k), column q here next.2 k)
  | alt p q, here, next, k => (column p here next.1 k, column q here next.2 k)
  | plus greedy p, here, next, k =>
      let again := (reach p here next).progress
      column p here next (if greedy then again <|> k else k <|> again)

/-- Both at once: what an expression can do at a position, and its column there for every length of
what follows. Each part of the expression is looked at once. -/
def step : (r : Regex) → Surround → Column r → Reach × (Option Nat → Column r)
  | empty, here, next => (reach empty here next, fun _ => ())
  | set s, here, next => (reach (set s) here next, fun k => k)
  | assert a, here, next => (reach (assert a) here next, fun _ => ())
  | cat p q, here, next =>
      let (a, left) := step p here next.1
      let (b, right) := step q here next.2
      (if a.nothing then a.cat b else ⟨a.progress, false, none⟩,
        fun k => (left (b.followedBy k), right k))
  | alt p q, here, next =>
      let (a, left) := step p here next.1
      let (b, right) := step q here next.2
      (a.alt b, fun k => (left k, right k))
  | plus greedy p, here, next =>
      let (a, inner) := step p here next
      (a, fun k => inner (if greedy then a.progress <|> k else k <|> a.progress))

theorem step_eq (r : Regex) (here : Surround) (next : Column r) :
    step r here next = (reach r here next, column r here next) := by
  induction r with
  | empty => rfl
  | set s => rfl
  | assert a => rfl
  | cat p q ihp ihq => simp only [step, ihp, ihq]; rfl
  | alt p q ihp ihq => simp only [step, ihp, ihq]; rfl
  | plus greedy p ih =>
      have h : step p here next = (reach p here next, column p here next) := ih next
      simp only [step, h]
      rfl

/-- The columns of `r` along a text that follows the character `before`: the column at its start,
and the match to which the leftmost start leads, as the bytes skipped before it and its length. -/
def scan (r : Regex) (before : Option Char) : Text → Column r × Option (Nat × Nat)
  | [] =>
      let (reach, column) := step r ⟨before, none⟩ (Column.blank r)
      (column (some 0), (reach.followedBy (some 0)).map (0, ·))
  | c :: rest =>
      let next := scan r (some c) rest
      let (reach, column) := step r ⟨before, some c⟩ next.1
      (column (some 0),
        match reach.followedBy (some 0) with
        | some length => some (0, length)
        | none => next.2.map fun found => (c.utf8Size + found.1, found.2))

theorem scan_nil (r : Regex) (before : Option Char) :
    scan r before [] = (column r ⟨before, none⟩ (Column.blank r) (some 0),
      ((reach r ⟨before, none⟩ (Column.blank r)).followedBy (some 0)).map (0, ·)) := by
  simp only [scan, step_eq]

theorem scan_cons (r : Regex) (before : Option Char) (c : Char) (rest : Text) :
    scan r before (c :: rest) =
      (column r ⟨before, some c⟩ (scan r (some c) rest).1 (some 0),
        match (reach r ⟨before, some c⟩ (scan r (some c) rest).1).followedBy (some 0) with
        | some length => some (0, length)
        | none => (scan r (some c) rest).2.map fun found => (c.utf8Size + found.1, found.2)) := by
  simp only [scan, step_eq]

/-- The leftmost match in a text: the bytes before it and its length. -/
def find? (r : Regex) (text : Text) : Option (Nat × Nat) := (scan r none text).2

end Regex

end RuleLexer
