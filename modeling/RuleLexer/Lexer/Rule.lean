import RuleLexer.Lexer.Basic
import RuleLexer.Pattern.Anchored

/-!
# Rules

A rule takes a lexer to the next one. Rules that read text run one matcher of the window; compound
rules apply others. Whatever a compound rule tried before it failed is dropped: it answers with
the lexer that it was given, failed.
-/

namespace RuleLexer

structure Rule (K : Type) where
  name : Option Text
  apply : Lexer K → Except Fault (Lexer K)

namespace Rule

variable {K : Type}

def of (apply : Lexer K → Except Fault (Lexer K)) : Rule K := ⟨none, apply⟩

/-- Applies the rule to the start of a source. -/
def tokenize (r : Rule K) (source : Source) : Except Fault (Lexer K) := r.apply (Lexer.start source)

def debug (r : Rule K) : Text :=
  "Rule(".toList ++ r.name.getD "<anonymous>".toList ++ ")".toList

/-- Exactly the text. An empty text never matches. -/
def text (literal : Text) (kind : K) : Rule K :=
  of fun l => l.matchSpan (·.literal? literal) kind

def char (c : Char) (kind : K) : Rule K :=
  of fun l => l.matchSpan (·.char? c) kind

/-- The longest run of characters that satisfy the predicate, which is not empty. -/
def run (p : Char → Bool) (kind : K) : Rule K :=
  of fun l => l.matchSpan (·.run? p) kind

def spaces (kind : K) : Rule K := run (fun c => c == ' ' || c == '\t') kind

/-- A match of the pattern at the start of the current line, which is not empty. -/
def pattern (p : Anchored) (kind : K) : Rule K :=
  of fun l => l.matchSpan (·.lineMatch? p.prefixLength) kind

/-- Nothing, once all input has been read. -/
def eof : Rule K := of fun l => .ok (if l.isDone then l else l.fail)

/-- `first`, then `second` on its result. -/
def sequence (first second : Rule K) : Rule K :=
  of fun l => do
    let next ← first.apply l
    if next.failed then return l.fail
    let next ← second.apply next
    if next.failed then return l.fail
    return next

/-- `first`, or `second` from the same place if `first` fails. -/
def choice (first second : Rule K) : Rule K :=
  of fun l => do
    let next ← first.apply l
    if next.failed then second.apply l else return next

/-- Applies the rules one after another to `next`, and answers with `origin`, failed, if one of
them fails. -/
def applyAll (origin : Lexer K) : List (Rule K) → Lexer K → Except Fault (Lexer K)
  | [], next => .ok next
  | r :: rest, current => do
      let next ← r.apply current
      if next.failed then return origin.fail else applyAll origin rest next

def seq (rules : List (Rule K)) : Rule K := of fun l => applyAll l rules l

/-- Applies the first of the rules that succeeds. -/
def applyFirst (l : Lexer K) : List (Rule K) → Except Fault (Lexer K)
  | [] => .ok l.fail
  | r :: rest => do
      let next ← r.apply l
      if next.failed then applyFirst l rest else return next

/-- The first of the rules that succeeds. -/
def oneOf (rules : List (Rule K)) : Rule K := of fun l => applyFirst l rules

/-- A line feed, which a carriage return may precede. -/
def newline (kind : K) : Rule K := oneOf [char '\n' kind, text ['\r', '\n'] kind]

/-- The end of the input or of a line. -/
def eol (kind : K) : Rule K := oneOf [eof, newline kind]

/-- The rule, or nothing if it fails. -/
def option (r : Rule K) : Rule K :=
  of fun l => do
    let next ← r.apply l
    if next.failed then return l else return next

/-- Nothing, where the rule would fail. -/
def not (r : Rule K) : Rule K :=
  of fun l => do
    if l.failed then return l.fail
    let next ← r.apply l
    if next.failed then return l else return l.fail

def named (name : Text) (r : Rule K) : Rule K := ⟨some name, r.apply⟩

end Rule

end RuleLexer
