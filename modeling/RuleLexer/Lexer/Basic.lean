import RuleLexer.Text.Window

/-!
# Lexers

A lexer is the window still to be read, the tokens produced so far and a state. `matchSpan` is its
only step: a matcher looks at the window, and what it finds becomes a token. A lexer that has
failed keeps its window and its tokens.
-/

namespace RuleLexer

inductive State where
  /-- Input remains and the last step succeeded, or nothing ran yet. -/
  | matching
  /-- All input has been read. -/
  | done
  | noMatch
  deriving DecidableEq, Repr

namespace State

def display : State → Text
  | matching => "match".toList
  | done => "done".toList
  | noMatch => "no match".toList

def debug : State → Text
  | matching => "Match".toList
  | done => "Done".toList
  | noMatch => "NoMatch".toList

/-- What a run that ends in this state says about the input. -/
def verdict : State → Text
  | matching => "unexpected input".toList
  | done => "accepted".toList
  | noMatch => "no rule matched".toList

end State

/-- A classified span of a source. -/
structure Token (K : Type) where
  span : Span
  kind : K
  deriving DecidableEq, Repr

/-- The text of a token of the source. -/
def Token.text {K : Type} (token : Token K) (source : Source) : Text := source.slice token.span

def Token.debug {K : Type} (showKind : K → Text) (source : Source) (token : Token K) : Text :=
  token.span.display ++ " \x7b".toList ++ Text.quote (token.text source) ++ "\x7d, ".toList
    ++ showKind token.kind

/-- Where and how a run left off that did not read all of its input. -/
structure Rejection where
  state : State
  offset : Nat
  line : Nat
  column : Nat
  deriving DecidableEq, Repr

def Rejection.message (r : Rejection) : Text :=
  r.state.verdict ++ " at ".toList ++ decimal r.line ++ ":".toList ++ decimal r.column

/-- A stack of tokens, which keeps their number. -/
structure TokenStack (K : Type) where
  /-- The tokens, the latest first. -/
  newest : List (Token K)
  count : Nat
  count_eq : count = newest.length

namespace TokenStack

variable {K : Type}

def empty : TokenStack K := ⟨[], 0, rfl⟩

def push (stack : TokenStack K) (token : Token K) : TokenStack K where
  newest := token :: stack.newest
  count := stack.count + 1
  count_eq := congrArg (· + 1) stack.count_eq

def last? (stack : TokenStack K) : Option (Token K) := stack.newest.head?

/-- The tokens in the order in which they were pushed. -/
def toList (stack : TokenStack K) : List (Token K) := stack.newest.reverse

@[simp] theorem toList_empty : (empty : TokenStack K).toList = [] := rfl

@[simp] theorem toList_push (stack : TokenStack K) (token : Token K) :
    (stack.push token).toList = stack.toList ++ [token] :=
  List.reverse_cons

@[simp] theorem length_toList (stack : TokenStack K) : stack.toList.length = stack.count :=
  List.length_reverse.trans stack.count_eq.symm

end TokenStack

structure Lexer (K : Type) where
  remaining : Window
  stack : TokenStack K
  state : State

namespace Lexer

variable {K : Type}

def start (source : Source) : Lexer K :=
  ⟨Window.full source, .empty, if source.isEmpty then .done else .matching⟩

def source (l : Lexer K) : Source := l.remaining.source

/-- The byte offset of the first character that has not been read. -/
def position (l : Lexer K) : Nat := l.remaining.start

/-- The tokens in the order in which they were produced. -/
def tokens (l : Lexer K) : List (Token K) := l.stack.toList

def tokenCount (l : Lexer K) : Nat := l.stack.count

def lastToken? (l : Lexer K) : Option (Token K) := l.stack.last?

def failed (l : Lexer K) : Bool := l.state == .noMatch

def isDone (l : Lexer K) : Bool := l.state == .done

/-- The number of bytes that have not been read. -/
def bytesLeft (l : Lexer K) : Nat := l.remaining.span.stop - l.remaining.span.start

def fail (l : Lexer K) : Lexer K := { l with state := .noMatch }

/-- Reads the span, which must be at the start of the window, as a token of this kind. -/
def take (l : Lexer K) (span : Span) (kind : K) : Except Fault (Lexer K) :=
  if span.start = l.remaining.span.start ∧ l.remaining.span.contains span then do
    let n ← span.len
    let remaining ← l.remaining.trimStart n
    return ⟨remaining, l.stack.push ⟨span, kind⟩,
      if remaining.isEmpty then .done else .matching⟩
  else .error (.strayMatch span l.remaining.span)

/-- Runs a matcher on the window. A match that is not empty becomes a token; without one the lexer
fails. A lexer that has failed stays as it is. -/
def matchSpan (l : Lexer K) (matcher : Window → Option Span) (kind : K) :
    Except Fault (Lexer K) :=
  if l.failed then .ok l
  else match matcher l.remaining with
    | some span => if span.isEmpty then .ok l.fail else l.take span kind
    | none => .ok l.fail

/-- The rejection of a lexer that stops where it stands. -/
def rejection (l : Lexer K) : Rejection :=
  let (line, column) := l.source.lineCol l.position
  ⟨l.state, l.position, line, column⟩

/-- The tokens of a run that has read all of its input. -/
def accepted (l : Lexer K) : Except Rejection (List (Token K)) :=
  if l.isDone then .ok l.tokens else .error l.rejection

/-- Two lexers stand at the same place of the same text, in the same state and with the same
tokens. -/
def same [DecidableEq K] (a b : Lexer K) : Bool :=
  decide (a.source.text = b.source.text) && decide (a.remaining.span = b.remaining.span)
    && decide (a.state = b.state) && decide (a.tokenCount = b.tokenCount)
    && decide (a.tokens = b.tokens)

/-- The state, the number of tokens and the window, as fields. -/
def debug (l : Lexer K) : Text :=
  "Lexer \x7b state: ".toList ++ l.state.debug ++ ", tokens: ".toList ++ decimal l.tokenCount
    ++ ", remaining: ".toList ++ l.remaining.debug ++ " \x7d".toList

end Lexer

end RuleLexer
