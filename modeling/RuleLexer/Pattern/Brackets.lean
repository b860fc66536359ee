import RuleLexer.Pattern.Escape

/-!
# Bracketed classes

A class in brackets lists characters, ranges, named classes and further classes, and may combine
them by set operations. The classes that are open around the current place are kept on a stack.
-/

namespace RuleLexer.Pattern

namespace Brackets

/-- A set and the depth of its written form. -/
structure Nested where
  set : CharSet
  depth : Nat
  deriving DecidableEq, Repr

inductive Operator where
  | inter
  | diff
  | symmDiff
  deriving DecidableEq, Repr

/-- A class that is open: whether it is a complement, the left operand of a set operation that is
under way, and the members listed since, the latest first. -/
structure Frame where
  negated : Bool
  left : Option (Operator × Nested)
  items : List Nested
  deriving DecidableEq, Repr

def unionOf (items : List Nested) : Nested :=
  match items with
  | [] => ⟨.none, 0⟩
  | [item] => item
  | _ => ⟨.unions (items.map (·.set)), 1 + (items.map (·.depth)).foldl max 0⟩

/-- The class so far: the members listed since the last operator, combined with what is to its
left. -/
def operand (flags : Flags) (frame : Frame) : Nested :=
  let right := unionOf frame.items.reverse
  match frame.left with
  | none => right
  | some (operator, left) =>
      let a := flags.foldCase left.set
      let b := flags.foldCase right.set
      let set := match operator with
        | .inter => CharSet.inter a b
        | .diff => CharSet.diff a b
        | .symmDiff => CharSet.symmDiff a b
      ⟨set, 1 + max left.depth right.depth⟩

/-- The class of a frame that is closed. -/
def close (flags : Flags) (frame : Frame) : Except Error Nested := do
  let inner := operand flags frame
  return ⟨← flags.complement frame.negated (flags.foldCase inner.set), 1 + inner.depth⟩

/-- The dashes at the start of a class, at most `fuel` of them, each a member by itself. -/
def dashes (flags : Flags) (items : List Nested) :
    Nat → Text → Except Error (List Nested × Text)
  | 0, _ => .error .classUnclosed
  | fuel + 1, text =>
      match flags.skip text with
      | [] => .error .classUnclosed
      | c :: rest =>
          if c = '-' then dashes flags (⟨.single '-', 0⟩ :: items) fuel rest
          else .ok (items, c :: rest)

/-- The start of a class behind its opening bracket: a mark of complement, dashes, and a closing
bracket that is a member because nothing stands before it. -/
def opening (flags : Flags) (text : Text) : Except Error (Frame × Text) := do
  match flags.skip text with
  | [] => .error .classUnclosed
  | c :: rest =>
      let negated := c == '^'
      let (items, rest) ← dashes flags [] (text.length + 1) (if negated then rest else c :: rest)
      match rest with
      | ']' :: after =>
          if items.isEmpty then
            match flags.skip after with
            | [] => .error .classUnclosed
            | after => return (⟨negated, none, [⟨.single ']', 0⟩]⟩, after)
          else return (⟨negated, none, items⟩, rest)
      | _ => return (⟨negated, none, items⟩, rest)

/-- A named ASCII class behind its opening bracket, such as `:alpha:]`, if there is one. -/
def asciiNamed? (text : Text) : Option (Bool × CharSet × Text) :=
  match text with
  | ':' :: rest =>
      let (negated, rest) := match rest with
        | '^' :: rest => (true, rest)
        | _ => (false, rest)
      let name := rest.takeWhile (· ≠ ':')
      match rest.dropWhile (· ≠ ':') with
      | ':' :: ']' :: rest => (CharSet.asciiClass? name).map fun s => (negated, s, rest)
      | _ => none
  | _ => none

/-- A member of a class: a character or an escape. -/
def member (properties : Properties) (flags : Flags) : Text → Except Error (Element × Text)
  | [] => .error .classUnclosed
  | c :: rest =>
      if c = '\\' then Escape.read properties flags rest else .ok (.literal c false, rest)

/-- The character that a member stands for. Without Unicode classes it is a single byte, which is a
character by itself. -/
def memberChar (flags : Flags) : Element → Except Error Char
  | .literal c _ => if !flags.unicode && decide (127 < c.toNat) then .error .notText else .ok c
  | _ => .error .classRange

/-- A member by itself, or a range from it to another member. -/
def memberOrRange (properties : Properties) (flags : Flags) (text : Text) :
    Except Error (CharSet × Text) := do
  let (low, rest) ← member properties flags text
  let rest := flags.skip rest
  let alone : Except Error (CharSet × Text) :=
    match low with
    | .literal _ _ => return (.single (← memberChar flags low), rest)
    | .named s => return (s, rest)
    | .assert _ => .error .classMember
  match rest with
  | [] => .error .classUnclosed
  | '-' :: after =>
      if flags.peek after = some ']' ∨ flags.peek after = some '-' then alone
      else
        let next := flags.skip after
        if next.isEmpty then .error .classUnclosed
        else
          let (high, rest) ← member properties flags next
          let a ← memberChar flags low
          let b ← memberChar flags high
          if a ≤ b then return (.range a b, rest) else .error .classRange
  | _ => alone

/-- Ends the operand before an operator. -/
def operate (flags : Flags) (operator : Operator) (frame : Frame) : Frame :=
  { frame with left := some (operator, operand flags frame), items := [] }

/-- Reads to the end of the outermost class, in at most `fuel` steps. -/
def readFrom (properties : Properties) (flags : Flags) (frame : Frame) (outer : List Frame) :
    Nat → Text → Except Error (Nested × Text)
  | 0, _ => .error .classUnclosed
  | fuel + 1, text =>
      let add (item : Nested) (rest : Text) :=
        readFrom properties flags { frame with items := item :: frame.items } outer fuel rest
      match flags.skip text with
      | [] => .error .classUnclosed
      | '[' :: rest =>
          match asciiNamed? rest with
          | some (negated, s, rest) => do
              add ⟨← flags.complement negated (flags.foldCase s), 0⟩ rest
          | none => do
              let (inner, rest) ← opening flags rest
              readFrom properties flags inner (frame :: outer) fuel rest
      | ']' :: rest => do
          let closed ← close flags frame
          match outer with
          | [] => return (closed, rest)
          | parent :: outer =>
              let parent := { parent with items := closed :: parent.items }
              readFrom properties flags parent outer fuel rest
      | '&' :: '&' :: rest =>
          readFrom properties flags (operate flags .inter frame) outer fuel rest
      | '-' :: '-' :: rest =>
          readFrom properties flags (operate flags .diff frame) outer fuel rest
      | '~' :: '~' :: rest =>
          readFrom properties flags (operate flags .symmDiff frame) outer fuel rest
      | text => do
          let (s, rest) ← memberOrRange properties flags text
          add ⟨s, 0⟩ rest

/-- The class behind an opening bracket. -/
def read (properties : Properties) (flags : Flags) (text : Text) :
    Except Error (Nested × Text) := do
  let (frame, rest) ← opening flags text
  readFrom properties flags frame [] (rest.length + 1) rest

end Brackets

end RuleLexer.Pattern
