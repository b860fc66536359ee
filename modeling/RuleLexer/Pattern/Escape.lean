import RuleLexer.Pattern.Flags
import RuleLexer.Pattern.Property

/-!
# Escapes in a pattern

What a backslash introduces: a character by its code, a named class, the class of a property, an
assertion, or a character that would mean something else without the backslash.
-/

namespace RuleLexer.Pattern

/-- What stands at one place of a pattern. -/
inductive Element where
  /-- A character, which was written as the code of a single byte or not. -/
  | literal (c : Char) (asByte : Bool)
  | named (s : CharSet)
  | assert (a : Assertion)
  deriving DecidableEq, Repr

namespace Escape

def hexDigit? (c : Char) : Option Nat :=
  if '0' ≤ c ∧ c ≤ '9' then some (c.toNat - '0'.toNat)
  else if 'a' ≤ c ∧ c ≤ 'f' then some (c.toNat - 'a'.toNat + 10)
  else if 'A' ≤ c ∧ c ≤ 'F' then some (c.toNat - 'A'.toNat + 10)
  else none

/-- The character of a code point, which is not a surrogate. -/
def char? (n : Nat) : Except Error Char :=
  if n < 0xD800 ∨ (0xDFFF < n ∧ n < 0x110000) then .ok (Char.ofNat n) else .error .escape

/-- A number of exactly `count` hexadecimal digits. -/
def fixedHex (flags : Flags) (value : Nat) : Nat → Text → Except Error (Nat × Text)
  | 0, text => .ok (value, text)
  | count + 1, text =>
      match flags.skip text with
      | [] => .error .escape
      | c :: rest =>
          match hexDigit? c with
          | some digit => fixedHex flags (16 * value + digit) count rest
          | none => .error .escape

/-- What stands before a closing brace, at most `fuel` characters, all of which are admitted. -/
def braced (flags : Flags) (admits : Char → Bool) (name : Text) :
    Nat → Text → Except Error (Text × Text)
  | 0, _ => .error .escape
  | fuel + 1, text =>
      match flags.skip text with
      | [] => .error .escape
      | c :: rest =>
          if c = '\x7d' then .ok (name.reverse, rest)
          else if admits c then braced flags admits (c :: name) fuel rest
          else .error .escape

/-- A character by its code: in braces, or in `count` digits. -/
def code (flags : Flags) (count : Nat) (text : Text) : Except Error (Element × Text) := do
  match flags.skip text with
  | [] => .error .escape
  | '\x7b' :: rest =>
      let (digits, rest) ← braced flags (hexDigit? · |>.isSome) [] (rest.length + 1) rest
      if digits.isEmpty then .error .escape
      else
        let n := (digits.filterMap hexDigit?).foldl (16 * · + ·) 0
        return (.literal (← char? n) false, rest)
  | rest =>
      let (n, rest) ← fixedHex flags 0 count rest
      return (.literal (← char? n) (count == 2), rest)

/-- A class without Unicode must be one of ASCII characters, so it cannot be a complement. -/
def namedClass (flags : Flags) (unicode ascii : CharSet) (negated : Bool) :
    Except Error Element :=
  if flags.unicode then .ok (.named (if negated then .compl unicode else unicode))
  else if negated then .error .notText
  else .ok (.named ascii)

/-- The characters with a property or, if negated, the others. Without Unicode no class of a
property is one of bytes. -/
def propertyClass (properties : Properties) (flags : Flags) (negated : Bool) (name : Text) :
    Except Error Element :=
  if flags.unicode then
    match properties name with
    | some s =>
        let s := flags.foldCase s
        .ok (.named (if negated then .compl s else s))
    | none => .error .property
  else .error .notText

/-- The class of a property, which is named by one letter or in braces. -/
def property (properties : Properties) (flags : Flags) (negated : Bool) (text : Text) :
    Except Error (Element × Text) := do
  match flags.skip text with
  | [] => .error .escape
  | '\\' :: _ => .error .property
  | '\x7b' :: rest =>
      let (name, rest) ← braced flags (fun _ => true) [] (rest.length + 1) rest
      return (← propertyClass properties flags negated name, rest)
  | c :: rest => return (← propertyClass properties flags negated [c], rest)

def isBoundaryLetter (c : Char) : Bool :=
  decide ('a' ≤ c ∧ c ≤ 'z') || decide ('A' ≤ c ∧ c ≤ 'Z') || c == '-'

/-- The assertion of a word boundary, which may be named in braces. Braces that hold no name are
left to be read as a repetition. -/
def boundary (flags : Flags) (text : Text) : Except Error (Element × Text) := do
  let plain : Element := .assert (if flags.unicode then .wordBoundary else .asciiWordBoundary)
  match text with
  | '\x7b' :: inner =>
      match flags.skip inner with
      | [] => .error .escape
      | c :: _ =>
          if isBoundaryLetter c then
            let (name, rest) ← braced flags isBoundaryLetter [] (inner.length + 1) inner
            let pick (unicode ascii : Assertion) : Except Error (Element × Text) :=
              .ok (.assert (if flags.unicode then unicode else ascii), rest)
            if name = "start".toList then pick .wordStart .asciiWordStart
            else if name = "end".toList then pick .wordEnd .asciiWordEnd
            else if name = "start-half".toList then pick .wordStartHalf .asciiWordStartHalf
            else if name = "end-half".toList then pick .wordEndHalf .asciiWordEndHalf
            else .error .escape
          else .ok (plain, text)
  | _ => .ok (plain, text)

/-- A character that stands for itself behind a backslash: ASCII and neither a letter, a digit
nor an angle bracket. -/
def standsForItself (c : Char) : Bool :=
  decide (c.toNat < 128) && !c.isAlphanum && c != '<' && c != '>'

def read (properties : Properties) (flags : Flags) : Text → Except Error (Element × Text)
  | [] => .error .escape
  | c :: rest =>
      let char (d : Char) : Except Error (Element × Text) := .ok (.literal d false, rest)
      let assertion (unicode ascii : Assertion) : Except Error (Element × Text) :=
        .ok (.assert (if flags.unicode then unicode else ascii), rest)
      let named (unicode ascii : CharSet) (negated : Bool) : Except Error (Element × Text) :=
        (namedClass flags unicode ascii negated).map (·, rest)
      if standsForItself c then char c
      else match c with
        | 'x' => code flags 2 rest
        | 'u' => code flags 4 rest
        | 'U' => code flags 8 rest
        | 'p' => property properties flags false rest
        | 'P' => property properties flags true rest
        | 'd' => named .digit .asciiDigit false
        | 'D' => named .digit .asciiDigit true
        | 's' => named .blank .asciiBlank false
        | 'S' => named .blank .asciiBlank true
        | 'w' => named .word .asciiWord false
        | 'W' => named .word .asciiWord true
        | 'a' => char '\x07'
        | 'f' => char '\x0c'
        | 't' => char '\t'
        | 'n' => char '\n'
        | 'r' => char '\r'
        | 'v' => char '\x0b'
        | 'A' => .ok (.assert .textStart, rest)
        | 'z' => .ok (.assert .textEnd, rest)
        | 'b' => boundary flags rest
        | 'B' => assertion .notWordBoundary .notAsciiWordBoundary
        | '<' => assertion .wordStart .asciiWordStart
        | '>' => assertion .wordEnd .asciiWordEnd
        | _ => .error .escape

end Escape

end RuleLexer.Pattern
