import RuleLexer.Text.Quoted

/-!
# JSON

The values of JSON without fractions, and their text over several lines. The fields of a record
are kept in the order of their names.
-/

namespace RuleLexer

inductive Json where
  | null
  | bool (b : Bool)
  | number (n : Nat)
  | string (text : Text)
  | array (items : List Json)
  | object (fields : List (Text × Json))

namespace Json

/-- A text, or null where there is none. -/
def textOrNull : Option Text → Json
  | some text => string text
  | none => null

/-- A name comes before another one. -/
def before (a b : Text) : Bool := decide (a.map Char.toNat < b.map Char.toNat)

/-- Adds a field in the order of names; a field of the same name is replaced. -/
def insertField (name : Text) (value : Json) : List (Text × Json) → List (Text × Json)
  | [] => [(name, value)]
  | (other, v) :: rest =>
      if name = other then (name, value) :: rest
      else if before name other then (name, value) :: (other, v) :: rest
      else (other, v) :: insertField name value rest

def record (fields : List (String × Json)) : Json :=
  object (fields.foldl (fun sorted field => insertField field.1.toList field.2 sorted) [])

/-- The form of a character between quotes. -/
def escapeChar (c : Char) : Text :=
  if c = '"' then ['\\', '"']
  else if c = '\\' then ['\\', '\\']
  else if c = '\x08' then ['\\', 'b']
  else if c = '\t' then ['\\', 't']
  else if c = '\n' then ['\\', 'n']
  else if c = '\x0c' then ['\\', 'f']
  else if c = '\r' then ['\\', 'r']
  else if c.toNat < 16 then ['\\', 'u', '0', '0', '0'] ++ Text.hexadecimal c.toNat
  else if c.toNat < 32 then ['\\', 'u', '0', '0'] ++ Text.hexadecimal c.toNat
  else [c]

def quote (text : Text) : Text := '"' :: text.flatMap escapeChar ++ ['"']

def indent (depth : Nat) : Text := List.replicate (2 * depth) ' '

mutual

/-- The text of a value that starts at this depth. -/
def prettyAt (depth : Nat) : Json → Text
  | null => "null".toList
  | bool true => "true".toList
  | bool false => "false".toList
  | number n => decimal n
  | string text => quote text
  | array [] => "[]".toList
  | array (item :: rest) =>
      ['[', '\n'] ++ indent (depth + 1) ++ prettyAt (depth + 1) item
        ++ prettyItems depth rest ++ ['\n'] ++ indent depth ++ [']']
  | object [] => ['\x7b', '\x7d']
  | object ((name, value) :: rest) =>
      ['\x7b', '\n'] ++ indent (depth + 1) ++ quote name ++ [':', ' ']
        ++ prettyAt (depth + 1) value
        ++ prettyFields depth rest ++ ['\n'] ++ indent depth ++ ['\x7d']

def prettyItems (depth : Nat) : List Json → Text
  | [] => []
  | item :: rest =>
      [',', '\n'] ++ indent (depth + 1) ++ prettyAt (depth + 1) item ++ prettyItems depth rest

def prettyFields (depth : Nat) : List (Text × Json) → Text
  | [] => []
  | (name, value) :: rest =>
      [',', '\n'] ++ indent (depth + 1) ++ quote name ++ [':', ' ']
        ++ prettyAt (depth + 1) value ++ prettyFields depth rest

end

def pretty (value : Json) : Text := prettyAt 0 value

end Json

end RuleLexer
