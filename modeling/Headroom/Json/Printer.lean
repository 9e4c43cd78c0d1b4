import Headroom.Json.Basic
import Headroom.Text.Integer
/-!
# Writing JSON

A value has a compact form on one line and an indented form with one item or member to a line. In
strings the quote, the backslash and the control characters below the space are escaped, and nothing
else is.
-/

namespace Headroom.Json

/-- A code below 256 as four hexadecimal digits. -/
def hexCode (code : Nat) : List Char :=
  '0' :: '0' :: Nat.digitChar (code / 16) :: Nat.digitChar (code % 16) :: []

/-- The written form of one character of a string. -/
def escape (c : Char) : List Char :=
  if c = '"' then ['\\', '"']
  else if c = '\\' then ['\\', '\\']
  else if c = '\x08' then ['\\', 'b']
  else if c = '\x0c' then ['\\', 'f']
  else if c = '\n' then ['\\', 'n']
  else if c = '\r' then ['\\', 'r']
  else if c = '\t' then ['\\', 't']
  else if c.toNat < 0x20 then '\\' :: 'u' :: hexCode c.toNat
  else [c]

/-- A text as a JSON string, quotes included. -/
def quoted (text : String) : List Char :=
  '"' :: (text.toList.flatMap escape ++ ['"'])

/-- The written form of a value without parts. -/
def atom : Json → List Char
  | null => "null".toList
  | bool true => "true".toList
  | bool false => "false".toList
  | int value => Text.ofInt value
  | decimal mantissa exponent => Text.ofInt mantissa ++ 'e' :: Text.ofInt exponent
  | string value => quoted value
  | array _ => ['[', ']']
  | object _ => ['\x7b', '\x7d']

mutual

/-- The compact form. -/
def compact : Json → List Char
  | array [] => ['[', ']']
  | array (item :: items) => '[' :: compact item ++ compactItems items
  | object [] => ['\x7b', '\x7d']
  | object ((name, value) :: members) =>
      '\x7b' :: quoted name ++ ':' :: compact value ++ compactMembers members
  | other => atom other

/-- The items after the first and the closing bracket. -/
def compactItems : List Json → List Char
  | [] => [']']
  | item :: items => ',' :: compact item ++ compactItems items

/-- The members after the first and the closing brace. -/
def compactMembers : List (String × Json) → List Char
  | [] => ['\x7d']
  | (name, value) :: members =>
      ',' :: quoted name ++ ':' :: compact value ++ compactMembers members

end

/-- A line break and the indentation at a depth. -/
def lineAt (depth : Nat) : List Char :=
  '\n' :: List.replicate (2 * depth) ' '

mutual

/-- The indented form of a value whose line is at a depth. -/
def indented (depth : Nat) : Json → List Char
  | array [] => ['[', ']']
  | array (item :: items) =>
      '[' :: lineAt (depth + 1) ++ indented (depth + 1) item ++ indentedItems depth items
  | object [] => ['\x7b', '\x7d']
  | object ((name, value) :: members) =>
      '\x7b' :: lineAt (depth + 1) ++ quoted name ++ ':' :: ' ' :: indented (depth + 1) value
        ++ indentedMembers depth members
  | other => atom other

/-- The items after the first and the closing bracket on a line of its own. -/
def indentedItems (depth : Nat) : List Json → List Char
  | [] => lineAt depth ++ [']']
  | item :: items =>
      ',' :: lineAt (depth + 1) ++ indented (depth + 1) item ++ indentedItems depth items

/-- The members after the first and the closing brace on a line of its own. -/
def indentedMembers (depth : Nat) : List (String × Json) → List Char
  | [] => lineAt depth ++ ['\x7d']
  | (name, value) :: members =>
      ',' :: lineAt (depth + 1) ++ quoted name ++ ':' :: ' ' :: indented (depth + 1) value
        ++ indentedMembers depth members

end

/-- The text of a value on one line. -/
def render (json : Json) : String := String.ofList json.compact

/-- The text of a value with indentation by two spaces. -/
def renderIndented (json : Json) : String := String.ofList (json.indented 0)

end Headroom.Json
