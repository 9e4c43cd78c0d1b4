import Headroom.Json.Basic
import Headroom.Text.Integer
/-!
# Reading JSON

The reader accepts exactly one value with white space around it. Of several members of an object
with one name the last counts. An integer is a number without fraction and exponent; minus zero is
not one, because integers have a single zero. A number that no double is near to is refused, and so
are values that nest too deep.
-/

namespace Headroom.Json

/-- The text without its leading white space. -/
def skipBlank (text : List Char) : List Char :=
  text.dropWhile fun c => c = ' ' || c = '\n' || c = '\r' || c = '\t'

/-- The text after a fixed beginning, if it begins so. -/
def after? (beginning text : List Char) : Option (List Char) :=
  if beginning.isPrefixOf text then some (text.drop beginning.length) else none

/-- The value of a hexadecimal digit. -/
def hexDigit? (c : Char) : Option Nat :=
  if c.isDigit then some (c.toNat - '0'.toNat)
  else if 'a' ≤ c && c ≤ 'f' then some (c.toNat - 'a'.toNat + 10)
  else if 'A' ≤ c && c ≤ 'F' then some (c.toNat - 'A'.toNat + 10)
  else none

/-- The value of four hexadecimal digits and the text after them. -/
def hexUnit? : List Char → Option (Nat × List Char)
  | a :: b :: c :: d :: rest => do
      let value := 4096 * (← hexDigit? a) + 256 * (← hexDigit? b) + 16 * (← hexDigit? c)
        + (← hexDigit? d)
      return (value, rest)
  | _ => none

/-- The character that follows a backslash and `u`. A unit of a surrogate pair needs its partner. -/
def codePoint? (text : List Char) : Option (Char × List Char) := do
  let (first, rest) ← hexUnit? text
  if 0xd800 ≤ first && first < 0xdc00 then
    let (second, rest) ← hexUnit? (← after? ['\\', 'u'] rest)
    if 0xdc00 ≤ second && second < 0xe000 then
      return (Char.ofNat (0x10000 + (first - 0xd800) * 0x400 + (second - 0xdc00)), rest)
    else none
  else if 0xdc00 ≤ first && first < 0xe000 then none
  else return (Char.ofNat first, rest)

/-- One character of a string, the backslash of an escape included, and the text after it. -/
def stringChar? : List Char → Option (Char × List Char)
  | '\\' :: 'u' :: rest => codePoint? rest
  | '\\' :: c :: rest =>
      match c with
      | '"' => some ('"', rest)
      | '\\' => some ('\\', rest)
      | '/' => some ('/', rest)
      | 'b' => some ('\x08', rest)
      | 'f' => some ('\x0c', rest)
      | 'n' => some ('\n', rest)
      | 'r' => some ('\r', rest)
      | 't' => some ('\t', rest)
      | _ => none
  | c :: rest => if c.toNat < 0x20 || c = '\\' then none else some (c, rest)
  | [] => none

/-- The characters up to the closing quote and the text after it. -/
def stringTail? : Nat → List Char → Option (List Char × List Char)
  | _, '"' :: rest => some ([], rest)
  | 0, _ => none
  | fuel + 1, text => do
      let (c, rest) ← stringChar? text
      let (chars, rest) ← stringTail? fuel rest
      return (c :: chars, rest)

/-- The digits at the start of a text and the text after them. -/
def spanDigits (text : List Char) : List Char × List Char :=
  (text.takeWhile Char.isDigit, text.dropWhile Char.isDigit)

/-- The digits of a fraction, without the point, and the text after them. -/
def fraction? : List Char → Option (List Char × List Char)
  | '.' :: rest =>
      let (digits, rest) := spanDigits rest
      if digits.isEmpty then none else some (digits, rest)
  | rest => some ([], rest)

/-- The exponent and the text after it. -/
def exponent? : List Char → Option (Option Int × List Char)
  | c :: rest =>
      if c = 'e' || c = 'E' then
        let (negative, rest) := match rest with
          | '-' :: rest => (true, rest)
          | '+' :: rest => (false, rest)
          | _ => (false, rest)
        let (digits, rest) := spanDigits rest
        if digits.isEmpty then none
        else
          let size : Int := Text.digitsValue digits
          some (some (if negative then -size else size), rest)
      else some (none, c :: rest)
  | [] => some (none, [])

/-- The least number that rounds to no finite double: half a step above the greatest of them. -/
def doubleBound : Nat := Nat.pow 2 1024 - Nat.pow 2 970

/-- Whether `size * 10 ^ exponent` rounds to a finite double, for a size with so many digits. Powers
that decide the matter by themselves are not computed. -/
def fitsDouble (size digits : Nat) (exponent : Int) : Bool :=
  if size = 0 then true
  else if 308 < exponent then false
  else if 0 ≤ exponent then size * Nat.pow 10 exponent.natAbs < doubleBound
  else if digits ≤ exponent.natAbs then true
  else size / Nat.pow 10 exponent.natAbs < doubleBound

/-- A number and the text after it. -/
def number? (text : List Char) : Option (Json × List Char) := do
  let (negative, rest) := match text with
    | '-' :: rest => (true, rest)
    | _ => (false, text)
  let (whole, rest) := spanDigits rest
  if whole.isEmpty || (whole.length > 1 && whole.head? = some '0') then none
  let (fraction, rest) ← fraction? rest
  let (exponent, rest) ← exponent? rest
  let size := Text.digitsValue (whole ++ fraction)
  let scale := exponent.getD 0 - fraction.length
  if !fitsDouble size (whole.length + fraction.length) scale then none
  let mantissa : Int := if negative then -size else size
  if fraction.isEmpty && exponent.isNone && !(negative && size = 0) then
    return (int mantissa, rest)
  else
    return (decimal mantissa scale, rest)

/-- Adds a member to an object, in place of any earlier one with the name. -/
def withMember (members : List (String × Json)) (name : String) (value : Json) :
    List (String × Json) :=
  members.filter (fun member => member.1 != name) ++ [(name, value)]

/-- How deep arrays and objects may lie inside each other. -/
def maxDepth : Nat := 127

mutual

/-- A value with white space before it, and the text after it. The first number bounds the steps,
the second the depth. -/
def value? : Nat → Nat → List Char → Option (Json × List Char)
  | 0, _, _ => none
  | fuel + 1, depth, text =>
      match skipBlank text with
      | '"' :: rest => do
          let (chars, rest) ← stringTail? rest.length rest
          return (string (String.ofList chars), rest)
      | '[' :: rest =>
          if depth = 0 then none
          else match skipBlank rest with
            | ']' :: rest => some (array [], rest)
            | _ => (items? fuel (depth - 1) rest).map fun (items, rest) => (array items, rest)
      | '\x7b' :: rest =>
          if depth = 0 then none
          else match skipBlank rest with
            | '\x7d' :: rest => some (object [], rest)
            | _ =>
                (members? fuel (depth - 1) [] rest).map fun (members, rest) =>
                  (object members, rest)
      | 'n' :: rest => (after? ['u', 'l', 'l'] rest).map fun rest => (null, rest)
      | 't' :: rest => (after? ['r', 'u', 'e'] rest).map fun rest => (bool true, rest)
      | 'f' :: rest => (after? ['a', 'l', 's', 'e'] rest).map fun rest => (bool false, rest)
      | other => number? other

/-- The items of an array up to its closing bracket, at least one. -/
def items? : Nat → Nat → List Char → Option (List Json × List Char)
  | 0, _, _ => none
  | fuel + 1, depth, text => do
      let (item, rest) ← value? fuel depth text
      match skipBlank rest with
      | ',' :: rest =>
          let (items, rest) ← items? fuel depth rest
          return (item :: items, rest)
      | ']' :: rest => return ([item], rest)
      | _ => none

/-- The members of an object up to its closing brace, at least one, after those already read. -/
def members? : Nat → Nat → List (String × Json) → List Char →
    Option (List (String × Json) × List Char)
  | 0, _, _, _ => none
  | fuel + 1, depth, earlier, text => do
      let quoted ← after? ['"'] (skipBlank text)
      let (name, rest) ← stringTail? quoted.length quoted
      let rest ← after? [':'] (skipBlank rest)
      let (value, rest) ← value? fuel depth rest
      let members := withMember earlier (String.ofList name) value
      match skipBlank rest with
      | ',' :: rest => members? fuel depth members rest
      | '\x7d' :: rest => return (members, rest)
      | _ => none

end

/-- The value of a JSON text. Each step of the reader takes a character, so a bound of twice the
length is never met before the end of the text. -/
def parse? (text : String) : Option Json := do
  let chars := text.toList
  let (json, rest) ← value? (2 * chars.length + 2) maxDepth chars
  if (skipBlank rest).isEmpty then return json else none

end Headroom.Json
