import Throttle.Json.Basic
import Throttle.Decimal.Notation

/-!
# Printed JSON

A value is printed on one line with no blanks. Quotes, backslashes and control characters are escaped, and nothing
else is.
-/

namespace Throttle.Json

/-- The escape of a control character that has no short one. -/
def unicodeEscape (c : Char) : List Char :=
  let digits := Nat.toDigits 16 c.toNat
  '\\' :: 'u' :: List.replicate (4 - digits.length) '0' ++ digits

def escapeChar (c : Char) : List Char :=
  if c = '"' then ['\\', '"']
  else if c = '\\' then ['\\', '\\']
  else if c = '\n' then ['\\', 'n']
  else if c = '\r' then ['\\', 'r']
  else if c = '\t' then ['\\', 't']
  else if c = '\x08' then ['\\', 'b']
  else if c = '\x0c' then ['\\', 'f']
  else if c < ' ' then unicodeEscape c
  else [c]

def quote (s : String) : List Char := '"' :: s.toList.flatMap escapeChar ++ ['"']

def wholeChars (i : Int) : List Char :=
  if i < 0 then '-' :: Nat.toDigits 10 i.natAbs else Nat.toDigits 10 i.natAbs

mutual
def chars : Json → List Char
  | .null | .unreadable => ['n', 'u', 'l', 'l']
  | .bool b => if b then ['t', 'r', 'u', 'e'] else ['f', 'a', 'l', 's', 'e']
  | .whole i => wholeChars i
  | .real x => (Layout.json.writeFloat x).toList
  | .text s => quote s
  | .array items => '[' :: itemChars items
  | .object members => '{' :: memberChars members

def itemChars : List Json → List Char
  | [] => [']']
  | [v] => v.chars ++ [']']
  | v :: rest => v.chars ++ ',' :: itemChars rest

def memberChars : List (String × Json) → List Char
  | [] => ['}']
  | [(k, v)] => quote k ++ ':' :: v.chars ++ ['}']
  | (k, v) :: rest => quote k ++ ':' :: v.chars ++ ',' :: memberChars rest
end

def write (v : Json) : String := String.ofList v.chars

end Throttle.Json
