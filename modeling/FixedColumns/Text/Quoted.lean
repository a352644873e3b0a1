import FixedColumns.Text.Standalone

/-!
# `FixedColumns.Text.Quoted` — texts in quotes

A text that a report cites stands in double quotes. A backslash goes before a quote and a backslash
in it, four control characters have a letter or digit of their own, and any other character that
does not stand alone is written as its code point in braces.
-/

namespace FixedColumns.Text

/-- What follows the backslash for a character that has a short escape. -/
def shortEscape? : Char → Option Char
  | '\x00' => some '0'
  | '\t' => some 't'
  | '\n' => some 'n'
  | '\r' => some 'r'
  | '"' => some '"'
  | '\\' => some '\\'
  | _ => none

/-- A code point in braces, in lower-case hexadecimal digits. -/
def codeEscape (c : Char) : List Char :=
  '\\' :: 'u' :: '\x7b' :: (Nat.toDigits 16 c.toNat ++ ['\x7d'])

/-- One character of a text in quotes. -/
def quotedChar (c : Char) : List Char :=
  match shortEscape? c with
  | some e => ['\\', e]
  | none => if standsAlone c then [c] else codeEscape c

/-- The text in double quotes. -/
def quoted (s : String) : String :=
  String.ofList ('"' :: (s.toList.flatMap quotedChar ++ ['"']))

end FixedColumns.Text
