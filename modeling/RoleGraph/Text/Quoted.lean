import RoleGraph.Text.Symbol
import RoleGraph.Text.Printable

/-!
# Quoted texts

A text between double quotes in which every symbol that is not printable is escaped. Stray bytes
and control characters are written as two hexadecimal digits, other characters as four or eight.
-/

namespace RoleGraph

namespace Text

/-- The backslash. -/
def backslash : UInt8 := 0x5C

/-- The one-letter escape of a control character that has one. -/
def shortEscape? (c : Char) : Option Char :=
  match c.toNat with
  | 7 => some 'a'
  | 8 => some 'b'
  | 9 => some 't'
  | 10 => some 'n'
  | 11 => some 'v'
  | 12 => some 'f'
  | 13 => some 'r'
  | _ => none

/-- One symbol as it stands between the quotes. -/
def quoteSymbol : Symbol → Text
  | .stray b => [backslash, byte 'x'] ++ hex 2 b.toNat
  | .char c =>
    if c == '"' || c == '\\' then backslash :: encodeChar c
    else if isPrintable c then encodeChar c
    else match shortEscape? c with
      | some e => [backslash, byte e]
      | none =>
        let n := c.toNat
        if n < 0x80 then [backslash, byte 'x'] ++ hex 2 n
        else if n < 0x10000 then [backslash, byte 'u'] ++ hex 4 n
        else [backslash, byte 'U'] ++ hex 8 n

/-- The text between double quotes, with escapes. -/
def quote (t : Text) : Text :=
  byte '"' :: ((symbols t).flatMap quoteSymbol ++ [byte '"'])

end Text

end RoleGraph
