import ObfuscationMap.Text.Basic
import ObfuscationMap.Text.Extending
import ObfuscationMap.Text.Unprintable

/-!
# Quoted text

Messages show a text between double quotes. Backslash, double quote, tab,
carriage return, line feed and the null character have an escape of one letter;
a character that extends the one before it or has no visible shape is written by
its code point in hexadecimal digits; every other character stands for itself.
-/

namespace ObfuscationMap
namespace Text

/-- The lower-case hexadecimal digits of a number, without leading zeros. -/
def hexadecimal (n : Nat) : Text :=
  Nat.toDigits 16 n

/-- The escape of one letter for a character that has one. -/
def shortEscape? (c : Char) : Option Char :=
  if c = '\x00' then some '0'
  else if c = '\t' then some 't'
  else if c = '\r' then some 'r'
  else if c = '\n' then some 'n'
  else if c = '\\' then some '\\'
  else if c = '"' then some '"'
  else none

/-- How one character is shown inside quotes. -/
def quotedChar (c : Char) : Text :=
  match shortEscape? c with
  | some letter => ['\\', letter]
  | none =>
      if isExtending c || isUnprintable c then
        ['\\', 'u', '{'] ++ hexadecimal c.toNat ++ ['}']
      else
        [c]

/-- A text between double quotes, with its characters escaped where needed. -/
def quoted (text : Text) : Text :=
  ['"'] ++ text.flatMap quotedChar ++ ['"']

end Text
end ObfuscationMap
