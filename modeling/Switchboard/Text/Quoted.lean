import Switchboard.Text.Invisible

/-!
# Quoted text

A name that appears inside a message stands in double quotes, so that the reader sees where it
begins and ends. Quotes and backslashes get a backslash, the usual blanks and NUL have short forms,
and a character without a shape of its own is given by its code point in lower-case hexadecimal.
-/

namespace Switchboard.Quoted

/-- The code point of a character in braces, as in the quoted form of a character without a
shape. -/
def codePoint (character : Char) : String :=
  "\\u\x7b" ++ String.ofList (Nat.toDigits 16 character.toNat) ++ "\x7d"

/-- One character as it stands between the quotes. -/
def escape (character : Char) : String :=
  match character with
  | '"' => "\\\""
  | '\\' => "\\\\"
  | '\t' => "\\t"
  | '\r' => "\\r"
  | '\n' => "\\n"
  | '\x00' => "\\0"
  | character =>
      if Invisible.isInvisible character then codePoint character else character.toString

def quote (text : String) : String :=
  "\"" ++ String.join (text.toList.map escape) ++ "\""

end Switchboard.Quoted
