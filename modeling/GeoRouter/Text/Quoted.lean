import GeoRouter.Text.Printable

/-!
# Quoted text

Text between quotation marks on a single line. A character that would end the text or the line, or
that could not be seen, is written as an escape sequence.
-/

namespace GeoRouter.Quoted

/-- The escape sequence that gives a character by its number. -/
def numbered (c : Char) : String :=
  "\\u\x7b" ++ String.ofList (Nat.toDigits 16 c.toNat) ++ "\x7d"

def character (c : Char) : String :=
  match c with
  | '\x00' => "\\0"
  | '\t' => "\\t"
  | '\n' => "\\n"
  | '\r' => "\\r"
  | '"' => "\\\""
  | '\\' => "\\\\"
  | c => if Printable.isPrintable c then c.toString else numbered c

def text (s : String) : String :=
  "\"" ++ String.join (s.toList.map character) ++ "\""

end GeoRouter.Quoted
