/-! # JSON strings

A text between quotes, in which quotes, backslashes and the control characters of ASCII are escaped.
-/

namespace TitleBar.Text

/-- The lower-case hexadecimal digit of a number below 16. -/
def jsonDigit (n : Nat) : Char := if n < 10 then Char.ofNat (48 + n) else Char.ofNat (87 + n)

def jsonChar : Char → List Char
  | '"' => ['\\', '"']
  | '\\' => ['\\', '\\']
  | '\x08' => ['\\', 'b']
  | '\x0c' => ['\\', 'f']
  | '\n' => ['\\', 'n']
  | '\r' => ['\\', 'r']
  | '\t' => ['\\', 't']
  | c =>
    if c.toNat < 0x20 then
      ['\\', 'u', '0', '0', jsonDigit (c.toNat / 16), jsonDigit (c.toNat % 16)]
    else [c]

def jsonString (text : String) : String :=
  String.ofList ('"' :: text.toList.flatMap jsonChar ++ ['"'])

end TitleBar.Text
