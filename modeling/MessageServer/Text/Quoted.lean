import MessageServer.Text.Combining
import MessageServer.Text.Hex
import MessageServer.Text.Printable

/-!
# Quoted text

Text between quotation marks, for a log.  A quotation mark, a backslash and the four common
controls have short forms; every other character that is not printable, or that is drawn onto the
character before it, is written as its code point in braces.
-/

namespace MessageServer.Text

/-- What stands for one character between quotation marks. -/
def quotedChar (c : Char) : String :=
  match c with
  | '\x00' => "\\0"
  | '\t' => "\\t"
  | '\r' => "\\r"
  | '\n' => "\\n"
  | '"' => "\\\""
  | '\\' => "\\\\"
  | c =>
    if isCombining c || !isPrintable c then "\\u\x7b" ++ hexNumber c.toNat ++ "\x7d"
    else c.toString

/-- Text between quotation marks. -/
def quoted (s : String) : String :=
  "\"" ++ String.join (s.toList.map quotedChar) ++ "\""

end MessageServer.Text
