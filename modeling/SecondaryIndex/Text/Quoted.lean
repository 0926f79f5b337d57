/-
**The diagnostic spelling of a text: double quotes, with escapes for what could not be read.**

* `quotedChar` leaves printable characters alone and spells the others `\u\x7bcode\x7d`;
* `quoted` puts the spellings between double quotes.
-/

import SecondaryIndex.Text.Printable

namespace SecondaryIndex.Text

/-- One character inside a quoted text. -/
def quotedChar (char : Char) : String :=
  if char = '\x00' then "\\0"
  else if char = '\t' then "\\t"
  else if char = '\r' then "\\r"
  else if char = '\n' then "\\n"
  else if char = '"' then "\\\""
  else if char = '\\' then "\\\\"
  else if extendsGrapheme char || !isPrintable char then
    "\\u\x7b" ++ String.ofList (Nat.toDigits 16 char.toNat) ++ "\x7d"
  else String.singleton char

/-- A text as a diagnostic shows it. -/
def quoted (text : String) : String :=
  "\"" ++ String.join (text.toList.map quotedChar) ++ "\""

end SecondaryIndex.Text
