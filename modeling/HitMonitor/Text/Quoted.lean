import HitMonitor.Text.Printable

/-!
# Quoted text

Text inside double quotes, as it appears in error reports: quotes, backslashes and characters that
cannot be shown are escaped.
-/

namespace HitMonitor

/-- A character by its code point in lower-case hexadecimal digits. -/
def codePointEscape (character : Char) : String :=
  "\\u\x7b" ++ String.ofList (Nat.toDigits 16 character.toNat) ++ "\x7d"

/-- A character as it appears inside quotes. -/
def quotedCharacter (character : Char) : String :=
  if character = Char.ofNat 0 then "\\0"
  else if character = '\t' then "\\t"
  else if character = '\r' then "\\r"
  else if character = '\n' then "\\n"
  else if character = '"' then "\\\""
  else if character = '\\' then "\\\\"
  else if isShown character then character.toString
  else codePointEscape character

def quoted (text : String) : String :=
  "\"" ++ String.join (text.toList.map quotedCharacter) ++ "\""

end HitMonitor
