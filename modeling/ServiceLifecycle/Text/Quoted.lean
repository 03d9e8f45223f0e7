import ServiceLifecycle.Text.Printable

/-!
# Quoted text

Descriptions of values write a text between double quotes, so that every
character in it can be told: what does not show as itself is written by its code
point.
-/

namespace ServiceLifecycle.Text

/-- The escape by code point: lower-case hexadecimal digits in braces. -/
def codePointEscape (c : Char) : String :=
  "\\u\x7b" ++ String.ofList (Nat.toDigits 16 c.toNat) ++ "\x7d"

/-- How a character stands inside quotes. -/
def escaped (c : Char) : String :=
  if c = '\x00' then "\\0"
  else if c = '\t' then "\\t"
  else if c = '\r' then "\\r"
  else if c = '\n' then "\\n"
  else if c = '"' then "\\\""
  else if c = '\\' then "\\\\"
  else if isGraphemeExtend c || !isPrintable c then codePointEscape c
  else c.toString

/-- A text in double quotes. -/
def quoted (s : String) : String := "\"" ++ String.join (s.toList.map escaped) ++ "\""

end ServiceLifecycle.Text
