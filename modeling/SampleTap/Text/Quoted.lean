import SampleTap.Text.Braces
import SampleTap.Text.Visible

/-!
# Quoted text

Text between double quotes, as a description of a value shows it: quotes, backslashes and line
breaks are marked by a backslash, and characters that cannot be seen are given by their number.
-/

namespace SampleTap.Quoted

/-- A character given by its number. -/
def byNumber (c : Char) : String :=
  "\\u" ++ braced (String.ofList (Nat.toDigits 16 c.toNat))

/-- A character between quotes. -/
def escape (c : Char) : String :=
  if c = '"' then "\\\""
  else if c = '\\' then "\\\\"
  else if c = '\n' then "\\n"
  else if c = '\r' then "\\r"
  else if c = '\t' then "\\t"
  else if c = Char.ofNat 0 then "\\0"
  else if Visible.isVisible c then c.toString
  else byNumber c

/-- A text between quotes. -/
def quote (text : String) : String := "\"" ++ String.join (text.toList.map escape) ++ "\""

end SampleTap.Quoted
