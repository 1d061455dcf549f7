/-!
# Braces

Text between braces, as the objects of JSON and the fields of a description stand.
-/

namespace SampleTap

/-- A text between braces. -/
def braced (text : String) : String := String.singleton '{' ++ text ++ String.singleton '}'

theorem toList_braced (text : String) : (braced text).toList = '{' :: (text.toList ++ ['}']) := by
  simp [braced]

end SampleTap
