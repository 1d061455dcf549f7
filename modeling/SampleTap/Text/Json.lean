import SampleTap.Text.Braces

/-!
# JSON text

Values and their text in two layouts: on one line without blanks (`JsonValue.compact`), and with two
blanks of indentation per level and each element on a line of its own (`JsonValue.pretty`).

The values of this library hold no text that needs escaping, so `JsonValue.name` stands for words of
the format itself, letters and underscores; numbers are natural.
-/

namespace SampleTap

/-- A JSON value. -/
inductive JsonValue
  | null
  | bool (value : Bool)
  | number (value : Nat)
  /-- A word that stands between quotes as it is. -/
  | name (word : String)
  | array (items : List JsonValue)
  | object (fields : List (String × JsonValue))

namespace JsonValue

/-- A word between quotes. -/
def quote (word : String) : String := "\"" ++ word ++ "\""

/-! ## One line -/

mutual

/-- The text of a value on one line. -/
def compact : JsonValue → String
  | null => "null"
  | bool true => "true"
  | bool false => "false"
  | number n => toString n
  | name word => quote word
  | array items => "[" ++ String.intercalate "," (compactItems items) ++ "]"
  | object fields => braced (String.intercalate "," (compactFields fields))

/-- The texts of an array's items. -/
def compactItems : List JsonValue → List String
  | [] => []
  | item :: rest => compact item :: compactItems rest

/-- The texts of an object's fields. -/
def compactFields : List (String × JsonValue) → List String
  | [] => []
  | (key, value) :: rest => (quote key ++ ":" ++ compact value) :: compactFields rest

end

/-! ## Several lines -/

/-- A line break and the indentation of a level. -/
def newline (level : Nat) : String := "\n" ++ "".pushn ' ' (2 * level)

/-- Items between brackets, one a line; brackets without items stand together. -/
def block (opening closing : Char) (level : Nat) (items : List String) : String :=
  let lines :=
    if items.isEmpty then ""
    else
      newline (level + 1) ++ String.intercalate ("," ++ newline (level + 1)) items ++ newline level
  String.singleton opening ++ lines ++ String.singleton closing

mutual

/-- The text of a value that starts at a level of indentation. -/
def prettyAt (level : Nat) : JsonValue → String
  | array items => block '[' ']' level (prettyItems (level + 1) items)
  | object fields => block '{' '}' level (prettyFields (level + 1) fields)
  | null => "null"
  | bool true => "true"
  | bool false => "false"
  | number n => toString n
  | name word => quote word

/-- The texts of an array's items. -/
def prettyItems (level : Nat) : List JsonValue → List String
  | [] => []
  | item :: rest => prettyAt level item :: prettyItems level rest

/-- The texts of an object's fields. -/
def prettyFields (level : Nat) : List (String × JsonValue) → List String
  | [] => []
  | (key, value) :: rest => (quote key ++ ": " ++ prettyAt level value) :: prettyFields level rest

end

/-- The text of a value with each element on a line of its own. -/
def pretty (value : JsonValue) : String := prettyAt 0 value

end JsonValue

end SampleTap
