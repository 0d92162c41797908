/-!
# Searching text

Whether a text holds another one, as it is or with the case of ASCII letters
ignored.
-/

namespace QuadDaq.Text

/-- Some suffix of the text starts with the word. -/
def occursIn (word : List Char) : List Char → Bool
  | [] => word.isEmpty
  | c :: rest => word.isPrefixOf (c :: rest) || occursIn word rest

/-- The text holds the word. -/
def holds (text word : String) : Bool := occursIn word.toList text.toList

/-- The text holds the word, which is in lower case, if the case of ASCII letters
is ignored. -/
def holdsIgnoringCase (text word : String) : Bool :=
  occursIn word.toList (text.toList.map Char.toLower)

end QuadDaq.Text
