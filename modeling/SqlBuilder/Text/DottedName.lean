/-!
# Dotted names

A function is called by a name that SQL reads without quotes: words of ASCII letters, digits and
`_`, joined by single dots, none of which starts with a digit.
-/

namespace SqlBuilder.Text

/-- The pieces of a text between the occurrences of `sep`; there is one more piece
than separators. -/
def splitAt (sep : Char) : List Char → List (List Char)
  | [] => [[]]
  | c :: cs =>
    if c = sep then [] :: splitAt sep cs
    else match splitAt sep cs with
      | [] => [[c]]
      | w :: ws => (c :: w) :: ws

/-- A character that a word may start with. -/
def isWordStart (c : Char) : Bool :=
  c.isAlpha || c == '_'

/-- A character that a word may go on with. -/
def isWordChar (c : Char) : Bool :=
  c.isAlphanum || c == '_'

/-- A word: one starting character, then any number of word characters. -/
def isWord : List Char → Bool
  | [] => false
  | c :: cs => isWordStart c && cs.all isWordChar

/-- A text is a dotted name when every piece between its dots is a word. -/
def isDottedName (s : String) : Bool :=
  (splitAt '.' s.toList).all isWord

end SqlBuilder.Text
