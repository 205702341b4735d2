/-!
# Quoted text

A text stands in SQL between two quotes, and a quote inside it is written twice. So the text ends
at the first quote that is not doubled, and no text can end its own quotes early. Everything here
runs on `List Char`: a reader of quoted text is stated against the same lists.
-/

namespace SqlBuilder.Text

/-- The text with every occurrence of `q` written twice. -/
def doubled (q : Char) : List Char → List Char
  | [] => []
  | c :: cs => if c = q then q :: q :: doubled q cs else c :: doubled q cs

/-- The text between two `q`, with every `q` inside written twice. -/
def quoted (q : Char) (s : List Char) : List Char :=
  q :: (doubled q s ++ [q])

end SqlBuilder.Text
