/-! # Splitting

A text cut into parts at each occurrence of one character, which belongs to no part.  There is
always at least one part.
-/

namespace ChatIndex.Text

/-- A text cut at each occurrence of a character. -/
def splitOnChar (sep : Char) : List Char → List (List Char)
  | [] => [[]]
  | c :: rest =>
    if c = sep then [] :: splitOnChar sep rest
    else
      match splitOnChar sep rest with
      | part :: parts => (c :: part) :: parts
      | [] => [[c]]

end ChatIndex.Text
