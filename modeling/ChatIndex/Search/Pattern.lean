/-! # The pattern of a search

A search looks for a text literally.  The engine matches regular expressions, in which nineteen
characters have a meaning; the pattern is "anything, the text with each of these escaped,
anything".  The engine also bounds the length of an expression.
-/

namespace ChatIndex.Search

/-- The characters with a meaning in the engine's regular expressions. -/
def reservedChars : List Char :=
  ['.', '?', '+', '*', '|', '\x7b', '\x7d', '[', ']', '(', ')', '"', '\\', '#', '@', '&', '<',
   '>', '~']

/-- A character as it is written so that it stands for itself. -/
def escapeChar (c : Char) : List Char :=
  if reservedChars.contains c then ['\\', c] else [c]

/-- The pattern, as characters. -/
def containsChars (text : List Char) : List Char :=
  ['.', '*'] ++ text.flatMap escapeChar ++ ['.', '*']

/-- The pattern that matches every text in which the given one occurs. -/
def containsPattern (text : String) : String :=
  String.ofList (containsChars text.toList)

/-- The longest pattern that is sent to the engine, in characters. -/
def maxPatternLength : Nat := 1000

end ChatIndex.Search
