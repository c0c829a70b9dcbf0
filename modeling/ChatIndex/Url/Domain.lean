import ChatIndex.Text.Composition
import ChatIndex.Text.Direction
import ChatIndex.Text.Joining
import ChatIndex.Url.Domain.Mapping
import ChatIndex.Url.Domain.Punycode

/-! # Domains

A domain is a list of labels with dots between them.  It is brought into one form before it is
looked at: each character is replaced by what it stands for, the text is composed, and labels
in Punycode are read.  Such a label is in that form from the start.

No label starts with a mark, joiners stand only where they make a difference, and in a domain
with a letter from right to left every label has a direction that is plain to see.
-/

namespace ChatIndex.Url.Domain

open Text

/-- Whether an ASCII character may not stand in a domain. -/
def isForbidden (c : Char) : Bool :=
  c.toNat ≤ 0x20 || c.toNat = 0x7f || "%#/:<>?@[\\]^|".toList.contains c

/-- The form of a text that is compared; `none` if one of its characters may not stand in a
domain. -/
def fold? (s : List Char) : Option (List Char) :=
  (s.mapM counterpart?).map fun parts => normalForm parts.flatten

/-! ## Labels in Punycode -/

/-- The longest text in Punycode that is read. -/
def maxPunycodeLength : Nat := 2000

/-- The label that a text in Punycode is written for.  It must be in the form that is compared,
and there must be something to insert into its ASCII characters. -/
def readPunycode? (s : List Char) : Option (List Char) :=
  if s.isEmpty || s.getLast? = some '-' || maxPunycodeLength < s.length ||
      !s.all (·.toNat < 0x80) then none
  else (Punycode.decode? s).filter fun label => fold? label = some label

/-- A label with its Punycode read, if it starts as such. -/
def readLabel? (label : List Char) : Option (List Char) :=
  if label.any isForbidden then none
  else
    match label with
    | 'x' :: 'n' :: '-' :: '-' :: s => readPunycode? s
    | _ => some label

/-! ## Joiners -/

/-- Whether the nearest character that is not transparent joins in one of the given ways. -/
def meetsJoining (ways : List Joining) (s : List Char) : Bool :=
  ((s.map Joining.ofChar).find? (· ≠ .transparent)).any ways.contains

/-- Whether each joiner stands after a sign that takes the vowel off a consonant or, if it is one
that keeps letters apart, between two letters that would join.  The text before `s` is given
in reverse. -/
def joinersFit (before : List Char) : List Char → Bool
  | [] => true
  | c :: rest =>
    let isAfterVirama := before.head?.any fun d => combiningClass d = viramaClass
    let keepsApart := c = '\u200c' && meetsJoining [.left, .dual] before &&
      meetsJoining [.right, .dual] rest
    (!isJoiner c || isAfterVirama || keepsApart) && joinersFit (c :: before) rest

/-! ## Directions -/

/-- Whether the directions in a label make one whole: it starts with a letter and keeps to the
direction of that letter up to its end. -/
def directionFits (label : List Char) : Bool :=
  match label.map Direction.ofChar with
  | [] => true
  | first :: rest =>
    let rest := (rest.reverse.dropWhile (· = .mark)).reverse
    let ends (allowed : List Direction) : Bool :=
      rest.getLast?.all allowed.contains &&
        rest.all fun d => allowed.contains d || d = .neutral || d = .mark
    match first with
    | .leftToRight => ends [.leftToRight, .europeanNumber]
    | .rightToLeft =>
      ends [.rightToLeft, .europeanNumber, .arabicNumber] &&
        !(rest.contains .europeanNumber && rest.contains .arabicNumber)
    | _ => false

/-- Whether a label has a character that is written from right to left. -/
def hasRightToLeft (label : List Char) : Bool :=
  label.any fun c => Direction.ofChar c = .rightToLeft || Direction.ofChar c = .arabicNumber

/-! ## Domains -/

/-- The most characters that a label with characters outside ASCII has. -/
def maxLabelLength : Nat := 1000

/-- Whether a text may be a label, by its own characters. -/
def isLabel (label : List Char) : Bool :=
  !label.head?.any isMark && joinersFit [] label &&
    (label.all (·.toNat < 0x80) || label.length ≤ maxLabelLength)

/-- The labels of the domain that a text denotes. -/
def labels? (s : List Char) : Option (List (List Char)) := do
  let folded ← fold? s
  let labels ← (splitOnChar '.' folded).mapM readLabel?
  if labels.all isLabel && (!labels.any hasRightToLeft || labels.all directionFits) then
    some labels
  else none

/-- The domain that a text denotes, in the form that is compared. -/
def ofText? (s : List Char) : Option (List Char) :=
  (labels? s).map fun labels => ['.'].intercalate labels

end ChatIndex.Url.Domain
