import ChatIndex.Text.Decimal
import Mathlib.Computability.Language

/-!
# Regular expressions of the engine

The expressions that the engine matches, with all their optional operators: the texts that an
expression matches as a whole, and the grammar by which a pattern is read as one.  In a pattern
nineteen characters are operators; each other character stands for itself, and so does any
character but a letter or a digit after a backslash.

* `language`  the texts that an expression matches
* `Reads`     the grammar: a pattern, the expression it begins with, and what is left of it
* `Denotes`   the expression that a whole pattern is
-/

namespace ChatIndex

open Computability

/-- A regular expression. -/
inductive Regexp where
  | nothing
  | emptyText
  | anyText
  | anyChar
  | literal (c : Char)
  | quoted (text : List Char)
  /-- A letter or digit after a backslash. -/
  | shorthand (c : Char)
  /-- What stands in angle brackets: an interval of numbers, or a name. -/
  | named (name : List Char)
  | oneOf (ranges : List (Char × Char))
  | noneOf (ranges : List (Char × Char))
  | complement (r : Regexp)
  | optional (r : Regexp)
  | star (r : Regexp)
  | plus (r : Regexp)
  | repeated (least : Nat) (most : Option Nat) (r : Regexp)
  | concat (r q : Regexp)
  | inter (r q : Regexp)
  | union (r q : Regexp)
deriving DecidableEq, Repr, Inhabited

namespace Regexp

/-! ## What an expression matches -/

/-- The texts behind the expressions that are defined elsewhere: those of an escaped letter or
digit, and those of a name or an interval in angle brackets. -/
structure Lexicon where
  shorthand : Char → Language Char
  named : List Char → Language Char

/-- Whether a character is in one of several ranges. -/
def InRanges (c : Char) (ranges : List (Char × Char)) : Prop :=
  ∃ range ∈ ranges, range.1 ≤ c ∧ c ≤ range.2

/-- The texts that an expression matches from their first to their last character. -/
def language (lexicon : Lexicon) : Regexp → Language Char
  | nothing => 0
  | emptyText => 1
  | anyText => ⊤
  | anyChar => {word | ∃ c, word = [c]}
  | literal c => {[c]}
  | quoted text => {text}
  | shorthand c => lexicon.shorthand c
  | named name => lexicon.named name
  | oneOf ranges => {word | ∃ c, word = [c] ∧ InRanges c ranges}
  | noneOf ranges => {word | ∃ c, word = [c] ∧ ¬ InRanges c ranges}
  | complement r => (r.language lexicon)ᶜ
  | optional r => 1 + r.language lexicon
  | star r => (r.language lexicon)∗
  | plus r => r.language lexicon * (r.language lexicon)∗
  | repeated least most r =>
    {word | ∃ n, least ≤ n ∧ (∀ m ∈ most, n ≤ m) ∧ word ∈ r.language lexicon ^ n}
  | concat r q => r.language lexicon * q.language lexicon
  | inter r q => {word | word ∈ r.language lexicon ∧ word ∈ q.language lexicon}
  | union r q => r.language lexicon + q.language lexicon

/-! ## The grammar

Each relation takes a pattern, what is read from its beginning, and the part behind it. -/

/-- The characters with a meaning of their own. -/
def operators : List Char :=
  ['.', '?', '+', '*', '|', '\x7b', '\x7d', '[', ']', '(', ')', '"', '\\', '#', '@', '&', '<',
   '>', '~']

/-- A character that stands for itself, as it is or after a backslash. -/
inductive ReadsChar : List Char → Char → List Char → Prop
  | plain {c rest} (hc : c ∉ operators) : ReadsChar (c :: rest) c rest
  | escaped {c rest} (hc : c.isAlphanum = false) : ReadsChar ('\\' :: c :: rest) c rest

/-- A character of a class, or the range between two. -/
inductive ReadsRange : List Char → Char × Char → List Char → Prop
  | single {i c rest} (h : ReadsChar i c rest) : ReadsRange i (c, c) rest
  | span {i c m d rest} (first : ReadsChar i c ('-' :: m)) (last : ReadsChar m d rest) :
      ReadsRange i (c, d) rest

/-- The inside of a class, which is not empty. -/
inductive ReadsRanges : List Char → List (Char × Char) → List Char → Prop
  | one {i range rest} (h : ReadsRange i range rest) : ReadsRanges i [range] rest
  | more {i range m ranges rest} (first : ReadsRange i range m)
      (others : ReadsRanges m ranges rest) : ReadsRanges i (range :: ranges) rest

/-- An operator behind an expression that says how often it is repeated. -/
inductive ReadsRepetition : List Char → (Regexp → Regexp) → List Char → Prop
  | optional {rest} : ReadsRepetition ('?' :: rest) optional rest
  | star {rest} : ReadsRepetition ('*' :: rest) star rest
  | plus {rest} : ReadsRepetition ('+' :: rest) plus rest
  | exactly {digits n rest} (hn : Text.natOfDigits? digits = some n) :
      ReadsRepetition ('\x7b' :: digits ++ '\x7d' :: rest) (repeated n (some n)) rest
  | atLeast {digits n rest} (hn : Text.natOfDigits? digits = some n) :
      ReadsRepetition ('\x7b' :: digits ++ ',' :: '\x7d' :: rest) (repeated n none) rest
  | between {digits digits' n m rest} (hn : Text.natOfDigits? digits = some n)
      (hm : Text.natOfDigits? digits' = some m) :
      ReadsRepetition ('\x7b' :: digits ++ ',' :: digits' ++ '\x7d' :: rest) (repeated n (some m))
        rest

/-- How tightly an expression is bound, from the loosest on. -/
inductive Level where
  | union
  | inter
  | concat
  | repetition
  | complement
deriving DecidableEq, Repr

/-- An expression of a level. -/
inductive Reads : Level → List Char → Regexp → List Char → Prop
  | union {i r m q rest} (left : Reads .inter i r ('|' :: m)) (right : Reads .union m q rest) :
      Reads .union i (union r q) rest
  | ofInter {i r rest} (h : Reads .inter i r rest) : Reads .union i r rest
  | inter {i r m q rest} (left : Reads .concat i r ('&' :: m)) (right : Reads .inter m q rest) :
      Reads .inter i (inter r q) rest
  | ofConcat {i r rest} (h : Reads .concat i r rest) : Reads .inter i r rest
  | concat {i r m q rest} (left : Reads .repetition i r m) (right : Reads .concat m q rest) :
      Reads .concat i (concat r q) rest
  | ofRepetition {i r rest} (h : Reads .repetition i r rest) : Reads .concat i r rest
  | repetition {i r m repeating rest} (h : Reads .repetition i r m)
      (hrepeating : ReadsRepetition m repeating rest) : Reads .repetition i (repeating r) rest
  | ofComplement {i r rest} (h : Reads .complement i r rest) : Reads .repetition i r rest
  | complement {i r rest} (h : Reads .complement i r rest) :
      Reads .complement ('~' :: i) (complement r) rest
  | oneOf {i ranges rest} (h : ReadsRanges i ranges (']' :: rest)) :
      Reads .complement ('[' :: i) (oneOf ranges) rest
  | noneOf {i ranges rest} (h : ReadsRanges i ranges (']' :: rest)) :
      Reads .complement ('[' :: '^' :: i) (noneOf ranges) rest
  | literal {i c rest} (h : ReadsChar i c rest) : Reads .complement i (literal c) rest
  | shorthand {c rest} (hc : c.isAlphanum = true) :
      Reads .complement ('\\' :: c :: rest) (shorthand c) rest
  | anyChar {rest} : Reads .complement ('.' :: rest) anyChar rest
  | nothing {rest} : Reads .complement ('#' :: rest) nothing rest
  | anyText {rest} : Reads .complement ('@' :: rest) anyText rest
  | quoted {text rest} (h : '"' ∉ text) :
      Reads .complement ('"' :: text ++ '"' :: rest) (quoted text) rest
  | emptyText {rest} : Reads .complement ('(' :: ')' :: rest) emptyText rest
  | group {i r rest} (h : Reads .union i r (')' :: rest)) : Reads .complement ('(' :: i) r rest
  | named {name rest} (hname : name ≠ []) (h : '>' ∉ name) :
      Reads .complement ('<' :: name ++ '>' :: rest) (named name) rest

/-- The expression that a pattern is as a whole. -/
def Denotes (pattern : String) (r : Regexp) : Prop :=
  Reads .union pattern.toList r []

/-! ## What a pattern begins with -/

variable {l : Level} {i rest : List Char} {r : Regexp}

/-- A repetition begins with its operator. -/
theorem ReadsRepetition.exists_cons {repeating : Regexp → Regexp}
    (h : ReadsRepetition i repeating rest) : ∃ c m, i = c :: m ∧ c ∈ ['?', '*', '+', '\x7b'] := by
  cases h <;> exact ⟨_, _, rfl, by decide⟩

/-- A star is the whole operator. -/
theorem ReadsRepetition.eq_star {repeating : Regexp → Regexp}
    (h : ReadsRepetition ('*' :: i) repeating rest) : repeating = .star ∧ rest = i := by
  cases h
  exact ⟨rfl, rfl⟩

/-- No expression is empty, and none begins with a star. -/
theorem Reads.exists_cons (h : Reads l i r rest) : ∃ c m, i = c :: m ∧ c ≠ '*' := by
  induction h with
  | union _ _ ih | inter _ _ ih | concat _ _ ih => exact ih
  | ofInter _ ih | ofConcat _ ih | ofRepetition _ ih | repetition _ _ ih | ofComplement _ ih =>
    exact ih
  -- A character that stands for itself is no operator, and after a backslash the pattern begins
  -- with that.
  | literal h =>
    cases h with
    | plain hc =>
      refine ⟨_, _, rfl, ?_⟩
      rintro rfl
      exact hc (by decide)
    | escaped _ => exact ⟨_, _, rfl, by decide⟩
  | _ => exact ⟨_, _, rfl, by decide⟩

/-! ## Expressions and what stands behind them -/

/-- A part of a pattern that no operator repeats. -/
def Unrepeated (i : List Char) : Prop :=
  ∀ c m, i = c :: m → c ∉ ['?', '*', '+', '\x7b']

/-- Nothing repeats what stands before an unrepeated part. -/
theorem Unrepeated.not_readsRepetition {repeating : Regexp → Regexp} (h : Unrepeated i) :
    ¬ ReadsRepetition i repeating rest := by
  intro hrepeating
  obtain ⟨c, m, rfl, hc⟩ := hrepeating.exists_cons
  exact h c m rfl hc

variable {a : Regexp} {tail : List Char}

/-- Where an expression can be read in one way only and nothing repeats it, it is not repeated. -/
theorem Reads.eq_of_unrepeated
    (honly : ∀ r rest, Reads .complement i r rest → r = a ∧ rest = tail) (htail : Unrepeated tail)
    (h : Reads .repetition i r rest) : r = a ∧ rest = tail := by
  generalize hl : Level.repetition = l at h
  induction h with
  | repetition _ hrepeating ih =>
    -- What stands behind the expression would have to begin with an operator.
    obtain ⟨rfl, rfl⟩ := ih honly hl
    exact absurd hrepeating htail.not_readsRepetition
  | ofComplement h _ => exact honly _ _ h
  | _ => cases hl

/-- Where a star stands behind it and nothing more repeats it, it may be read without the star or
with it. -/
theorem Reads.cases_of_star
    (honly : ∀ r rest, Reads .complement i r rest → r = a ∧ rest = '*' :: tail)
    (htail : Unrepeated tail) (h : Reads .repetition i r rest) :
    (r = a ∧ rest = '*' :: tail) ∨ (r = .star a ∧ rest = tail) := by
  generalize hl : Level.repetition = l at h
  induction h with
  | repetition _ hrepeating ih =>
    obtain ⟨rfl, rfl⟩ | ⟨rfl, rfl⟩ := ih honly hl
    · obtain ⟨rfl, rfl⟩ := hrepeating.eq_star
      exact .inr ⟨rfl, rfl⟩
    · exact absurd hrepeating htail.not_readsRepetition
  | ofComplement h _ => exact .inl (honly _ _ h)
  | _ => cases hl

end Regexp

end ChatIndex
