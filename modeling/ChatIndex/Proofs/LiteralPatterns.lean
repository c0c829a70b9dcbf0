import ChatIndex.Engine.Memory
import ChatIndex.Proofs.Regexp
import ChatIndex.Search.Pattern

/-!
# The pattern of a search means the text it was made from

Whatever text is searched for, its pattern is one expression in one way: anything, then the
characters of the text one after the other, each standing for itself, then anything.  So it
matches the texts that contain the text searched for, and no others.

* `reads_literally`             the escaped text is read as its characters
* `eq_of_reads_literally`       and in no other way
* `mem_containing`              what the expression matches
* `containsPattern_contains`    all of it, and that the text can be got back from its pattern
-/

namespace ChatIndex.Search

open Regexp

/-! ## The expression that contains a text -/

/-- The characters of a text in their order, then anything. -/
def literally : List Char → Regexp
  | [] => .star .anyChar
  | c :: text => .concat (.literal c) (literally text)

/-- Anything, the characters of a text in their order, anything. -/
def containing (text : List Char) : Regexp :=
  .concat (.star .anyChar) (literally text)

section Language

variable {lexicon : Lexicon} {word : List Char}

/-- Anything is matched by any text. -/
theorem mem_star_anyChar (lexicon : Lexicon) (word : List Char) :
    word ∈ (star anyChar).language lexicon := by
  rw [language, Language.mem_kstar]
  -- A text is made of its characters, each for itself.
  refine ⟨word.map fun c => [c], ?_, fun y hy => ?_⟩
  · rw [← List.flatMap_def, List.flatMap_singleton']
  · obtain ⟨c, -, rfl⟩ := List.mem_map.1 hy
    exact ⟨c, rfl⟩

/-- The characters of a text, then anything, match what begins with the text. -/
theorem mem_literally {text : List Char} :
    word ∈ (literally text).language lexicon ↔ text <+: word := by
  induction text generalizing word with
  | nil => exact iff_of_true (mem_star_anyChar lexicon word) (List.nil_prefix)
  | cons c text ih =>
    rw [literally, language, Language.mem_mul]
    constructor
    · rintro ⟨_, rfl, rest, hrest, rfl⟩
      exact List.cons_prefix_cons.2 ⟨rfl, ih.1 hrest⟩
    · rintro ⟨rest, rfl⟩
      exact ⟨[c], rfl, text ++ rest, ih.2 (List.prefix_append text rest), rfl⟩

/-- Anything in front as well: what is matched has the text somewhere. -/
theorem mem_containing {text : List Char} :
    word ∈ (containing text).language lexicon ↔ text <:+: word := by
  rw [containing, language, Language.mem_mul, List.infix_iff_prefix_suffix]
  constructor
  · rintro ⟨before, -, rest, hrest, rfl⟩
    exact ⟨rest, mem_literally.1 hrest, List.suffix_append before rest⟩
  · rintro ⟨rest, htext, before, rfl⟩
    exact ⟨before, mem_star_anyChar lexicon before, rest, mem_literally.2 htext, rfl⟩

end Language

/-! ## Escaped characters -/

/-- What is escaped are the operators. -/
theorem mem_reservedChars_iff {c : Char} : reservedChars.contains c = true ↔ c ∈ operators := by
  rw [List.contains_iff_mem]
  exact Iff.rfl

theorem escapeChar_of_mem {c : Char} (hc : c ∈ operators) : escapeChar c = ['\\', c] := by
  rw [escapeChar, if_pos (mem_reservedChars_iff.2 hc)]

theorem escapeChar_of_not_mem {c : Char} (hc : c ∉ operators) : escapeChar c = [c] := by
  rw [escapeChar, if_neg (mt mem_reservedChars_iff.1 hc)]

/-- No operator is a letter or a digit. -/
theorem isAlphanum_of_mem {c : Char} (hc : c ∈ operators) : c.isAlphanum = false := by
  have hall : operators.all (fun c => !c.isAlphanum) = true := by decide
  simpa using List.all_eq_true.1 hall c hc

variable {i rest tail text : List Char} {r : Regexp} {c : Char}

/-- Escaped or not, a character is read as itself. -/
theorem readsChar_escapeChar (c : Char) (tail : List Char) :
    ReadsChar (escapeChar c ++ tail) c tail := by
  by_cases hc : c ∈ operators
  · rw [escapeChar_of_mem hc]
    exact .escaped (isAlphanum_of_mem hc)
  · rw [escapeChar_of_not_mem hc]
    exact .plain hc

/-- An escaped character is the character and nothing else. -/
theorem eq_of_reads_escapeChar (h : Reads .complement (escapeChar c ++ tail) r rest) :
    r = .literal c ∧ rest = tail := by
  by_cases hc : c ∈ operators
  · rw [escapeChar_of_mem hc] at h
    cases h with
    | literal h =>
      cases h with
      | plain hplain => exact absurd (by decide) hplain
      | escaped _ => exact ⟨rfl, rfl⟩
    -- A backslash in front of a letter or digit would mean something else.
    | shorthand halnum => simp [isAlphanum_of_mem hc] at halnum
  · rw [escapeChar_of_not_mem hc] at h
    -- Either the character stands alone, or it begins an operator.
    cases h with
    | literal h =>
      cases h with
      | plain _ => exact ⟨rfl, rfl⟩
      | escaped _ => exact absurd (by decide) hc
    -- All other expressions begin with an operator.
    | _ => exact absurd (by decide) hc

/-- A point is any character and nothing else. -/
theorem eq_of_reads_anyChar (h : Reads .complement ('.' :: tail) r rest) :
    r = .anyChar ∧ rest = tail := by
  cases h with
  | literal h =>
    cases h with
    | plain hplain => exact absurd (by decide) hplain
  | anyChar => exact ⟨rfl, rfl⟩

/-- Before the end of a pattern there is no operator but the backslash that takes its meaning from
another one. -/
theorem head_flatMap_escapeChar {d : Char} {m : List Char}
    (h : text.flatMap escapeChar ++ '.' :: tail = d :: m) : d ∈ operators → d = '.' ∨ d = '\\' := by
  cases text with
  | nil => exact fun _ => .inl (List.cons.inj h).1.symm
  | cons c text =>
    by_cases hc : c ∈ operators
    · rw [List.flatMap_cons, escapeChar_of_mem hc] at h
      exact fun _ => .inr (List.cons.inj h).1.symm
    · rw [List.flatMap_cons, escapeChar_of_not_mem hc] at h
      exact fun hd => absurd ((List.cons.inj h).1 ▸ hd) hc

/-- So nothing there repeats what stands before it. -/
theorem unrepeated_flatMap_escapeChar (text tail : List Char) :
    Unrepeated (text.flatMap escapeChar ++ '.' :: tail) := by
  have hrepeating : ∀ d ∈ ['?', '*', '+', '\x7b'], d ∈ operators ∧ ¬ (d = '.' ∨ d = '\\') := by
    intro d hd
    simp only [List.mem_cons, List.not_mem_nil, or_false] at hd
    obtain rfl | rfl | rfl | rfl := hd <;> decide
  intro d m hd hmem
  exact (hrepeating d hmem).2 (head_flatMap_escapeChar hd (hrepeating d hmem).1)

/-- A part of a pattern that cannot belong to the sequence before it: there is none, or it begins
with an operator between sequences. -/
def Apart (i : List Char) : Prop :=
  ∀ d m, i = d :: m → d = '&' ∨ d = '|'

/-- A text with the end of the pattern always belongs to the sequence before it. -/
theorem not_apart_flatMap_escapeChar (text tail : List Char) :
    ¬ Apart (text.flatMap escapeChar ++ '.' :: tail) := by
  intro hapart
  obtain ⟨d, m, hd⟩ := List.exists_cons_of_ne_nil
    (List.append_ne_nil_of_right_ne_nil (text.flatMap escapeChar) (List.cons_ne_nil '.' tail))
  obtain rfl | rfl := hapart d m hd
  all_goals exact absurd (head_flatMap_escapeChar hd (by decide)) (by decide)

/-! ## How a pattern is read -/

/-- A point and a star are read as anything. -/
theorem reads_star_anyChar (tail : List Char) :
    Reads .repetition ('.' :: '*' :: tail) (.star .anyChar) tail :=
  .repetition (.ofComplement .anyChar) .star

/-- A point and a star in front of a sequence that is read after them, or of nothing. -/
theorem eq_of_reads_star_anyChar (htail : Unrepeated tail)
    (hrest : (∃ q rest', Reads .concat rest q rest') ∨ Apart rest)
    (h : Reads .repetition ('.' :: '*' :: tail) r rest) : r = .star .anyChar ∧ rest = tail := by
  obtain ⟨-, rfl⟩ | hstar := h.cases_of_star (fun _ _ => eq_of_reads_anyChar) htail
  · -- The star would stand for itself, or belong to nothing.
    obtain ⟨q, rest', hq⟩ | hapart := hrest
    · obtain ⟨d, m, hd, hne⟩ := hq.exists_cons
      exact absurd (List.cons.inj hd).1.symm hne
    · obtain hd | hd := hapart '*' tail rfl <;> cases hd
  · exact hstar

/-- The escaped text with the end of the pattern is read as the characters and anything. -/
theorem reads_literally (text : List Char) :
    Reads .concat (text.flatMap escapeChar ++ ['.', '*']) (literally text) [] := by
  induction text with
  | nil => exact .ofRepetition (reads_star_anyChar [])
  | cons c text ih =>
    rw [List.flatMap_cons, List.append_assoc]
    exact .concat (.ofComplement (.literal (readsChar_escapeChar c _))) ih

/-- The escaped text with the end of the pattern is one sequence, read in one way. -/
theorem eq_of_reads_literally (hrest : Apart rest)
    (h : Reads .concat (text.flatMap escapeChar ++ ['.', '*']) r rest) :
    r = literally text ∧ rest = [] := by
  induction text generalizing r with
  | nil =>
    -- At the end nothing follows that could repeat.
    have htail : Unrepeated [] := by
      intro c m h
      cases h
    cases h with
    | concat left right =>
      obtain ⟨-, rfl⟩ := eq_of_reads_star_anyChar htail (.inl ⟨_, _, right⟩) left
      -- A sequence is not empty, and nothing is left for it.
      obtain ⟨d, m, hd, -⟩ := right.exists_cons
      cases hd
    | ofRepetition h => exact eq_of_reads_star_anyChar htail (.inr hrest) h
  | cons c text ih =>
    have htail := unrepeated_flatMap_escapeChar text ['*']
    rw [List.flatMap_cons, List.append_assoc] at h
    cases h with
    | concat left right =>
      obtain ⟨rfl, rfl⟩ := left.eq_of_unrepeated (fun _ _ => eq_of_reads_escapeChar) htail
      obtain ⟨rfl, rfl⟩ := ih right
      exact ⟨rfl, rfl⟩
    -- The text would end here, but its next character belongs to the sequence.
    | ofRepetition h =>
      obtain ⟨-, rfl⟩ := h.eq_of_unrepeated (fun _ _ => eq_of_reads_escapeChar) htail
      exact absurd hrest (not_apart_flatMap_escapeChar text ['*'])

/-- A whole pattern is one sequence, read in one way. -/
theorem eq_of_reads_concat (hrest : Apart rest) (h : Reads .concat (containsChars text) r rest) :
    r = containing text ∧ rest = [] := by
  have htail := unrepeated_flatMap_escapeChar text ['*']
  cases h with
  | concat left right =>
    obtain ⟨rfl, rfl⟩ := eq_of_reads_star_anyChar htail (.inl ⟨_, _, right⟩) left
    obtain ⟨rfl, rfl⟩ := eq_of_reads_literally hrest right
    exact ⟨rfl, rfl⟩
  | ofRepetition h =>
    obtain ⟨-, rfl⟩ := eq_of_reads_star_anyChar htail (.inr hrest) h
    exact absurd hrest (not_apart_flatMap_escapeChar text ['*'])

/-- A whole pattern is one expression in one way. -/
theorem denotes_containsPattern_iff {text : String} :
    Denotes (containsPattern text) r ↔ r = containing text.toList := by
  rw [Denotes, containsPattern, String.toList_ofList]
  constructor
  · intro h
    -- No operator between sequences is left over, so there is one sequence.
    have hinter : ∀ {r rest}, Apart rest → Reads .inter (containsChars text.toList) r rest →
        r = containing text.toList ∧ rest = [] := by
      intro r rest hrest h
      cases h with
      | inter left right => cases (eq_of_reads_concat (by simp [Apart]) left).2
      | ofConcat h => exact eq_of_reads_concat hrest h
    cases h with
    | union left right => cases (hinter (by simp [Apart]) left).2
    | ofInter h => exact (hinter (by simp [Apart]) h).1
  · rintro rfl
    exact .ofInter (.ofConcat (.concat (reads_star_anyChar _) (reads_literally text.toList)))

/-! ## The text behind a pattern -/

/-- Taking the backslashes away gives the text back. -/
theorem unescape_flatMap_escapeChar (text : List Char) :
    Memory.literalOf.unescape (text.flatMap escapeChar) = text := by
  induction text with
  | nil => rfl
  | cons c text ih =>
    rw [List.flatMap_cons]
    by_cases hc : c ∈ operators
    · rw [escapeChar_of_mem hc]
      simpa [Memory.literalOf.unescape] using ih
    · -- The backslash is an operator, so this character is none.
      have hescape : c ≠ '\\' := by
        rintro rfl
        exact hc (by decide)
      rw [escapeChar_of_not_mem hc]
      simpa [Memory.literalOf.unescape, hescape] using ih

/-- Without its ends and its escapes a pattern is the text it was made from. -/
theorem literalOf_containsPattern (text : String) :
    Memory.literalOf (containsPattern text) = text.toList := by
  rw [Memory.literalOf, containsPattern, String.toList_ofList]
  have hinner : Memory.literalOf.inner (containsChars text.toList) =
      text.toList.flatMap escapeChar := by
    simp [Memory.literalOf.inner, containsChars]
  rw [hinner, unescape_flatMap_escapeChar]

/-! ## All of it -/

/-- Whether a text is one that a pattern matches. -/
def Accepts (lexicon : Lexicon) (pattern text : String) : Prop :=
  ∃ r, Denotes pattern r ∧ text.toList ∈ r.language lexicon

/-- The pattern of a text is, as the engine reads it, anything, the characters of the text in their
order and each for itself, and anything; so it matches exactly the texts in which the text occurs,
whatever expressions in letters, digits or angle brackets mean.  Texts with one pattern are equal,
and a pattern gives its text back. -/
theorem containsPattern_contains (lexicon : Lexicon) (text : String) :
    (∀ r, Denotes (containsPattern text) r ↔ r = containing text.toList) ∧
      (∀ found, Accepts lexicon (containsPattern text) found ↔ text.toList <:+: found.toList) ∧
      (∀ text', containsPattern text' = containsPattern text → text' = text) ∧
      Memory.literalOf (containsPattern text) = text.toList := by
  refine ⟨fun r => denotes_containsPattern_iff, fun found => ?_, fun text' h => ?_,
    literalOf_containsPattern text⟩
  · simp only [Accepts, denotes_containsPattern_iff, exists_eq_left, mem_containing]
  · rw [← String.toList_inj, ← literalOf_containsPattern, h, literalOf_containsPattern]

example : containsPattern "a.*\\" = ".*a\\.\\*\\\\.*" := by decide

end ChatIndex.Search
