/-! # White space and control characters

The two Unicode classes that decide whether a setting is given, whether a room has a name and
whether a token is an event id: the property `White_Space` and the general category `Cc`.

* `isBlank_iff`            a text is blank iff each of its characters is white space
* `trim_eq_empty_iff`      trimming leaves nothing iff the text is blank
* `eqIgnoreAsciiCase_iff`  texts that differ in case only are equal letter by letter
-/

namespace ChatIndex.Text

/-- The Unicode property `White_Space`. -/
def isSpace (c : Char) : Bool :=
  let n := c.toNat
  (0x09 ≤ n && n ≤ 0x0d) || n == 0x20 || n == 0x85 || n == 0xa0 || n == 0x1680 ||
    (0x2000 ≤ n && n ≤ 0x200a) || n == 0x2028 || n == 0x2029 || n == 0x202f || n == 0x205f ||
    n == 0x3000

/-- The general category `Cc`. -/
def isControl (c : Char) : Bool :=
  let n := c.toNat
  n ≤ 0x1f || (0x7f ≤ n && n ≤ 0x9f)

/-- Characters without the white space on either side. -/
def trimChars (cs : List Char) : List Char :=
  ((cs.dropWhile isSpace).reverse.dropWhile isSpace).reverse

/-- A text without the white space on either side. -/
def trim (s : String) : String :=
  String.ofList (trimChars s.toList)

/-- A text with nothing but white space, the empty one included. -/
def isBlank (s : String) : Bool :=
  s.toList.all isSpace

/-- Upper-case ASCII letters become lower-case, all else stays. -/
def asciiLower (s : String) : String :=
  s.map Char.toLower

/-- Equality up to the case of ASCII letters. -/
def eqIgnoreAsciiCase (s t : String) : Bool :=
  asciiLower s == asciiLower t

/-! ## Lemmas -/

theorem isBlank_iff {s : String} : isBlank s = true ↔ ∀ c ∈ s.toList, isSpace c = true := by
  simp [isBlank, List.all_eq_true]

@[simp] theorem isBlank_empty : isBlank "" = true := rfl

private theorem dropWhile_eq_nil_iff_all (cs : List Char) :
    cs.dropWhile isSpace = [] ↔ ∀ c ∈ cs, isSpace c = true := by
  induction cs with
  | nil => simp
  | cons c r ih =>
    by_cases h : isSpace c = true
    · simp [h, ih]
    · simp [h]

/-- Nothing is left of a blank text, and only of a blank one. -/
theorem trimChars_eq_nil_iff {cs : List Char} :
    trimChars cs = [] ↔ ∀ c ∈ cs, isSpace c = true := by
  unfold trimChars
  rw [List.reverse_eq_nil_iff, dropWhile_eq_nil_iff_all]
  simp only [List.mem_reverse]
  constructor
  · intro h
    rw [← dropWhile_eq_nil_iff_all]
    cases hd : cs.dropWhile isSpace with
    | nil => rfl
    | cons c r =>
      have hc : isSpace c = true := h c (by simp [hd])
      have hn := List.head_dropWhile_not (l := cs) isSpace (by simp [hd])
      simp [hd, hc] at hn
  · intro h c hc
    exact h c ((List.dropWhile_sublist isSpace).subset hc)

theorem trim_eq_empty_iff {s : String} : trim s = "" ↔ isBlank s = true := by
  rw [isBlank_iff, ← trimChars_eq_nil_iff, trim]
  constructor
  · intro h
    have := congrArg String.toList h
    simpa using this
  · intro h
    simp [h]

theorem asciiLower_eq_iff {s t : String} :
    asciiLower s = t ↔ s.toList.map Char.toLower = t.toList := by
  rw [asciiLower, ← String.toList_inj, String.toList_map]

theorem eqIgnoreAsciiCase_iff {s t : String} :
    eqIgnoreAsciiCase s t = true ↔ s.toList.map Char.toLower = t.toList.map Char.toLower := by
  rw [eqIgnoreAsciiCase, beq_iff_eq, asciiLower_eq_iff, asciiLower, String.toList_map]

end ChatIndex.Text
