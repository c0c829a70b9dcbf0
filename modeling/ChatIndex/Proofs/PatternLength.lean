import ChatIndex.Proofs.Visibility

/-!
# How long the pattern of a search is

The engine refuses a pattern of more than a thousand units of UTF-16.  A search measures its
pattern in characters, of which those outside of the basic plane are two units each.  The two
measures part there and nowhere else: whatever fits the engine is searched for, but a text with
characters outside of the basic plane may be sent in a pattern that the engine refuses.

* `length_containsPattern`        the characters of a pattern
* `utf16Length_containsPattern`   its units
* `engineCalls_runWith_of_ok`     what a search asks the engine for
* `overlong_pattern_sent_iff`     which texts are sent in a pattern that is too long
-/

namespace ChatIndex

/-! ## Units -/

/-- Whether a character lies outside of the basic plane. -/
def Text.isSupplementary (c : Char) : Bool :=
  0x10000 ≤ c.toNat

/-- The length of a text in units of UTF-16: two for a character outside of the basic plane, one
for every other. -/
def Text.utf16Length (s : String) : Nat :=
  s.toList.foldr (fun c n => (if isSupplementary c then 2 else 1) + n) 0

/-- The units of a text are its characters, and once more those that take two. -/
theorem Text.utf16Length_eq (s : String) :
    utf16Length s = s.toList.length + s.toList.countP isSupplementary := by
  unfold utf16Length
  induction s.toList with
  | nil => rfl
  | cons c cs ih =>
    rw [List.foldr_cons, ih, List.length_cons, List.countP_cons]
    split <;> omega

namespace Search

/-- The longest pattern that the engine takes, in units of UTF-16. -/
def maxPatternUnits : Nat := 1000

/-! ## Two measures of a pattern -/

/-- Each character of a text stays, with a backslash before those that are escaped. -/
theorem length_flatMap_escapeChar (text : List Char) :
    (text.flatMap escapeChar).length = text.length + text.countP reservedChars.contains := by
  induction text with
  | nil => rfl
  | cons c text ih =>
    rw [List.flatMap_cons, List.length_append, ih, escapeChar, List.length_cons, List.countP_cons]
    split <;> simp <;> omega

/-- A backslash is in the basic plane. -/
theorem countP_flatMap_escapeChar (text : List Char) :
    (text.flatMap escapeChar).countP Text.isSupplementary =
      text.countP Text.isSupplementary := by
  have hbackslash : Text.isSupplementary '\\' = false := rfl
  induction text with
  | nil => rfl
  | cons c text ih =>
    rw [List.flatMap_cons, List.countP_append, ih, escapeChar, List.countP_cons]
    split <;> simp [List.countP_cons, hbackslash] <;> omega

/-- The characters of a text that are escaped. -/
def escapes (text : String) : Nat :=
  text.toList.countP reservedChars.contains

/-- The characters of a text outside of the basic plane. -/
def supplementary (text : String) : Nat :=
  text.toList.countP Text.isSupplementary

/-- Two characters on each side, the characters of the text, and a backslash for each that is
escaped. -/
theorem length_containsPattern (text : String) :
    (containsPattern text).length = 4 + text.length + escapes text := by
  rw [containsPattern, String.length_ofList, containsChars, List.length_append, List.length_append,
    length_flatMap_escapeChar, ← String.length_toList]
  simp [escapes]
  omega

/-- The units of a pattern are its characters, and once more those of the text that take two. -/
theorem utf16Length_containsPattern (text : String) :
    Text.utf16Length (containsPattern text) =
      (containsPattern text).length + supplementary text := by
  have hends : ['.', '*'].countP Text.isSupplementary = 0 := rfl
  rw [Text.utf16Length_eq, String.length_toList, containsPattern, String.toList_ofList,
    containsChars, List.countP_append, List.countP_append, countP_flatMap_escapeChar, hends,
    Nat.zero_add, Nat.add_zero, supplementary]

/-! ## What a search asks the engine for -/

open Attempt

/-- An attempt that leaves the engine alone. -/
def SparesEngine {ε α : Type} (x : Attempt ε α) : Prop :=
  ∀ es ls r, x.run.Ends es ls r → engineCalls es = []

namespace SparesEngine

variable {ε α β : Type}

theorem pure (a : α) : SparesEngine (Pure.pure a : Attempt ε α) := by
  intro es ls r h
  rw [(ends_pure.1 h).1]
  rfl

theorem read (c : ReadCall) : SparesEngine (read c) := by
  intro es ls r h
  obtain ⟨answer, es', rfl, hdone⟩ := Course.ends_call.1 h
  rw [(Course.ends_done.1 hdone).1]
  rfl

/-- Two attempts that leave the engine alone do so one after the other. -/
theorem bind {x : Attempt ε α} {f : α → Attempt ε β} (hx : SparesEngine x)
    (hf : ∀ a, SparesEngine (f a)) : SparesEngine (x >>= f) := by
  intro es ls r h
  obtain ⟨e, hfirst, -⟩ | ⟨a, es₁, es₂, ls₁, ls₂, h₁, h₂, rfl, -⟩ := ends_bind.1 h
  · exact hx _ _ _ hfirst
  · rw [engineCalls_append, hx _ _ _ h₁, hf a _ _ _ h₂]
    rfl

end SparesEngine

/-- What was found is completed by questions to the read model. -/
theorem sparesEngine_completion (listing : Listing) (userRooms : List String)
    (userId : String) (found : Visible) :
    SparesEngine (completion listing userRooms userId found) :=
  completion_induction SparesEngine.pure SparesEngine.read SparesEngine.bind listing userRooms
    userId found

variable {listing : Listing} {names : IndexNames} {text userId p : String}
  {email : Option String} {es : List Exchange} {ls : List LogRecord}

/-- The engine is asked once, for the hits of the pattern. -/
theorem engineCalls_results {r : Except CallError Results}
    (h : (results listing names p userId email).run.Ends es ls r) :
    engineCalls es = [.search p (targets names)] := by
  rw [results] at h
  obtain ⟨e, rfl, -, -⟩ | ⟨lists, es₁, rfl, hread⟩ := ends_engine_bind.1 h
  · rfl
  obtain ⟨e, rfl, -, -⟩ | ⟨ids, es₂, rfl, hvisible⟩ := ends_read_bind.1 hread
  · rfl
  -- What follows the hits and the rooms of the user are questions to the read model.
  have hrest : engineCalls es₂ = [] := by
    split at hvisible
    · rw [(ends_throw.1 hvisible).1]
      rfl
    · next found _ => exact sparesEngine_completion listing ids userId found _ _ _ hvisible
  exact congrArg (EngineCall.search p (targets names) :: ·) hrest

/-- A text that is searched for is searched for by its pattern. -/
theorem engineCalls_runWith_of_ok {r : Except QueryError Results} (hp : pattern text = .ok p)
    (h : (runWith listing names text userId email).run.Ends es ls r) :
    engineCalls es = [.search p (targets names)] := by
  rw [runWith, hp] at h
  obtain ⟨r', hresults, -⟩ := Course.ends_map.1 h
  exact engineCalls_results hresults

/-- For every other text the engine is left alone. -/
theorem engineCalls_runWith_of_error {r : Except QueryError Results} {e : QueryError}
    (he : pattern text = .error e)
    (h : (runWith listing names text userId email).run.Ends es ls r) : engineCalls es = [] := by
  rw [runWith, he] at h
  rw [(ends_throw.1 h).1]
  rfl

/-! ## Patterns that are too long for the engine -/

/-- Whether the engine is asked for the hits of a pattern. -/
def Sends (es : List Exchange) (p : String) : Prop :=
  ∃ targets, .search p targets ∈ engineCalls es

/-- A pattern is sent if it is that of the text and the text is searched for. -/
theorem sends_iff {r : Except QueryError Results}
    (h : (runWith listing names text userId email).run.Ends es ls r) :
    Sends es p ↔ (Text.isBlank text = false ∧ 4 + text.length + escapes text ≤ 1000) ∧
      p = containsPattern text := by
  rw [← length_containsPattern]
  refine Iff.trans ?_ pattern_eq_ok_iff
  -- The text is searched for or refused, and the engine is asked accordingly.
  cases hp : pattern text with
  | error e => simp [Sends, engineCalls_runWith_of_error hp h]
  | ok p' => simp [Sends, engineCalls_runWith_of_ok hp h, eq_comm]

/-- A search sends a pattern that is too long for the engine if and only if its text is not blank,
its pattern has at most a thousand characters, and with the second units of its characters outside
of the basic plane it has more than a thousand units.  No such pattern has more than 1996 units,
and the engine is asked for nothing else.  Every text whose pattern fits the engine, and is not
blank, is searched for. -/
theorem overlong_pattern_sent_iff {r : Except QueryError Results}
    (h : (runWith listing names text userId email).run.Ends es ls r) :
    ((∃ p, Sends es p ∧ maxPatternUnits < Text.utf16Length p) ↔
        Text.isBlank text = false ∧ 4 + text.length + escapes text ≤ 1000 ∧
          1000 < 4 + text.length + escapes text + supplementary text) ∧
      (∀ call ∈ engineCalls es, ∃ p targets, call = .search p targets ∧
        Text.utf16Length p ≤ 1996) ∧
      (Text.isBlank text = false → Text.utf16Length (containsPattern text) ≤ maxPatternUnits →
        Sends es (containsPattern text)) := by
  have hunits : Text.utf16Length (containsPattern text) =
      4 + text.length + escapes text + supplementary text := by
    rw [utf16Length_containsPattern, length_containsPattern]
  refine ⟨?_, ?_, ?_⟩
  · -- The one pattern that may be sent is that of the text.
    simp only [sends_iff h, and_assoc]
    constructor
    · rintro ⟨p, hblank, hshort, rfl, hlong⟩
      exact ⟨hblank, hshort, hunits ▸ hlong⟩
    · rintro ⟨hblank, hshort, hlong⟩
      exact ⟨_, hblank, hshort, rfl, hunits ▸ hlong⟩
  · intro call hcall
    cases hp : pattern text with
    | error e =>
      rw [engineCalls_runWith_of_error hp h] at hcall
      cases hcall
    | ok p =>
      rw [engineCalls_runWith_of_ok hp h] at hcall
      obtain ⟨⟨-, hshort⟩, rfl⟩ := pattern_eq_ok_iff.1 hp
      refine ⟨_, _, List.mem_singleton.1 hcall, ?_⟩
      -- At most 996 characters are the text's own.
      have hsupplementary : supplementary text ≤ text.length := by
        rw [supplementary, ← String.length_toList]
        exact List.countP_le_length
      rw [length_containsPattern, maxPatternLength] at hshort
      omega
  · intro hblank hfits
    -- A pattern that fits in units fits in characters.
    rw [hunits, maxPatternUnits] at hfits
    exact (sends_iff h).2 ⟨⟨hblank, by omega⟩, rfl⟩

/-! ## Texts of one character, repeated -/

/-- A character, repeated. -/
def repeated (n : Nat) (c : Char) : String :=
  String.ofList (List.replicate n c)

section Repeated

variable {n : Nat} {c : Char}

theorem isBlank_repeated (hn : n ≠ 0) (hc : Text.isSpace c = false) :
    Text.isBlank (repeated n c) = false := by
  simp [Text.isBlank, repeated, String.toList_ofList, hn, hc]

theorem length_repeated : (repeated n c).length = n := by
  rw [repeated, String.length_ofList, List.length_replicate]

/-- Nothing of it is escaped if the character is no operator. -/
theorem escapes_repeated (hc : reservedChars.contains c = false) : escapes (repeated n c) = 0 := by
  rw [escapes, repeated, String.toList_ofList, List.countP_replicate, hc]
  rfl

/-- All of it takes two units, or nothing does. -/
theorem supplementary_repeated :
    supplementary (repeated n c) = if Text.isSupplementary c then n else 0 := by
  rw [supplementary, repeated, String.toList_ofList, List.countP_replicate]

end Repeated

/-- The longest text of letters that is searched for: its pattern has a thousand characters, which
are as many units. -/
theorem overlong_pattern_sent_iff_longestLetters :
    let search := runWith .ascending ⟨"rooms", "messages", "mails"⟩ (repeated 996 'a') "@ann" none
    let es := search.run.exchanges World.handler .empty
    Sends es (containsPattern (repeated 996 'a')) ∧
      ¬ ∃ p, Sends es p ∧ maxPatternUnits < Text.utf16Length p := by
  intro search es
  have hends := Course.ends_exchanges World.handler search.run .empty
  have hescapes : escapes (repeated 996 'a') = 0 := escapes_repeated rfl
  have hsupplementary : supplementary (repeated 996 'a') = 0 := supplementary_repeated
  -- The letters take one unit each, so both measures are a thousand.
  obtain ⟨hlong, -, hfits⟩ := overlong_pattern_sent_iff hends
  constructor
  · refine hfits (isBlank_repeated (by decide) rfl) ?_
    rw [utf16Length_containsPattern, length_containsPattern, length_repeated, hescapes,
      hsupplementary]
    decide
  · rw [hlong, length_repeated, hescapes, hsupplementary]
    omega

/-- A text of 499 characters outside of the basic plane is searched for, in a pattern that the
engine refuses. -/
theorem supplementary_text_sent_overlong :
    let search := runWith .ascending ⟨"rooms", "messages", "mails"⟩ (repeated 499 '😀') "@ann" none
    let es := search.run.exchanges World.handler .empty
    ∃ p, Sends es p ∧ maxPatternUnits < Text.utf16Length p := by
  intro search es
  have hends := Course.ends_exchanges World.handler search.run .empty
  have hescapes : escapes (repeated 499 '😀') = 0 := escapes_repeated rfl
  have hsupplementary : supplementary (repeated 499 '😀') = 499 := supplementary_repeated
  refine ⟨containsPattern (repeated 499 '😀'), (sends_iff hends).2 ⟨⟨?_, ?_⟩, rfl⟩, ?_⟩
  · exact isBlank_repeated (by decide) rfl
  · rw [length_repeated, hescapes]
    omega
  · rw [utf16Length_containsPattern, length_containsPattern, length_repeated, hescapes,
      hsupplementary]
    decide

end Search

end ChatIndex
