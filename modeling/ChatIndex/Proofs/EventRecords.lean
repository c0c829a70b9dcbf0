import ChatIndex.Change
import ChatIndex.Proofs.BulkReplies
import ChatIndex.Proofs.Visibility

/-!
# Events that are written and read again

A value that denotes an event may have it as an object, with members that are no fields of it, or
as an array, and what is optional in it may be missing or `null`.  The event is written in one way
only.  Nothing is lost thereby: missing and `null` are one for each field that can be either, so
the event that is read again is the one that was written.  An event whose unsigned part is `null`
would be read again without it, but there is no value that denotes one.

* `get?_ofList_omitAbsent`       what an object holds in which some members are left out
* `ofJson?_ofDocument_eq_some_iff`  what an object has to hold to denote an event
* `ofJson?_toJson`               what is read of an event that was written
* `exists_ofJson?_iff`           which events there are values for
* `denoted_event_survives`       such an event is the same after it was written and read
-/

namespace ChatIndex

namespace Json

variable {members : List (String × Option Json)}

/-- Leaving members out leaves the rest in order. -/
theorem map_fst_omitAbsent_sublist (members : List (String × Option Json)) :
    ((omitAbsent members).map Prod.fst).Sublist (members.map Prod.fst) := by
  induction members with
  | nil => exact .slnil
  | cons m members ih =>
    obtain ⟨name, value⟩ := m
    cases value with
    | none => exact ih.cons name
    | some value => exact ih.cons_cons name

/-- What an object holds in which the fields without a value are left out. -/
theorem get?_ofList_omitAbsent (hnodup : (members.map Prod.fst).Nodup) (name : String) :
    (KeyMap.ofList (omitAbsent members)).get? name = ((KeyMap.ofList members).get? name).join := by
  have hkept : ((omitAbsent members).map Prod.fst).Nodup :=
    (map_fst_omitAbsent_sublist members).nodup hnodup
  have hmem (value : Json) :
      (name, value) ∈ omitAbsent members ↔ (name, some value) ∈ members := by
    simp [omitAbsent, List.mem_filterMap]
  -- An object has a value under a name just if it was made from that pair.
  refine Option.ext fun value => ?_
  rw [KeyMap.get?_ofList_eq_some_iff hkept, hmem, Option.join_eq_some_iff,
    KeyMap.get?_ofList_eq_some_iff hnodup]

end Json

namespace RoomEvent

open Json

/-! ## Reading an event -/

/-- An object denotes an event if its members do.  A missing content is `null`, and an optional
field that is `null` is missing. -/
theorem ofJson?_ofDocument_eq_some_iff {d : Document} {event : RoomEvent} :
    ofJson? (ofDocument d) = some event ↔
      d.get? "type" = some (.string event.type) ∧
        d.get? "room_id" = some (.string event.roomId) ∧
        d.get? "sender" = some (.string event.sender) ∧
        (d.get? "content").getD .null = event.content ∧
        (d.get? "event_id").getD .null = ofOption event.eventId ∧
        (d.get? "state_key").getD .null = ofOption event.stateKey ∧
        (d.get? "redacts").getD .null = ofOption event.redacts ∧
        ((d.get? "unsigned").filter fun value => value ≠ .null) = event.unsigned := by
  simp only [ofJson?, Option.bind_eq_bind, Option.bind_eq_some_iff, Option.pure_def,
    Option.some.injEq, record?_ofDocument_eq_some_iff, EngineClient.optionalField?_some]
  constructor
  · -- Each field of the record says one of the eight things.
    rintro ⟨_, ⟨-, rfl⟩, type, htype, roomId, hroom, sender, hsender, eventId, hevent, stateKey,
      hstate, redacts, hredacts, _, rfl, rfl⟩
    exact ⟨field?_eq_some_iff.1 htype, field?_eq_some_iff.1 hroom, field?_eq_some_iff.1 hsender,
      rfl, optionalField?_eq_some_iff.1 hevent, optionalField?_eq_some_iff.1 hstate,
      optionalField?_eq_some_iff.1 hredacts, rfl⟩
  · rintro ⟨htype, hroom, hsender, hcontent, hevent, hstate, hredacts, hunsigned⟩
    refine ⟨_, ⟨?_, rfl⟩, _, field?_eq_some_iff.2 htype, _, field?_eq_some_iff.2 hroom, _,
      field?_eq_some_iff.2 hsender, _, optionalField?_eq_some_iff.2 hevent, _,
      optionalField?_eq_some_iff.2 hstate, _, optionalField?_eq_some_iff.2 hredacts, _, rfl, ?_⟩
    · -- The three fields that have to be there are there.
      simp [fields, htype, hroom, hsender]
    · cases event
      cases hcontent
      cases hunsigned
      rfl

/-- No value denotes an event whose unsigned part is `null`. -/
theorem unsigned_ne_null_of_ofJson? {value : Json} {event : RoomEvent}
    (h : ofJson? value = some event) : event.unsigned ≠ some .null := by
  simp only [ofJson?, Option.bind_eq_bind, Option.bind_eq_some_iff, Option.pure_def,
    Option.some.injEq, EngineClient.optionalField?_some] at h
  -- The unsigned part is what is left after `null` was filtered out.
  obtain ⟨members, -, -, -, -, -, -, -, -, -, -, -, -, -, unsigned, rfl, rfl⟩ := h
  intro hnull
  simpa using (Option.filter_eq_some_iff.1 hnull).2

/-! ## Reading what was written -/

/-- The fields of an event as they are written, the missing ones too. -/
def written (event : RoomEvent) : List (String × Option Json) :=
  [("type", some (.string event.type)), ("room_id", some (.string event.roomId)),
   ("sender", some (.string event.sender)), ("content", some event.content),
   ("event_id", event.eventId.map .string), ("state_key", event.stateKey.map .string),
   ("redacts", event.redacts.map .string), ("unsigned", event.unsigned)]

/-- An event is written as an object with the fields that are there. -/
theorem toJson_eq (event : RoomEvent) :
    event.toJson = ofDocument (.ofList (omitAbsent event.written)) := rfl

/-- No field is written twice. -/
theorem nodup_written (event : RoomEvent) : (event.written.map Prod.fst).Nodup := by
  show ["type", "room_id", "sender", "content", "event_id", "state_key", "redacts",
    "unsigned"].Nodup
  decide

/-- A text that is missing is read like `null`. -/
theorem getD_map_string (s : Option String) : (s.map Json.string).getD .null = ofOption s := by
  cases s <;> rfl

/-- An event that was written is read as it was, except that an unsigned part that is `null` is
missing then. -/
theorem ofJson?_toJson (event : RoomEvent) :
    ofJson? event.toJson =
      some { event with unsigned := event.unsigned.filter fun value => value ≠ .null } := by
  rw [toJson_eq, ofJson?_ofDocument_eq_some_iff]
  simp only [get?_ofList_omitAbsent event.nodup_written]
  simp [written, KeyMap.get?_ofList, getD_map_string]

/-- An event comes back as it was unless its unsigned part is `null`. -/
theorem ofJson?_toJson_eq_some_iff {event : RoomEvent} :
    ofJson? event.toJson = some event ↔ event.unsigned ≠ some .null := by
  constructor
  · exact unsigned_ne_null_of_ofJson?
  · -- The filter finds nothing to take away.
    intro hunsigned
    have hkept : (event.unsigned.filter fun value => value ≠ .null) = event.unsigned := by
      cases h : event.unsigned with
      | none => rfl
      | some value => simpa [Option.filter, h] using hunsigned
    rw [ofJson?_toJson, hkept]

/-- There are values for the events whose unsigned part is not `null`, and for no others. -/
theorem exists_ofJson?_iff {event : RoomEvent} :
    (∃ value, ofJson? value = some event) ↔ event.unsigned ≠ some .null :=
  ⟨fun ⟨_, h⟩ => unsigned_ne_null_of_ofJson? h,
    fun h => ⟨_, ofJson?_toJson_eq_some_iff.2 h⟩⟩

/-- What a message of the transport carries is an event that a value denotes. -/
theorem exists_ofJson?_of_decode? {payload : List UInt8} {event : RoomEvent}
    (h : decode? payload = some event) : ∃ value, ofJson? value = some event := by
  obtain ⟨value, -, hvalue⟩ := Option.bind_eq_some_iff.1 h
  exact ⟨value, hvalue⟩

/-- An event that a value denotes, or a message of the transport carries, is the same after it was
written and read.  So it asks for the same change, or cannot be understood for the same reason, and
is written as it was before. -/
theorem denoted_event_survives {event : RoomEvent}
    (h : (∃ value, ofJson? value = some event) ∨ ∃ payload, decode? payload = some event) :
    ofJson? event.toJson = some event ∧
      (ofJson? event.toJson).map change? = some event.change? ∧
      (ofJson? event.toJson).map toJson = some event.toJson := by
  have hdenoted : ∃ value, ofJson? value = some event := by
    rcases h with hvalue | ⟨payload, hpayload⟩
    · exact hvalue
    · exact exists_ofJson?_of_decode? hpayload
  have hread : ofJson? event.toJson = some event :=
    ofJson?_toJson_eq_some_iff.2 (exists_ofJson?_iff.1 hdenoted)
  rw [hread]
  exact ⟨rfl, rfl, rfl⟩

/-- A message in its array form, with a state key that is `null` and two fields left out. -/
def inArrayForm : Json :=
  .array
    [.string "m.room.message", .string "!r", .string "@ann",
     .object [("body", .string "see you at six")], .string "$1", .null]

/-- The theorem at an array: the event survives, though its form does not. -/
theorem denoted_event_survives_inArrayForm :
    let event : RoomEvent :=
      { type := "m.room.message", roomId := "!r", sender := "@ann"
        content := .object [("body", .string "see you at six")]
        eventId := some "$1", stateKey := none, redacts := none, unsigned := none }
    ofJson? inArrayForm = some event ∧ ofJson? event.toJson = some event ∧
      event.toJson ≠ inArrayForm := by
  intro event
  have hdenoted : ofJson? inArrayForm = some event := by decide
  exact ⟨hdenoted, (denoted_event_survives (.inl ⟨_, hdenoted⟩)).1, by decide⟩

end RoomEvent

end ChatIndex
