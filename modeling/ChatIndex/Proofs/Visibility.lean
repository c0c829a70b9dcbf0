import ChatIndex.Proofs.Exchange
import ChatIndex.Search
import ChatIndex.World
import Mathlib.Data.List.Forall2

/-!
# What a search finds

A search answers with exactly the hits that its user may see, in the order of the engine: the
rooms of the user, the messages whose `room_id` is one of them, and the mails that the user's
address takes part in.  What a hit holds is said by the fields of its source, its id by the hit
alone.

* `roomOfHit_eq_ok_iff`, `messageOfHit_eq_ok_iff`  when a hit is a document of its index
* `mailInvolves_iff`                               whom a mail is for
* `found_of_visible`, `Found.unique`               what is kept of three lists of hits
* `finds_exactly_visible`                          what a whole search answers
-/

namespace ChatIndex

/-! ## Fields of a document -/

namespace Json

variable {d : Document} {name : String}

theorem asString?_eq_some_iff {value : Json} {s : String} :
    value.asString? = some s ↔ value = .string s := by
  cases value <;> simp [asString?]

/-- A document is a record of a form just if all that the form requires is there. -/
theorem record?_ofDocument_eq_some_iff {fields : FieldList} {members : List (String × Json)} :
    (ofDocument d).record? fields = some members ↔
      (∀ f ∈ fields, f.2.1 = .required → ∃ value, d.get? f.1 = some value) ∧
        d.entries = members := by
  have hpresent (f : String × Presence × Shape) :
      (decide (f.2.1 ≠ .required) || (Entries.get? d.entries f.1).isSome) = true ↔
        (f.2.1 = .required → ∃ value, d.get? f.1 = some value) := by
    rw [Bool.or_eq_true, decide_eq_true_eq, Option.isSome_iff_exists]
    exact imp_iff_not_or.symm
  rw [ofDocument, record?, Option.ite_none_right_eq_some, List.all_eq_true, Option.some.injEq]
  exact and_congr_left' (forall₂_congr fun f _ => hpresent f)

theorem field?_eq_some_iff {s : String} :
    field? d.entries name = some s ↔ d.get? name = some (.string s) := by
  rw [field?, Option.bind_eq_some_iff]
  simp only [asString?_eq_some_iff]
  exact ⟨fun ⟨_, h, hs⟩ => hs ▸ h, fun h => ⟨_, h, rfl⟩⟩

/-- A field that may be missing is read as empty then. -/
theorem fieldOrEmpty?_eq_some_iff {s : String} :
    fieldOrEmpty? d.entries name = some s ↔ (d.get? name).getD (.string "") = .string s := by
  rw [KeyMap.get?, fieldOrEmpty?]
  cases Entries.get? d.entries name with
  | none => simp
  | some value => simp [asString?_eq_some_iff]

/-- Such a field can be read unless it is there and no text. -/
theorem exists_fieldOrEmpty_iff :
    (∃ s, (d.get? name).getD (.string "") = .string s) ↔
      ∀ value, d.get? name = some value → ∃ s, value = .string s := by
  cases d.get? name <;> simp

/-- An optional field may be missing or `null`, and is otherwise a text. -/
theorem optionalField?_eq_some_iff {s : Option String} :
    optionalField? asString? d.entries name = some s ↔
      (d.get? name).getD .null = ofOption s := by
  rw [KeyMap.get?, optionalField?]
  cases Entries.get? d.entries name with
  | none => cases s <;> simp [ofOption]
  | some value => cases value <;> cases s <;> simp [ofOption, asString?]

end Json

/-- A document denotes a room if its fields do.  A missing id reads as an empty one. -/
theorem RoomDocument.ofJson?_eq_some_iff {d : Document} {room : RoomDocument} :
    ofJson? (Json.ofDocument d) = some room ↔
      (d.get? "id").getD (.string "") = .string room.id ∧
        d.get? "name" = some (.string room.name) := by
  simp only [ofJson?, Option.bind_eq_bind, Option.bind_eq_some_iff, Option.pure_def,
    Option.some.injEq, Json.record?_ofDocument_eq_some_iff]
  constructor
  · rintro ⟨_, ⟨-, rfl⟩, id, hid, name, hname, rfl⟩
    exact ⟨Json.fieldOrEmpty?_eq_some_iff.1 hid, Json.field?_eq_some_iff.1 hname⟩
  · rintro ⟨hid, hname⟩
    refine ⟨_, ⟨?_, rfl⟩, room.id, Json.fieldOrEmpty?_eq_some_iff.2 hid, room.name,
      Json.field?_eq_some_iff.2 hname, rfl⟩
    simp [fields, hname]

/-- A document denotes a message if its fields do.  A missing id reads as an empty one, and a
missing display name as none. -/
theorem MessageDocument.ofJson?_eq_some_iff {d : Document} {message : MessageDocument} :
    ofJson? (Json.ofDocument d) = some message ↔
      (d.get? "id").getD (.string "") = .string message.id ∧
        d.get? "room_id" = some (.string message.roomId) ∧
        d.get? "content" = some (.string message.content) ∧
        d.get? "sender" = some (.string message.sender) ∧
        (d.get? "display_name").getD .null = Json.ofOption message.displayName := by
  simp only [ofJson?, Option.bind_eq_bind, Option.bind_eq_some_iff, Option.pure_def,
    Option.some.injEq, Json.record?_ofDocument_eq_some_iff]
  constructor
  · -- The three fields that must be there are there, as texts.
    rintro ⟨_, ⟨-, rfl⟩, id, hid, roomId, hroom, content, hcontent, sender, hsender,
      displayName, hdisplay, rfl⟩
    exact ⟨Json.fieldOrEmpty?_eq_some_iff.1 hid, Json.field?_eq_some_iff.1 hroom,
      Json.field?_eq_some_iff.1 hcontent, Json.field?_eq_some_iff.1 hsender,
      Json.optionalField?_eq_some_iff.1 hdisplay⟩
  · rintro ⟨hid, hroom, hcontent, hsender, hdisplay⟩
    refine ⟨_, ⟨?_, rfl⟩, _, Json.fieldOrEmpty?_eq_some_iff.2 hid, _,
      Json.field?_eq_some_iff.2 hroom, _, Json.field?_eq_some_iff.2 hcontent, _,
      Json.field?_eq_some_iff.2 hsender, _, Json.optionalField?_eq_some_iff.2 hdisplay, rfl⟩
    simp [fields, hroom, hcontent, hsender]

namespace Search

/-! ## What a hit holds -/

/-- Whether a hit is a document of the rooms index, with its id from outside of the document.  The
id in the document may be missing and is not looked at, but it is a text. -/
structure HoldsRoom (hit : SearchHit) (room : RoomDocument) : Prop where
  id : room.id = hit.id
  storedId : ∀ value, hit.source.get? "id" = some value → ∃ id, value = .string id
  name : hit.source.get? "name" = some (.string room.name)

/-- Whether a hit is a document of the messages index, with its id from outside of the
document.  A display name that is missing is none. -/
structure HoldsMessage (hit : SearchHit) (message : MessageDocument) : Prop where
  id : message.id = hit.id
  storedId : ∀ value, hit.source.get? "id" = some value → ∃ id, value = .string id
  roomId : hit.source.get? "room_id" = some (.string message.roomId)
  content : hit.source.get? "content" = some (.string message.content)
  sender : hit.source.get? "sender" = some (.string message.sender)
  displayName : (hit.source.get? "display_name").getD .null = Json.ofOption message.displayName

/-- Whether a document is the source of a hit under the id of the hit. -/
structure HoldsMail (hit : SearchHit) (mail : Document) : Prop where
  id : mail.get? "id" = some (.string hit.id)
  rest : ∀ name, name ≠ "id" → mail.get? name = hit.source.get? name

/-- A hit is read if its source denotes something. -/
theorem map_readHit_eq_ok_iff {α β : Type} {ofJson? : Json → Option α}
    {fault? : Document → Option String} {hit : SearchHit} {f : α → β} {b : β} :
    (readHit ofJson? fault? hit).map f = .ok b ↔
      ∃ stored, ofJson? (Json.ofDocument hit.source) = some stored ∧ f stored = b := by
  rw [readHit]
  cases ofJson? (Json.ofDocument hit.source) <;> simp [Except.map]

/-- The id of a stored room is read and then overwritten, so all that matters of it is that it is a
text. -/
theorem roomOfHit_eq_ok_iff {hit : SearchHit} {room : RoomDocument} :
    roomOfHit hit = .ok room ↔ HoldsRoom hit room := by
  simp only [roomOfHit, map_readHit_eq_ok_iff, RoomDocument.ofJson?_eq_some_iff]
  constructor
  · rintro ⟨stored, ⟨hid, hname⟩, rfl⟩
    exact ⟨rfl, Json.exists_fieldOrEmpty_iff.1 ⟨stored.id, hid⟩, hname⟩
  · rintro ⟨hid, hstored, hname⟩
    obtain ⟨id, hstored⟩ := Json.exists_fieldOrEmpty_iff.2 hstored
    exact ⟨⟨id, room.name⟩, ⟨hstored, hname⟩, by rw [← hid]⟩

/-- The id of a stored message is overwritten in the same way. -/
theorem messageOfHit_eq_ok_iff {hit : SearchHit} {message : MessageDocument} :
    messageOfHit hit = .ok message ↔ HoldsMessage hit message := by
  simp only [messageOfHit, map_readHit_eq_ok_iff, MessageDocument.ofJson?_eq_some_iff]
  constructor
  · rintro ⟨stored, ⟨hid, hroom, hcontent, hsender, hdisplay⟩, rfl⟩
    exact ⟨rfl, Json.exists_fieldOrEmpty_iff.1 ⟨stored.id, hid⟩, hroom, hcontent, hsender,
      hdisplay⟩
  · rintro ⟨hid, hstored, hroom, hcontent, hsender, hdisplay⟩
    obtain ⟨id, hstored⟩ := Json.exists_fieldOrEmpty_iff.2 hstored
    exact ⟨{ message with id }, ⟨hstored, hroom, hcontent, hsender, hdisplay⟩, by rw [← hid]⟩

theorem holdsMail_mailOfHit (hit : SearchHit) : HoldsMail hit (mailOfHit hit) where
  id := by rw [mailOfHit, KeyMap.get?_insert, if_pos rfl]
  rest name hname := by rw [mailOfHit, KeyMap.get?_insert, if_neg hname]

/-! ## Whom a mail is for -/

/-- Whether a mail names an address among those of a participant: an item of one of the fields, or
the one object in it. -/
def Names (source : Document) (email : String) : Prop :=
  ∃ field ∈ ["from", "to", "cc", "bcc"], ∃ participant address,
    ((∃ items, source.get? field = some (.array items) ∧ participant ∈ items) ∨
      ∃ members, source.get? field = some (.object members) ∧ participant = .object members) ∧
    participant.get? "address" = some (.string address) ∧
    Text.asciiLower address = Text.asciiLower email

/-- The participants in a field are its items, or the one object in it. -/
theorem mem_participants_iff {source : Document} {field : String} {participant : Json} :
    participant ∈ participants source field ↔
      (∃ items, source.get? field = some (.array items) ∧ participant ∈ items) ∨
        ∃ members, source.get? field = some (.object members) ∧ participant = .object members := by
  rw [participants]
  split
  · next items h => simp [h]
  · next members h => simp [h]
  · next harray hobject =>
    simp only [List.not_mem_nil, false_iff, not_or, not_exists, not_and]
    exact ⟨fun items h => absurd h (harray items), fun members h => absurd h (hobject members)⟩

/-- Addresses are compared without regard to the case of ASCII letters. -/
theorem hasAddress_iff {email : String} {participant : Json} :
    hasAddress email participant = true ↔
      ∃ address, participant.get? "address" = some (.string address) ∧
        Text.asciiLower address = Text.asciiLower email := by
  rw [hasAddress, Json.getString?, Option.any_eq_true]
  simp only [Option.bind_eq_some_iff, Json.asString?_eq_some_iff, Text.eqIgnoreAsciiCase,
    beq_iff_eq]
  constructor
  · rintro ⟨address, ⟨_, h, rfl⟩, hsame⟩
    exact ⟨address, h, hsame⟩
  · rintro ⟨address, h, hsame⟩
    exact ⟨address, ⟨_, h, rfl⟩, hsame⟩

/-- The test for a mail is whether it names the address. -/
theorem mailInvolves_iff {source : Document} {email : String} :
    mailInvolves source email = true ↔ Names source email := by
  simp only [mailInvolves, List.any_eq_true, mem_participants_iff, hasAddress_iff]
  constructor
  · rintro ⟨field, hfield, participant, hmem, address, haddress⟩
    exact ⟨field, hfield, participant, address, hmem, haddress⟩
  · rintro ⟨field, hfield, participant, address, hmem, haddress⟩
    exact ⟨field, hfield, participant, hmem, address, haddress⟩

instance (source : Document) (email : String) : Decidable (Names source email) :=
  decidable_of_iff _ mailInvolves_iff

/-- Without an address no mail may be read. -/
theorem mayRead_iff {email : Option String} {hit : SearchHit} :
    mayRead email hit = true ↔ ∃ address ∈ email, Names hit.source address := by
  simp only [mayRead, Option.any_eq_true, mailInvolves_iff, Option.mem_def]

/-! ## What is kept of three lists of hits -/

section Lists

variable {ε α β : Type}

/-- Going through a list succeeds with what each of its elements gives. -/
theorem mapM_eq_ok_iff {f : α → Except ε β} {R : α → β → Prop}
    (hf : ∀ x y, f x = .ok y ↔ R x y) {xs : List α} {ys : List β} :
    xs.mapM f = .ok ys ↔ List.Forall₂ R xs ys := by
  induction xs generalizing ys with
  | nil =>
    rw [List.mapM_nil, List.forall₂_nil_left_iff]
    simp [pure, Except.pure, eq_comm]
  | cons x xs ih =>
    rw [List.mapM_cons, List.forall₂_cons_left_iff]
    simp only [← hf, ← ih]
    cases f x with
    | error e => simp [bind, Except.bind]
    | ok y =>
      cases xs.mapM f with
      | error e => simp [bind, Except.bind]
      | ok zs => simp [bind, Except.bind, pure, Except.pure, eq_comm]

/-- A list has a counterpart if each of its elements has one. -/
theorem exists_forall₂_iff {R : α → β → Prop} {xs : List α} :
    (∃ ys, List.Forall₂ R xs ys) ↔ ∀ x ∈ xs, ∃ y, R x y := by
  induction xs with
  | nil => simp
  | cons x xs ih =>
    simp only [List.forall₂_cons_left_iff, List.forall_mem_cons, ← ih]
    constructor
    · rintro ⟨_, y, ys, hy, hys, -⟩
      exact ⟨⟨y, hy⟩, ys, hys⟩
    · rintro ⟨⟨y, hy⟩, ys, hys⟩
      exact ⟨_, y, ys, hy, hys, rfl⟩

end Lists

/-- Exactly what a user may see of three lists of hits, in their order: the rooms of the user, the
messages of rooms of the user, and the mails that name the user's address. -/
structure Found (userRooms : List String) (email : Option String)
    (roomHits messageHits mailHits : List SearchHit) (found : Visible) : Prop where
  rooms : List.Forall₂ HoldsRoom (roomHits.filter fun hit => hit.id ∈ userRooms) found.rooms
  messages : List.Forall₂ HoldsMessage
    (messageHits.filter fun hit =>
      ∃ roomId ∈ userRooms, hit.source.get? "room_id" = some (.string roomId))
    found.messages
  mails : List.Forall₂ HoldsMail
    (mailHits.filter fun hit => ∃ address ∈ email, Names hit.source address) found.mails

variable {userRooms : List String} {email : Option String}
  {roomHits messageHits mailHits : List SearchHit}

/-- What may be seen is settled by the hits. -/
theorem Found.unique {found found' : Visible}
    (h : Found userRooms email roomHits messageHits mailHits found)
    (h' : Found userRooms email roomHits messageHits mailHits found') : found = found' := by
  have hroom : Relator.RightUnique HoldsRoom := fun hit room room' h h' =>
    Except.ok.inj ((roomOfHit_eq_ok_iff.2 h).symm.trans (roomOfHit_eq_ok_iff.2 h'))
  have hmessage : Relator.RightUnique HoldsMessage := fun hit message message' h h' =>
    Except.ok.inj ((messageOfHit_eq_ok_iff.2 h).symm.trans (messageOfHit_eq_ok_iff.2 h'))
  have hmail : Relator.RightUnique HoldsMail := by
    intro hit mail mail' h h'
    -- A mail is settled field by field, as only its id is set apart.
    refine KeyMap.ext_get? fun name => ?_
    by_cases hname : name = "id"
    · rw [hname, h.id, h'.id]
    · rw [h.rest name hname, h'.rest name hname]
  obtain ⟨rooms, messages, mails⟩ := found
  cases hroom.forall₂ h.rooms h'.rooms
  cases hmessage.forall₂ h.messages h'.messages
  cases hmail.forall₂ h.mails h'.mails
  rfl

/-- All room and message hits are read, and only then are they filtered. -/
theorem visible_eq_ok_iff {found : Visible} :
    visible [roomHits, messageHits, mailHits] userRooms email = .ok found ↔
      ∃ rooms messages, List.Forall₂ HoldsRoom roomHits rooms ∧
        List.Forall₂ HoldsMessage messageHits messages ∧
        { rooms := rooms.filter fun room => userRooms.contains room.id
          messages := messages.filter fun message => userRooms.contains message.roomId
          mails := (mailHits.filter (mayRead email)).map mailOfHit } = found := by
  simp only [← mapM_eq_ok_iff fun _ _ => roomOfHit_eq_ok_iff,
    ← mapM_eq_ok_iff fun _ _ => messageOfHit_eq_ok_iff]
  show (roomHits.mapM roomOfHit >>= fun rooms => messageHits.mapM messageOfHit >>= fun messages =>
    pure _) = _ ↔ _
  cases roomHits.mapM roomOfHit with
  | error e => simp [bind, Except.bind]
  | ok rooms =>
    cases messageHits.mapM messageOfHit with
    | error e => simp [bind, Except.bind]
    | ok messages => simp [bind, Except.bind, pure, Except.pure]

/-- Something is found if every room and message hit is a document of its index, also one that
the user may not see. -/
theorem exists_visible_iff :
    (∃ found, visible [roomHits, messageHits, mailHits] userRooms email = .ok found) ↔
      (∀ hit ∈ roomHits, ∃ room, HoldsRoom hit room) ∧
        ∀ hit ∈ messageHits, ∃ message, HoldsMessage hit message := by
  simp only [visible_eq_ok_iff, ← exists_forall₂_iff]
  constructor
  · rintro ⟨_, rooms, messages, hrooms, hmessages, -⟩
    exact ⟨⟨rooms, hrooms⟩, messages, hmessages⟩
  · rintro ⟨⟨rooms, hrooms⟩, messages, hmessages⟩
    exact ⟨_, rooms, messages, hrooms, hmessages, rfl⟩

/-- What is kept of the hits is exactly what the user may see of them. -/
theorem found_of_visible {found : Visible}
    (h : visible [roomHits, messageHits, mailHits] userRooms email = .ok found) :
    Found userRooms email roomHits messageHits mailHits found := by
  obtain ⟨rooms, messages, hrooms, hmessages, rfl⟩ := visible_eq_ok_iff.1 h
  refine ⟨List.rel_filter ?_ hrooms, List.rel_filter ?_ hmessages, ?_⟩
  · intro hit room hholds
    simp [hholds.id]
  · intro hit message hholds
    simp [hholds.roomId]
  · -- Mails are filtered before they are given their ids.
    rw [List.filter_congr fun hit _ => Bool.eq_iff_iff.2
      (mayRead_iff.trans decide_eq_true_iff.symm), List.forall₂_map_right_iff]
    exact List.forall₂_same.2 fun hit _ => holdsMail_mailOfHit hit

/-! ## What is searched for -/

/-- A text is searched for if it is not blank and its pattern is not too long. -/
theorem pattern_eq_ok_iff {text p : String} :
    pattern text = .ok p ↔
      (Text.isBlank text = false ∧ (containsPattern text).length ≤ maxPatternLength) ∧
        p = containsPattern text := by
  rw [pattern]
  by_cases hblank : Text.isBlank text = true
  · simp [hblank]
  · by_cases hlong : maxPatternLength < (containsPattern text).length
    · simp [hblank, hlong, Nat.not_le.2 hlong]
    · have hshort := Nat.not_lt.1 hlong
      simp [hblank, hlong, hshort, eq_comm]

/-- A text that is not searched for is an invalid request, and nothing else. -/
theorem eq_invalid_of_pattern {text : String} {e : QueryError} (h : pattern text = .error e) :
    ∃ reason, e = .invalid reason := by
  unfold pattern at h
  split at h
  · exact ⟨_, (Except.error.inj h).symm⟩
  · dsimp only at h
    split at h
    · exact ⟨_, (Except.error.inj h).symm⟩
    · cases h

/-! ## A whole search -/

/-- What was found, without what the read model adds to it. -/
def Results.documents (r : Results) : Visible where
  rooms := r.rooms.map fun room => ⟨room.id, room.name⟩
  messages := r.messages.map fun m => ⟨m.id, m.roomId, m.content, m.sender, m.displayName⟩
  mails := r.mails

/-- What the read model adds leaves the documents as they were found. -/
theorem documents_context (context : RoomContext) (found : Visible) :
    Results.documents
      ⟨found.rooms.map context.room, found.messages.map context.message, found.mails⟩ = found := by
  simp only [Results.documents, List.map_map]
  have hrooms : found.rooms.map ((fun room : RoomResult => RoomDocument.mk room.id room.name) ∘
      context.room) = found.rooms := List.map_id _
  have hmessages : found.messages.map ((fun m : MessageResult =>
      MessageDocument.mk m.id m.roomId m.content m.sender m.displayName) ∘ context.message) =
      found.messages := List.map_id _
  rw [hrooms, hmessages]

open Attempt

/-- As far as these exchanges show, a search got three lists of hits from the engine, and the ids
of its user's rooms from the read model. -/
structure Answered (names : IndexNames) (pattern userId : String)
    (roomHits messageHits mailHits : List SearchHit) (userRooms : List String)
    (es : List Exchange) : Prop where
  hits : ∀ lists : List (List SearchHit),
    (⟨.engine (.search pattern (targets names)), .ok lists⟩ : Exchange) ∈ es →
    lists = [roomHits, messageHits, mailHits]
  rooms : ∀ ids : List String, (⟨.read (.roomsOfUser userId), .ok ids⟩ : Exchange) ∈ es →
    ids = userRooms

variable {names : IndexNames} {userId : String} {es : List Exchange} {ls : List LogRecord}

theorem error_exact {ε α : Type} {e : ε} {P : Prop} {Q : α → Prop} (h : ¬ P) :
    ((∃ a, (.error e : Except ε α) = .ok a) ↔ P) ∧
      ∀ a, (.error e : Except ε α) = .ok a → Q a :=
  ⟨iff_of_false (by simp) h, by simp⟩

/-- What a search does with what may be seen of the hits. -/
def completion (listing : Listing) (userRooms : List String) (userId : String)
    (found : Visible) : Attempt CallError Results := do
  if found.rooms.isEmpty && found.messages.isEmpty then
    return ⟨[], [], found.mails⟩
  let context ← roomContext listing userRooms found.messages userId
  return ⟨found.rooms.map context.room, found.messages.map context.message, found.mails⟩

/-- What was found is completed by questions to the read model: what holds of those, and of one
attempt after another, holds of a completion. -/
theorem completion_induction {P : {α : Type} → Attempt CallError α → Prop}
    (pure : ∀ {α : Type} (a : α), P (Pure.pure a : Attempt CallError α))
    (read : ∀ call, P (Attempt.read call))
    (bind : ∀ {α β : Type} {x : Attempt CallError α} {f : α → Attempt CallError β},
      P x → (∀ a, P (f a)) → P (x >>= f))
    (listing : Listing) (userRooms : List String) (userId : String)
    (found : Visible) : P (completion listing userRooms userId found) := by
  have hdirect : ∀ roomIds, P (directContext roomIds userId) := by
    intro roomIds
    rw [directContext]
    split
    · exact pure _
    · refine bind (read _) fun directRooms => ?_
      split
      · exact pure _
      · exact bind (read _) fun _ => pure _
  rw [completion]
  -- Mails alone are not completed, so nothing is asked about them.
  split
  · exact pure _
  · rw [roomContext]
    refine bind (bind (read _) fun _ => ?_) fun _ => pure _
    exact bind (hdirect _) fun _ => pure _

theorem relays_completion (listing : Listing) (userRooms : List String)
    (userId : String) (found : Visible) : (completion listing userRooms userId found).Relays :=
  completion_induction Relays.pure (fun call => .ask (.read call)) Relays.bind listing userRooms
    userId found

/-- It adds nothing to what may be seen and takes nothing away, and it fails with any of its
questions. -/
theorem completion_exact {listing : Listing} {found : Visible}
    {r : Except CallError Results}
    (h : (completion listing userRooms userId found).run.Ends es ls r) :
    ((∃ a, r = .ok a) ↔ ∀ e ∈ es, Exchange.Succeeded e) ∧
      ∀ a, r = .ok a → a.documents = found := by
  have hstrict := (relays_completion listing userRooms userId found).strict es ls r h
  rw [completion] at h
  split at h
  · -- Nothing is asked about no rooms and no messages, and there are none to complete.
    next hnone =>
    obtain ⟨rfl, rfl, rfl⟩ := ends_pure.1 h
    rw [Bool.and_eq_true, List.isEmpty_iff, List.isEmpty_iff] at hnone
    obtain ⟨rooms, messages, mails⟩ := found
    obtain ⟨rfl, rfl⟩ := hnone
    refine ⟨by simp, fun a ha => ?_⟩
    cases ha
    rfl
  · refine ⟨hstrict, fun a ha => ?_⟩
    obtain ⟨e, -, rfl⟩ | ⟨context, es₁, es₂, ls₁, ls₂, -, hdone, -, -⟩ := ends_bind.1 h
    · cases ha
    · obtain ⟨-, -, rfl⟩ := ends_pure.1 hdone
      cases ha
      exact documents_context context found

/-- A search whose pattern is known answers exactly, or fails with a request or a hit. -/
theorem results_exact {listing : Listing} {pattern : String}
    {r : Except CallError Results}
    (h : (results listing names pattern userId email).run.Ends es ls r)
    (hes : Answered names pattern userId roomHits messageHits mailHits userRooms es) :
    ((∃ a, r = .ok a) ↔
      (∀ e ∈ es, Exchange.Succeeded e) ∧ (∀ hit ∈ roomHits, ∃ room, HoldsRoom hit room) ∧
        ∀ hit ∈ messageHits, ∃ message, HoldsMessage hit message) ∧
      ∀ a, r = .ok a → Found userRooms email roomHits messageHits mailHits a.documents := by
  rw [results] at h
  obtain ⟨e, rfl, rfl, rfl⟩ | ⟨lists, es₁, rfl, hread⟩ := ends_engine_bind.1 h
  · exact error_exact fun hall =>
      Exchange.not_succeeded_error _ e (hall.1 _ List.mem_cons_self)
  obtain ⟨e, rfl, rfl, rfl⟩ | ⟨ids, es₂, rfl, hvisible⟩ := ends_read_bind.1 hread
  · exact error_exact fun hall =>
      Exchange.not_succeeded_error _ e (hall.1 _ (List.mem_cons_of_mem _ List.mem_cons_self))
  obtain rfl := hes.hits lists List.mem_cons_self
  obtain rfl := hes.rooms ids (List.mem_cons_of_mem _ List.mem_cons_self)
  rw [← @exists_visible_iff ids email]
  split at hvisible
  · -- All requests succeeded, so it is a hit that is to blame.
    next e he =>
    obtain ⟨rfl, rfl, rfl⟩ := ends_throw.1 hvisible
    refine error_exact fun hall => ?_
    obtain ⟨found, hfound⟩ := hall.2
    cases he.symm.trans hfound
  · next found hfound =>
    obtain ⟨hok, hdocuments⟩ := completion_exact hvisible
    constructor
    · rw [hok, List.forall_mem_cons, List.forall_mem_cons,
        and_iff_right (Exchange.succeeded_ok _ _), and_iff_right (Exchange.succeeded_ok _ _),
        and_iff_left ⟨found, hfound⟩]
    · intro a ha
      rw [hdocuments a ha]
      exact found_of_visible hfound

/-- A search answers if and only if its requests all succeed and every room and message hit is a
document of its index.  Its answer is then exactly what its user may see of the hits. -/
theorem finds_exactly_visible {σ : Type} (handler : Handler Call Call.Answer σ) (s : σ)
    (listing : Listing) {text pattern : String}
    (hpattern : Search.pattern text = .ok pattern)
    (hes : Answered names pattern userId roomHits messageHits mailHits userRooms
      ((runWith listing names text userId email).run.exchanges handler s)) :
    ((∃ a, ((runWith listing names text userId email).run.run handler s).value = .ok a) ↔
      (∀ e ∈ (runWith listing names text userId email).run.exchanges handler s,
          Exchange.Succeeded e) ∧
        (∀ hit ∈ roomHits, ∃ room, HoldsRoom hit room) ∧
        ∀ hit ∈ messageHits, ∃ message, HoldsMessage hit message) ∧
      ∀ a, ((runWith listing names text userId email).run.run handler s).value = .ok a →
        Found userRooms email roomHits messageHits mailHits a.documents := by
  have hends := Course.ends_exchanges handler (runWith listing names text userId email).run s
  have hrun : (runWith listing names text userId email).run =
      Except.mapError QueryError.call <$> (results listing names pattern userId email).run := by
    rw [runWith, hpattern]
    rfl
  -- With its pattern known, a search is what `results` does, and the failures are relabelled.
  rw [hrun] at hends hes ⊢
  obtain ⟨r, hr, hvalue⟩ := Course.ends_map.1 hends
  obtain ⟨hok, hfound⟩ := results_exact hr hes
  rw [hvalue]
  cases r with
  | error e => exact error_exact fun hall => by simpa using hok.2 hall
  | ok a =>
    refine ⟨iff_of_true ⟨a, rfl⟩ (hok.1 ⟨a, rfl⟩), fun b hb => ?_⟩
    cases hb
    exact hfound a rfl

end Search

/-- A world with a member of one room, in which every search finds hits of another room too, and
hits whose source has an id of its own. -/
def World.strangersAmongHits : World :=
  { World.empty with
    tables := { Tables.empty with
      memberships := [⟨"!r", "@ann", some "Ann", none⟩, ⟨"!s", "@bob", some "Bob", none⟩] }
    memory := { Memory.empty with
      cannedHits := some
        [[("!r", .ofList [("name", .string "plans")]),
          ("!s", .ofList [("id", .string "!r"), ("name", .string "plans of others")])],
         [("$1", MessageDocument.toDocument ⟨"$2", "!s", "our plans", "@bob", some "Bob"⟩),
          ("$2", MessageDocument.toDocument ⟨"$1", "!r", "my plans", "@ann", none⟩)],
         [("1", .ofList [("from", .ofMembers [("address", .string "Ann@Example.org")])]),
          ("2", .ofList
            [("to", .array [.ofMembers [("address", .string "bob@example.org")]])])]] } }

/-- The hits in that world: those of rooms, those of messages and those of mails. -/
def World.hitsAmongStrangers (position : Nat) : List SearchHit :=
  ((strangersAmongHits.memory.search "" [])[position]?).getD []

namespace Search

/-- A search on behalf of the member. -/
def amongStrangers : Attempt QueryError Results :=
  runWith .ascending ⟨"rooms", "messages", "mails"⟩ "plans" "@ann" (some "ann@example.org")

/-- The search among strangers asks the engine once and the read model three times. -/
private theorem exchanges_amongStrangers :
    amongStrangers.run.exchanges World.handler .strangersAmongHits =
      [⟨.engine (.search ".*plans.*" (targets ⟨"rooms", "messages", "mails"⟩)),
        .ok [World.hitsAmongStrangers 0, World.hitsAmongStrangers 1,
          World.hitsAmongStrangers 2]⟩,
       ⟨.read (.roomsOfUser "@ann"), .ok ["!r"]⟩, ⟨.read (.roomDetails ["!r"]), .ok []⟩,
       ⟨.read (.directRooms ["!r"]), .ok []⟩] := rfl

/-- Its replies are the three lists of hits and the one room of the member. -/
private theorem answered_amongStrangers :
    Answered ⟨"rooms", "messages", "mails"⟩ ".*plans.*" "@ann" (World.hitsAmongStrangers 0)
      (World.hitsAmongStrangers 1) (World.hitsAmongStrangers 2) ["!r"]
      (amongStrangers.run.exchanges World.handler .strangersAmongHits) := by
  rw [exchanges_amongStrangers]
  constructor
  · intro lists hmem
    -- Only the first exchange is a request to the engine.
    simp only [List.mem_cons, Sigma.mk.injEq, reduceCtorEq, false_and, or_false,
      List.not_mem_nil] at hmem
    cases hmem.2
    rfl
  · intro ids hmem
    simp only [List.mem_cons, Sigma.mk.injEq, reduceCtorEq, false_and, false_or, or_false,
      Call.read.injEq, List.not_mem_nil] at hmem
    cases hmem.2
    rfl

/-- The member finds one room, one message and one mail of the two each. -/
theorem finds_exactly_visible_amongStrangers :
    Answered ⟨"rooms", "messages", "mails"⟩ ".*plans.*" "@ann" (World.hitsAmongStrangers 0)
        (World.hitsAmongStrangers 1) (World.hitsAmongStrangers 2) ["!r"]
        (amongStrangers.run.exchanges World.handler .strangersAmongHits) ∧
      ∃ a, (amongStrangers.run.run World.handler .strangersAmongHits).value = .ok a ∧
        Found ["!r"] (some "ann@example.org") (World.hitsAmongStrangers 0)
          (World.hitsAmongStrangers 1) (World.hitsAmongStrangers 2) a.documents := by
  obtain ⟨hok, hfound⟩ :=
    finds_exactly_visible World.handler World.strangersAmongHits .ascending rfl
      answered_amongStrangers
  have hsucceeded : ∀ e ∈ amongStrangers.run.exchanges World.handler .strangersAmongHits,
      Exchange.Succeeded e := by
    rw [exchanges_amongStrangers]
    simp [Exchange.Succeeded]
  have hdocuments := (@exists_visible_iff ["!r"] none (World.hitsAmongStrangers 0)
    (World.hitsAmongStrangers 1) []).1 ⟨_, rfl⟩
  obtain ⟨a, ha⟩ := hok.2 ⟨hsucceeded, hdocuments⟩
  exact ⟨answered_amongStrangers, a, ha, hfound a ha⟩

end Search

end ChatIndex
