import ChatIndex.History
import Mathlib.Data.List.Nodup

/-!
# What a history comes to

Reading a history keeps a list of messages beside a table of positions, and an edit goes to
wherever the table leads.  Said of the whole history, the content of a message is that of the last
edit between it and the next message with the same id.

* `Leads`                       the table leads to messages with the ids that are looked up
* `foldl_step`                  what a history adds to the part that was read before it
* `currentMessages_eq_settled`  the messages that are kept are the current ones
-/

namespace ChatIndex

namespace Change

/-- Whether a change sends the message of an id. -/
def sends (id : String) : Change → Bool
  | .messageSent _ eventId _ _ => eventId = id
  | _ => false

/-- The content that a change gives to the message of an id. -/
def rewrite? (id : String) : Change → Option String
  | .messageEdited _ targetEventId body => if targetEventId = id then some body else none
  | _ => none

end Change

namespace History

variable {names : List MemberName} {h : History}

/-! ## The current messages, said of the whole history -/

/-- The name of a member in a room, if there is a row for it and the row has a name. -/
def nameOf (names : List MemberName) (roomId userId : String) : Option String :=
  (names.find? fun m => m.roomId = roomId ∧ m.userId = userId).bind (·.displayName)

/-- The content that a message has in the end: that of the last edit of it that comes after it and
before its id is sent once more, or its own. -/
def standing (id body : String) (after : List Change) : String :=
  ((after.takeWhile (!·.sends id)).filterMap (·.rewrite? id)).getLast?.getD body

/-- One message for each that is sent, in order. -/
def settled (names : List MemberName) : List Change → List RoomMessage
  | [] => []
  | .messageSent roomId eventId sender body :: after =>
    ⟨eventId, roomId, standing eventId body after, sender, nameOf names roomId sender⟩ ::
      settled names after
  | _ :: after => settled names after

theorem standing_nil (id body : String) : standing id body [] = body := rfl

/-- Once its id is sent again, a message stays as it is. -/
theorem standing_sent (id body : String) {c : Change} (after : List Change)
    (hc : c.sends id = true) : standing id body (c :: after) = body := by
  simp [standing, hc]

/-- The last of some texts, where the first of them only counts if there is no other. -/
theorem getD_getLast?_filterMap_cons {α : Type} (f : α → Option String) (a : α) (xs : List α)
    (text : String) :
    ((a :: xs).filterMap f).getLast?.getD text =
      (xs.filterMap f).getLast?.getD ((f a).getD text) := by
  cases hf : f a with
  | none => rw [List.filterMap_cons_none hf, Option.getD_none]
  | some new =>
    rw [List.filterMap_cons_some hf, List.getLast?_cons, Option.getD_some, Option.getD_some]

/-- An edit counts unless a later one does. -/
theorem standing_cons (id body : String) {c : Change} (after : List Change)
    (hc : c.sends id = false) :
    standing id body (c :: after) = standing id ((c.rewrite? id).getD body) after := by
  have htake : (c :: after).takeWhile (!·.sends id) = c :: after.takeWhile (!·.sends id) :=
    List.takeWhile_cons_of_pos (by simp [hc])
  rw [standing, htake, getD_getLast?_filterMap_cons, standing]

/-! ## Names -/

/-- Where no member has two rows for a room, a look-up finds the name of the only row, in
whichever order the rows are looked through. -/
private theorem bind_find?_eq_some_iff {rows : List MemberName} {p : MemberName → Bool}
    {roomId userId name : String} (hnames : (names.map fun m => (m.roomId, m.userId)).Nodup)
    (hrows : ∀ m, m ∈ rows ↔ m ∈ names)
    (hids : ∀ m, p m = true → m.roomId = roomId ∧ m.userId = userId)
    (hnamed : p ⟨roomId, userId, some name⟩ = true) :
    (rows.find? p).bind (·.displayName) = some name ↔ ⟨roomId, userId, some name⟩ ∈ names := by
  rw [Option.bind_eq_some_iff]
  constructor
  · rintro ⟨⟨room, user, displayName⟩, hrow, hname⟩
    obtain ⟨rfl, rfl⟩ := hids _ (List.find?_some hrow)
    obtain rfl : displayName = some name := hname
    exact (hrows _).1 (List.mem_of_find?_eq_some hrow)
  · intro hmem
    -- The look-up finds some row of the member, and there is only the one.
    obtain ⟨row, hrow⟩ : ∃ row, rows.find? p = some row :=
      Option.isSome_iff_exists.1 (List.find?_isSome.2 ⟨_, (hrows _).2 hmem, hnamed⟩)
    obtain ⟨hroom, huser⟩ := hids row (List.find?_some hrow)
    have hrowMem := (hrows row).1 (List.mem_of_find?_eq_some hrow)
    have heq : row = ⟨roomId, userId, some name⟩ :=
      List.inj_on_of_nodup_map hnames hrowMem hmem (by rw [hroom, huser])
    exact ⟨row, hrow, by rw [heq]⟩

/-- Where no member has two rows for a room, the latest name is the one of the only row. -/
theorem displayName_eq_nameOf (hnames : (names.map fun m => (m.roomId, m.userId)).Nodup)
    (roomId userId : String) : displayName names roomId userId = nameOf names roomId userId := by
  ext name
  have hlatest : displayName names roomId userId = some name ↔
      ⟨roomId, userId, some name⟩ ∈ names :=
    bind_find?_eq_some_iff hnames (fun _ => List.mem_reverse) (by simp +contextual) (by simp)
  have honly : nameOf names roomId userId = some name ↔ ⟨roomId, userId, some name⟩ ∈ names :=
    bind_find?_eq_some_iff hnames (fun _ => Iff.rfl) (by simp) (by simp)
  -- Both ways to look through the rows find the same name.
  exact hlatest.trans honly.symm

/-! ## The table -/

/-- The table leads to messages with the ids that are looked up. -/
def Leads (h : History) : Prop :=
  ∀ id position, h.positions.get? id = some position →
    (h.messages[position]?).map (·.eventId) = some id

theorem leads_empty : empty.Leads := by
  intro id position hposition
  cases hposition

/-- The table never leads past the messages. -/
theorem Leads.lt_length (hleads : h.Leads) {id : String} {position : Nat}
    (hposition : h.positions.get? id = some position) : position < h.messages.length := by
  obtain ⟨m, hm, -⟩ := Option.map_eq_some_iff.1 (hleads id position hposition)
  obtain ⟨hlt, -⟩ := List.getElem?_eq_some_iff.1 hm
  exact hlt

/-- A step keeps the table in order: it adds a position with its message, or changes a text. -/
theorem Leads.step (hleads : h.Leads) (c : Change) : (h.step names c).Leads := by
  cases c with
  | messageSent roomId eventId sender body =>
    intro id position hposition
    simp only [History.step, KeyMap.get?_insert] at hposition ⊢
    split at hposition
    · -- The table leads to the new message, which is the last one.
      next hid =>
      cases hposition
      rw [List.getElem?_concat_length, hid]
      rfl
    · -- Other ids keep their positions, all in front of the new message.
      rw [List.getElem?_append_left (hleads.lt_length hposition)]
      exact hleads id position hposition
  | messageEdited roomId target body =>
    rw [History.step]
    split
    · intro id position hposition
      rw [← hleads id position hposition, List.getElem?_modify]
      cases h.messages[position]? with
      | none => rfl
      | some m =>
        -- An edit leaves the id of the message as it is.
        rw [Option.map_eq_map, Option.map_some, Option.map_some, Option.map_some]
        split <;> rfl
    · exact hleads
  | _ => exact hleads

/-- The table of a history leads to its messages. -/
theorem leads_foldl (changes : List Change) (hleads : h.Leads) :
    (changes.foldl (step names) h).Leads := by
  induction changes generalizing h with
  | nil => exact hleads
  -- Every prefix of a history has such a table.
  | cons c changes ih => exact ih (hleads.step c)

/-! ## One change after another -/

/-- What later changes make of a message at a position: none of them reaches it unless the table
leads to it. -/
def amend (positions : KeyMap Nat) (after : List Change) (i : Nat) (m : RoomMessage) :
    RoomMessage :=
  if positions.get? m.eventId = some i then { m with content := standing m.eventId m.content after }
  else m

/-- What later changes make of the messages of a part of a history. -/
def amended (h : History) (after : List Change) : List RoomMessage :=
  h.messages.mapIdx (amend h.positions after)

section Amending

variable {positions : KeyMap Nat} {after : List Change} {i : Nat} {m : RoomMessage}

theorem amend_nil : amend positions [] i m = m := by
  rw [amend, standing_nil, ite_self]

/-- A message with an id that is sent once more at a later position stays as it is. -/
theorem amend_sent {roomId eventId sender body : String} {position : Nat} (hi : i ≠ position) :
    amend (positions.insert eventId position) after i m =
      amend positions (.messageSent roomId eventId sender body :: after) i m := by
  rw [amend, amend, KeyMap.get?_insert]
  by_cases hid : m.eventId = eventId
  · have hne : some position ≠ some i := fun heq => hi (Option.some.inj heq).symm
    rw [if_pos hid, if_neg hne, standing_sent _ _ _ (by simp [Change.sends, hid]), ite_self]
  · -- Another id, which the new message has nothing to do with.
    rw [if_neg hid, standing_cons _ _ _ (by simp [Change.sends, Ne.symm hid])]
    rfl

/-- An edit reaches the message that the table leads to for its target. -/
theorem amend_edited {roomId target body : String} (hi : positions.get? target = some i)
    (hid : m.eventId = target) :
    amend positions (.messageEdited roomId target body :: after) i m =
      amend positions after i { m with content := body } := by
  subst hid
  rw [amend, amend, if_pos hi, if_pos hi, standing_cons _ _ _ rfl, Change.rewrite?, if_pos rfl]
  rfl

/-- An edit reaches no other message. -/
theorem amend_edited_of_ne {roomId target body : String} (hi : positions.get? target ≠ some i) :
    amend positions (.messageEdited roomId target body :: after) i m =
      amend positions after i m := by
  rw [amend, amend]
  split
  · next hm =>
    have hne : target ≠ m.eventId := fun heq => hi (heq ▸ hm)
    rw [standing_cons _ _ _ rfl, Change.rewrite?, if_neg hne, Option.getD_none]
  · rfl

end Amending

/-- With nothing to come the messages are those that are kept. -/
theorem amended_nil (h : History) : h.amended [] = h.messages := by
  apply List.ext_getElem?
  intro i
  rw [amended, List.getElem?_mapIdx]
  cases h.messages[i]? with
  | none => rfl
  | some m => exact congrArg some amend_nil

/-- A message that is sent is one more. -/
theorem amended_sent (roomId eventId sender body : String) (after : List Change) :
    (h.step names (.messageSent roomId eventId sender body)).amended after =
      h.amended (.messageSent roomId eventId sender body :: after) ++
        [⟨eventId, roomId, standing eventId body after, sender,
          displayName names roomId sender⟩] := by
  rw [amended, amended, step]
  dsimp only
  -- All the earlier messages, and then the new one.
  rw [List.mapIdx_concat]
  congr 1
  · rw [List.mapIdx_eq_mapIdx_iff]
    intro i hi
    exact amend_sent (by omega)
  · rw [amend, KeyMap.get?_insert, if_pos rfl, if_pos rfl]

/-- An edit changes the message that the table leads to, if there is one. -/
theorem amended_edited (hleads : h.Leads) (roomId target body : String) (after : List Change) :
    (h.step names (.messageEdited roomId target body)).amended after =
      h.amended (.messageEdited roomId target body :: after) := by
  rw [step]
  cases hposition : h.positions.get? target with
  | none =>
    dsimp only
    rw [amended, amended, List.mapIdx_eq_mapIdx_iff]
    intro i hi
    -- The target is no message, so the edit reaches none.
    exact (amend_edited_of_ne (by simp [hposition])).symm
  | some position =>
    apply List.ext_getElem?
    intro i
    simp only [amended, List.getElem?_mapIdx, List.getElem?_modify]
    cases hm : h.messages[i]? with
    | none => rfl
    | some m =>
      rw [Option.map_eq_map, Option.map_some, Option.map_some, Option.map_some]
      by_cases hi : position = i
      · -- The position that the table gives, and every other one.
        -- The one message that is changed here is also the one that later edits of it reach.
        subst hi
        have htarget := hleads target position hposition
        rw [hm, Option.map_some] at htarget
        rw [if_pos rfl, amend_edited hposition (Option.some.inj htarget)]
      · rw [if_neg hi, amend_edited_of_ne (by simp [hposition, hi])]

/-- Any other change leaves the messages as they are. -/
theorem amended_cons {c : Change} (after : List Change) (hsends : ∀ id, c.sends id = false)
    (hrewrite : ∀ id, c.rewrite? id = none) : h.amended (c :: after) = h.amended after := by
  have hamend : amend h.positions (c :: after) = amend h.positions after := by
    funext i m
    rw [amend, amend, standing_cons _ _ _ (hsends _), hrewrite, Option.getD_none]
  rw [amended, amended, hamend]

/-- Reading on from a part of a history amends its messages and adds those that are sent. -/
theorem foldl_step (hnames : (names.map fun m => (m.roomId, m.userId)).Nodup)
    (changes : List Change) (hleads : h.Leads) :
    (changes.foldl (step names) h).messages = h.amended changes ++ settled names changes := by
  induction changes generalizing h with
  | nil =>
    rw [amended_nil, settled, List.append_nil]
    rfl
  | cons c changes ih =>
    -- What later changes make of the messages is made step by step.
    rw [List.foldl_cons, ih (hleads.step c)]
    cases c with
    | messageSent roomId eventId sender body =>
      rw [amended_sent, displayName_eq_nameOf hnames, List.append_assoc]
      rfl
    | messageEdited roomId target body =>
      exact congrArg (· ++ settled names changes) (amended_edited hleads roomId target body changes)
    | _ =>
      exact congrArg (· ++ settled names changes)
        (amended_cons changes (fun _ => rfl) fun _ => rfl).symm

/-- The messages that are kept are the current ones, and no change of the history is looked up at
a position where there is no message. -/
theorem currentMessages_eq_settled (hnames : (names.map fun m => (m.roomId, m.userId)).Nodup)
    (changes : List Change) :
    currentMessages changes names = settled names changes ∧
      ∀ before, before <+: changes → ∀ id position,
        (before.foldl (step names) empty).positions.get? id = some position →
          position < (before.foldl (step names) empty).messages.length := by
  constructor
  · exact foldl_step hnames changes leads_empty
  · intro before _ id position hposition
    exact (leads_foldl before leads_empty).lt_length hposition

/-- A history with an edit ahead of its target, an id that is sent twice, an edit of what is no
message, and two edits of one message. -/
def resent : List Change :=
  [.messageEdited "!r" "$a" "too early", .messageSent "!r" "$a" "@ann" "one",
   .messageEdited "!r" "$a" "two", .messageSent "!r" "$b" "@bob" "other",
   .messageSent "!r" "$a" "@ann" "three", .messageEdited "!r" "$c" "nobody's",
   .messageRedacted "!r" "$b", .messageEdited "!r" "$a" "four", .messageEdited "!r" "$a" "five"]

/-- Rows for both senders, one of them without a name. -/
def resentNames : List MemberName :=
  [⟨"!r", "@ann", some "Ann"⟩, ⟨"!r", "@bob", none⟩]

/-- The theorem at a history in which one id is sent twice. -/
theorem currentMessages_eq_settled_resent :
    (resentNames.map fun m => (m.roomId, m.userId)).Nodup ∧
      currentMessages resent resentNames = settled resentNames resent ∧
      settled resentNames resent =
        [⟨"$a", "!r", "two", "@ann", some "Ann"⟩, ⟨"$b", "!r", "other", "@bob", none⟩,
         ⟨"$a", "!r", "five", "@ann", some "Ann"⟩] := by
  have hnames : (resentNames.map fun m => (m.roomId, m.userId)).Nodup := by decide
  exact ⟨hnames, (currentMessages_eq_settled hnames resent).1, by decide +kernel⟩

end History

end ChatIndex
