import ChatIndex.Proofs.Agreement
import ChatIndex.Proofs.Effects

/-!
# Events that are delivered again

A consumer that starts a log from the beginning may be rewound at any time and as often as it
likes: once it has read to the end, the indices are as if it had read the log once.

A single event that is delivered again does harm: a message brings back the text from before its
edit, a rename the name before the last one.  What repairs it is that all later events come again
too.  On each document, handling an event makes it irrelevant whether the same event was handled
before (`Absorbing`), because every effect does the same twice as once, and no other effect tells
apart two documents that it makes equal.

* `Consumed.foldl_eq`                    rewinds do not matter to events with that property
* `absorbing_room`, `absorbing_message`  the effects on one document have it
* `redelivery_converges`                 rewinds do not matter to the documents of the indices
-/

namespace ChatIndex

/-! ## Consuming a log -/

section Consuming

variable {α σ : Type}

/-- What a consumer hands on from an offset of a log until it is done: it reads forward, may be
rewound at any time, and ends at the end of the log. -/
inductive Consumed (log : List α) : Nat → List α → Prop
  | finished : Consumed log log.length []
  | next {offset : Nat} {e : α} {rest : List α} (he : log[offset]? = some e)
      (h : Consumed log (offset + 1) rest) : Consumed log offset (e :: rest)
  | rewound {offset earlier : Nat} {rest : List α} (hearlier : earlier < offset)
      (h : Consumed log earlier rest) : Consumed log offset rest

variable {log before batch after rest : List α}

/-- A consumer may read a whole stretch of the log. -/
theorem Consumed.read {offset : Nat} (hdrop : log.drop offset = batch ++ after)
    (h : Consumed log (offset + batch.length) rest) : Consumed log offset (batch ++ rest) := by
  induction batch generalizing offset with
  | nil => exact h
  | cons e batch ih =>
    have hnext : log[offset]? = some e := by
      rw [← Nat.add_zero offset, ← List.getElem?_drop, hdrop]
      rfl
    have hdrop' : log.drop (offset + 1) = batch ++ after := by
      rw [← List.tail_drop, hdrop]
      rfl
    rw [List.length_cons, Nat.add_comm batch.length, ← Nat.add_assoc] at h
    exact .next hnext (ih hdrop' h)

/-- A stretch of the log may be handed on twice in a row. -/
theorem consumed_twice (hlog : log = before ++ batch ++ after) (hbatch : batch ≠ []) :
    Consumed log 0 (before ++ (batch ++ (batch ++ after))) := by
  have hall : log.drop 0 = before ++ (batch ++ after) := by simp [hlog]
  have hmiddle : log.drop before.length = batch ++ after := by simp [hlog]
  have hlast : log.drop (before.length + batch.length) = after ++ [] := by simp [hlog]
  have hlength : before.length + batch.length + after.length = log.length := by simp [hlog]; omega
  have hend : Consumed log (before.length + batch.length) after := by
    rw [← List.append_nil after]
    exact .read hlast (hlength ▸ .finished)
  -- Behind the stretch the consumer is rewound to where the stretch begins.
  have hback : Consumed log (before.length + batch.length) (batch ++ after) := by
    refine .rewound ?_ (.read hmiddle hend)
    exact Nat.lt_add_of_pos_right (List.length_pos_iff.2 hbatch)
  have hstart : Consumed log (0 + before.length) (batch ++ (batch ++ after)) := by
    rw [Nat.zero_add]
    exact .read hmiddle hback
  exact .read hall hstart

/-- Acting on an event makes it irrelevant whether one acted on it before, whatever came in
between. -/
def Absorbing (act : σ → α → σ) : Prop :=
  ∀ (e : α) (es : List α) (x : σ), act (es.foldl act (act x e)) e = act (es.foldl act x) e

/-- Events that do the same twice as once are absorbing if no other one tells apart what they make
equal. -/
theorem Absorbing.of_idempotent {act : σ → α → σ} (hidempotent : ∀ e x, act (act x e) e = act x e)
    (hblind : ∀ e e' x y, act x e = act y e → act (act x e') e = act (act y e') e) :
    Absorbing act := by
  intro e es x
  -- The induction is on what comes in between, for any two states that the event makes equal.
  have hequal : ∀ x y, act x e = act y e → act (es.foldl act x) e = act (es.foldl act y) e := by
    induction es with
    | nil => exact fun x y h => h
    | cons e' es ih => exact fun x y h => ih _ _ (hblind e e' x y h)
  exact hequal _ _ (hidempotent e x)

/-- From any offset on, a consumer comes to what reading on from that offset or from an earlier
one comes to. -/
private theorem Consumed.exists_drop {act : σ → α → σ} (hact : Absorbing act)
    {delivered : List α} {offset : Nat} (h : Consumed log offset delivered) :
    ∃ k ≤ offset, ∀ x, delivered.foldl act x = (log.drop k).foldl act x := by
  induction h with
  | finished => exact ⟨log.length, Nat.le_refl _, fun x => by rw [List.drop_length]⟩
  | rewound hearlier _ ih =>
    obtain ⟨k, hk, hdelivered⟩ := ih
    exact ⟨k, by omega, hdelivered⟩
  | @next offset e rest he _ ih =>
    obtain ⟨k, hk, hrest⟩ := ih
    obtain ⟨hlt, he⟩ := List.getElem?_eq_some_iff.1 he
    have hdrop : log.drop offset = e :: log.drop (offset + 1) := by
      rw [List.drop_eq_getElem_cons hlt, he]
    by_cases hoffset : k = offset + 1
    · -- There was no rewind behind this event.
      refine ⟨offset, Nat.le_refl _, fun x => ?_⟩
      rw [hdrop, List.foldl_cons, List.foldl_cons, hrest, hoffset]
    · -- The event is read again later, and absorbed then.
      refine ⟨k, by omega, fun x => ?_⟩
      have hsplit : log.drop k = (log.drop k).take (offset - k) ++ e :: log.drop (offset + 1) := by
        rw [← hdrop]
        have hoffset : log.drop offset = (log.drop k).drop (offset - k) := by
          rw [List.drop_drop]
          congr 1
          omega
        rw [hoffset, List.take_append_drop]
      rw [List.foldl_cons, hrest, hsplit, List.foldl_append, List.foldl_append, List.foldl_cons,
        List.foldl_cons, hact e]

/-- Rewinds do not matter to events that are absorbing. -/
theorem Consumed.foldl_eq {act : σ → α → σ} (hact : Absorbing act) {delivered : List α}
    (h : Consumed log 0 delivered) (x : σ) : delivered.foldl act x = log.foldl act x := by
  obtain ⟨k, hk, hdelivered⟩ := h.exists_drop hact
  rw [hdelivered x, Nat.le_zero.1 hk, List.drop_zero]

end Consuming

/-! ## The effects on one document -/

/-- The effects on the document of a room are absorbing. -/
theorem absorbing_room {α : Type} (known : Option Document) (effect : α → RoomEffect) :
    Absorbing fun d e => (effect e).act known d := by
  refine Absorbing.of_idempotent (fun e d => ?_) fun e e' d d' h => ?_
  · cases effect e with
    | keep | put => rfl
    | fill => cases d <;> simp [RoomEffect.act]
  · -- The effect makes two documents equal, and any effect may have come before it.
    cases he : effect e with
    | put => rfl
    | keep =>
      rw [he] at h
      have h : d = d' := h
      rw [h]
    | fill =>
      rw [he] at h
      -- A gap is filled with the same document every time.
      cases effect e' with
      | keep => exact h
      | put => rfl
      | fill => exact congrArg (·.or known) h

section Messages

variable {query other : DocumentQuery} {field otherField : String} {value otherValue : Json}

/-- Setting a field that the query does not ask for is the same twice as once. -/
theorem DocumentQuery.Fixed.set_set (hquery : query.Fixed) (hfield : field ∈ changingFields)
    (d : Document) : query.set field value (query.set field value d) = query.set field value d := by
  have hmatch := hquery.isMatch_set hfield query value d
  unfold DocumentQuery.set at hmatch ⊢
  rw [hmatch]
  split
  · rw [KeyMap.insert_insert]
  · rfl

/-- Documents that become equal when a field is set do so after any other field was set, too. -/
theorem DocumentQuery.Fixed.set_eq_set (hquery : query.Fixed) (hfield : field ∈ changingFields)
    (hother : other.Fixed) (hotherField : otherField ∈ changingFields) {d d' : Document}
    (h : query.set field value d = query.set field value d') :
    query.set field value (other.set otherField otherValue d) =
      query.set field value (other.set otherField otherValue d') := by
  -- Both queries take the two documents for the same one.
  have hmatch : query.isMatch d = query.isMatch d' := by
    rw [← hquery.isMatch_set hfield query value d, h, hquery.isMatch_set hfield]
  have hotherMatch : other.isMatch d = other.isMatch d' := by
    rw [← hother.isMatch_set hfield query value d, h, hother.isMatch_set hfield]
  have hset := hquery.isMatch_set hotherField other otherValue d
  have hset' := hquery.isMatch_set hotherField other otherValue d'
  unfold DocumentQuery.set at h hset hset' ⊢
  rw [hset, hset', ← hmatch, ← hotherMatch]
  rw [← hmatch] at h
  cases hq : query.isMatch d with
  | false =>
    rw [hq] at h
    have h : d = d' := h
    rw [h]
  | true =>
    rw [hq, if_pos rfl, if_pos rfl] at h
    rw [if_pos rfl, if_pos rfl]
    split
    · by_cases heq : otherField = field
      · rw [heq, KeyMap.insert_insert, KeyMap.insert_insert, h]
      · rw [KeyMap.insert_comm d heq, KeyMap.insert_comm d' heq, h]
    · exact h

/-- A field may be set before or after documents are removed by a query. -/
theorem DocumentQuery.Fixed.filter_map_set (hquery : query.Fixed)
    (hotherField : otherField ∈ changingFields) (d : Option Document) :
    (d.map (other.set otherField otherValue)).filter (fun d => !query.isMatch d) =
      (d.filter fun d => !query.isMatch d).map (other.set otherField otherValue) := by
  cases d with
  | none => rfl
  | some d =>
    have hmatch := hquery.isMatch_set hotherField other otherValue d
    cases hq : query.isMatch d <;> simp [Option.filter, hmatch, hq]

/-- The effects on the document of a message are absorbing. -/
theorem absorbing_message {α : Type} (effect : α → MessageEffect) :
    Absorbing fun d e => (effect e).act d := by
  refine Absorbing.of_idempotent (fun e d => ?_) fun e e' d d' h => ?_
  · cases effect e with
    | keep | put => rfl
    | removeIf query fixed => simp [MessageEffect.act, Option.filter_filter]
    | setIf query fixed field changing value =>
      simp [MessageEffect.act, Function.comp_def, fixed.set_set changing]
  · cases he : effect e with
    | put => rfl
    | keep =>
      rw [he] at h
      have h : d = d' := h
      rw [h]
    | removeIf query fixed =>
      rw [he] at h
      have h : d.filter (fun d => !query.isMatch d) = d'.filter (fun d => !query.isMatch d) := h
      cases effect e' with
      | keep => exact h
      | put => rfl
      | removeIf other otherFixed =>
        -- It does not matter which of two queries removes first.
        simp only [MessageEffect.act, Option.filter_filter]
        simp only [Bool.and_comm, ← Option.filter_filter, h]
      | setIf other otherFixed otherField otherChanging otherValue =>
        -- What the query removes is not told by the field that was set.
        simp only [MessageEffect.act]
        rw [fixed.filter_map_set otherChanging, fixed.filter_map_set otherChanging, h]
    | setIf query fixed field changing value =>
      rw [he] at h
      have h : d.map (query.set field value) = d'.map (query.set field value) := h
      cases effect e' with
      | keep => exact h
      | put => rfl
      | removeIf other otherFixed =>
        simp only [MessageEffect.act]
        rw [← otherFixed.filter_map_set changing, ← otherFixed.filter_map_set changing, h]
      | setIf other otherFixed otherField otherChanging otherValue =>
        simp only [MessageEffect.act, Option.map_map]
        cases d <;> cases d' <;> simp at h ⊢
        exact fixed.set_eq_set changing otherFixed otherChanging h

end Messages

/-! ## The documents of the indices -/

variable {s : SyncSettings} {reads : Answers} {log delivered : List RoomEvent}

/-- Once a consumer has handed on a log from its beginning to its end, rewound as often and as far
as it may be, both indices hold the documents that they hold if the log is handled once. -/
theorem redelivery_converges (hnames : s.indices.rooms ≠ s.indices.messages)
    (hdelivered : Consumed log 0 delivered) (m : Memory) :
    (deliverAll s reads m delivered).documents s.indices.rooms =
        (deliverAll s reads m log).documents s.indices.rooms ∧
      (deliverAll s reads m delivered).documents s.indices.messages =
        (deliverAll s reads m log).documents s.indices.messages := by
  -- Each document goes its own way, and on each the effects are absorbing.
  constructor
  · refine KeyMap.ext_get? fun id => ?_
    show (deliverAll s reads m delivered).document? s.indices.rooms id =
      (deliverAll s reads m log).document? s.indices.rooms id
    rw [document?_deliverAll_rooms hnames, document?_deliverAll_rooms hnames]
    exact hdelivered.foldl_eq (absorbing_room _ _) _
  · refine KeyMap.ext_get? fun id => ?_
    show (deliverAll s reads m delivered).document? s.indices.messages id =
      (deliverAll s reads m log).document? s.indices.messages id
    rw [document?_deliverAll_messages hnames, document?_deliverAll_messages hnames]
    exact hdelivered.foldl_eq (absorbing_message _) _

/-- A message and its edit. -/
def RoomEvent.editedLog : List RoomEvent :=
  [sampleMessage "$1" "@ann" (.ofMembers [("body", .string "see you at six")]),
   sampleMessage "$2" "@ann" (editContent "$1" "make it seven")]

/-- A message and its edit that are both read twice leave what they leave when read once. -/
theorem redelivery_converges_editedLog :
    let after := deliverAll .plain (.clear []) .empty
    (after (RoomEvent.editedLog ++ RoomEvent.editedLog)).documents "rooms" =
        (after RoomEvent.editedLog).documents "rooms" ∧
      (after (RoomEvent.editedLog ++ RoomEvent.editedLog)).documents "messages" =
        (after RoomEvent.editedLog).documents "messages" := by
  have hlog : RoomEvent.editedLog = [] ++ RoomEvent.editedLog ++ [] := rfl
  have hdelivered := consumed_twice hlog (by decide)
  rw [List.nil_append, List.append_nil] at hdelivered
  exact redelivery_converges (s := .plain) (by decide) hdelivered .empty

-- Without the edit behind it, the message that comes again brings its first text back.
example :
    let after := deliverAll .plain (.clear []) .empty
    let again := RoomEvent.editedLog ++ RoomEvent.editedLog.take 1
    ((after RoomEvent.editedLog).document? "messages" "$1").bind (·.get? "content") =
        some (.string "make it seven") ∧
      ((after again).document? "messages" "$1").bind (·.get? "content") =
        some (.string "see you at six") := by
  decide +kernel

end ChatIndex
