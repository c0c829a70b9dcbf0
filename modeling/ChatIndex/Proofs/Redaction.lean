import ChatIndex.Proofs.Agreement
import ChatIndex.Proofs.Interleaving

/-!
# Redacted messages stay out of the index

Three requests could bring a redacted message back: the one for the message itself, delivered
again, an edit that names it, and the backfill.  The first is made only after the read model has
been asked whether the message is redacted, an edit changes nothing but a document that is there,
and the backfill writes what the snapshot holds.  So once the redaction was carried out, and as
long as the read model has it on record, the message is not found again in whatever order events
and restores come.

* `keeps_of_ends_serve_of_redacted`  what is written is no document of a redacted message
* `document?_of_handled_redaction`   a redaction that is carried out leaves no document
* `redacted_message_stays_out`       no run brings a redacted message back
-/

namespace ChatIndex

/-! ## What the read model says -/

/-- As far as these exchanges show, the read model has a message on record as redacted, and its
snapshots of the messages omit it. -/
structure ReportsRedacted (eventId : String) (es : List Exchange) : Prop where
  onRecord : ∀ redacted, (⟨.read (.isRedacted eventId), .ok redacted⟩ : Exchange) ∈ es →
    redacted = true
  messages : ∀ ms : List RoomMessage, (⟨.read .clearRoomMessages, .ok ms⟩ : Exchange) ∈ es →
    ∀ message ∈ ms, message.eventId ≠ eventId

/-- In a world whose tables list a redaction, the read model has the message on record as
redacted. -/
theorem World.reportsRedacted_exchanges {α : Type} {E : String} (p : Program α) (w : World)
    (hredacted : E ∈ w.tables.redactions) :
    ReportsRedacted E (p.exchanges World.handler w) where
  onRecord redacted hmem := by
    have hanswer : Except.ok (w.tables.redactions.contains E) = Except.ok redacted :=
      World.answer_of_mem_exchanges p w hmem
    rw [← Except.ok.inj hanswer, List.contains_iff_mem]
    exact hredacted
  messages ms hmem message hmessage hid := by
    -- The snapshot leaves out every message whose redaction is listed.
    cases World.answer_of_mem_exchanges p w hmem
    obtain ⟨row, hrow, rfl⟩ := List.mem_map.1 hmessage
    have hkept := (Bool.and_eq_true_iff.1 (List.mem_filter.1 hrow).2).2
    have hid : row.eventId = E := hid
    rw [hid, List.contains_iff_mem.2 hredacted] at hkept
    cases hkept

/-! ## What is written -/

/-- Whether a document is another one than that of a message. -/
def OtherThan (names : IndexNames) (eventId index id : String) (_ : Document) : Prop :=
  index = names.messages → id ≠ eventId

/-- A message is not indexed just if every document is one of another message. -/
theorem Memory.document?_eq_none_iff_all {m : Memory} {names : IndexNames} {E : String} :
    m.document? names.messages E = none ↔ m.All (OtherThan names E) := by
  constructor
  · rintro hnone i id d hd rfl rfl
    rw [hnone] at hd
    cases hd
  · intro h
    cases hd : m.document? names.messages E with
    | none => rfl
    | some d => exact absurd rfl (h names.messages E d hd rfl)

variable {s : SyncSettings} {E : String} {seed : Indices}

/-- A run writes no document of a redacted message. -/
theorem keeps_of_ends_serve_of_redacted {tasks : List Task} {es : List Exchange}
    {ls : List LogRecord} (h : (serve s tasks).Ends es ls ())
    (hnames : s.indices.rooms ≠ s.indices.messages) (hseed : seed.All (OtherThan s.indices E))
    (hE : ReportsRedacted E es) :
    ∀ call ∈ engineCalls es, call.Keeps (OtherThan s.indices E) seed := by
  intro call hcall
  obtain hrequest | hrequest := request_of_ends_serve h call hcall
  · refine hrequest.keeps (fun roomId name room _ _ hindex => absurd hindex hnames)
      (fun message room hredacted _ _ _ hid => ?_) fun id d field text _ hd => hd
    -- A message is written only if it is not on record as redacted.
    rw [hid] at hredacted
    cases hE.onRecord false hredacted
  · refine hrequest.keeps hseed (fun rooms _ b _ hindex => absurd hindex hnames)
      fun messages hmessages b hb _ => ?_
    obtain ⟨message, hmessage, rfl⟩ := List.mem_map.1 hb
    exact hE.messages messages hmessages message hmessage

/-! ## The redaction of a message -/

/-- An event whose redaction was carried out leaves no document of the message. -/
theorem document?_of_handled_redaction {event : RoomEvent} {es : List Exchange}
    {ls : List LogRecord} {m m' : Memory} (hid : isEventId E = true) (hredacts : event.Redacts E)
    (hhandled : (Sync.handle s event).Ends es ls ())
    (happlied : Sync.outcomeRecord event (.messageRedacted event.roomId E) (.ok .applied) ∈ ls)
    (hsteps : m.Steps es m') : m'.document? s.indices.messages E = none := by
  obtain ⟨ls', hhandling⟩ :=
    Sync.handling_of_applied (hredacts.change? hid) hhandled happlied
  generalize hr : (Except.ok .applied : Except CallError SyncOutcome) = r at hhandling
  -- The change is a removal by id, and it was carried out.
  cases hhandling with
  | removed roomId eventId answer =>
    cases answer with
    | error e => cases hr
    | ok value =>
      rw [Memory.steps_cons] at hsteps
      obtain ⟨m₁, hstep, hsteps⟩ := hsteps
      rw [Memory.steps_nil] at hsteps
      have hm₁ : m₁ = m.deleteDocument s.indices.messages E :=
        (congrArg Prod.snd hstep.of_ok).symm
      rw [hsteps, hm₁, Memory.document?_deleteDocument, if_pos ⟨rfl, rfl⟩]

/-- Once the redaction of a message was carried out, and as long as the read model has it on
record, no events and no restores ever bring the message back: it is not there in any later
state. -/
theorem redacted_message_stays_out {event : RoomEvent} {es₀ es rest : List Exchange}
    {ls₀ ls : List LogRecord} {tasks : List Task} {m₀ m₁ m₂ : Memory}
    (hnames : s.indices.rooms ≠ s.indices.messages)
    (hseed : ∀ ds, m₀.preseed.get? s.indices.messages = some ds → ds.get? E = none)
    (hid : isEventId E = true) (hredacts : event.Redacts E)
    (hhandled : (Sync.handle s event).Ends es₀ ls₀ ())
    (happlied : Sync.outcomeRecord event (.messageRedacted event.roomId E) (.ok .applied) ∈ ls₀)
    (hsteps₀ : m₀.Steps es₀ m₁)
    (hserve : (serve s tasks).Ends (es ++ rest) ls ())
    (hreports : ReportsRedacted E (es ++ rest)) (hsteps : m₁.Steps es m₂) :
    m₂.document? s.indices.messages E = none := by
  have hgone := document?_of_handled_redaction hid hredacts hhandled happlied hsteps₀
  -- The invariant is that every document is one of another message.
  rw [Memory.document?_eq_none_iff_all] at hgone ⊢
  have hseed : m₁.preseed.All (OtherThan s.indices E) := by
    rw [hsteps₀.preseed_eq]
    rintro i ds id d hds hd rfl rfl
    rw [hseed ds hds] at hd
    cases hd
  -- A run that is not over yet has made the first of its requests.
  have hkeeps := keeps_of_ends_serve_of_redacted hserve hnames hseed hreports
  rw [engineCalls_append, List.forall_mem_append] at hkeeps
  exact hsteps.all hgone hkeeps.1

/-- A clear room whose one message is on record as redacted and still indexed. -/
def World.justRedacted : World :=
  let message : MessageDocument := ⟨"$1", "!r", "see you at six", "@ann", none⟩
  { World.empty with
    tables := { World.oneMessage.tables with redactions := ["$1"] }
    memory := Memory.empty.setDocuments "messages" (KeyMap.empty.insert "$1" message.toDocument) }

/-- After the redaction: the message again, an edit of it, and a restore. -/
def Task.afterRedaction : List Task :=
  [.event (sampleMessage "$1" "@ann" (.ofMembers [("body", .string "see you at six")])),
   .event (sampleMessage "$2" "@ann" (editContent "$1" "make it seven")), .restore 10]

/-- The message delivered again, an edit of it and a restore do not bring it back. -/
theorem redacted_message_stays_out_of_world :
    let w := ((Sync.handle .plain .redactingMessage).run World.handler .justRedacted).state
    ((serve .plain Task.afterRedaction).run World.handler w).state.memory.document?
      SyncSettings.plain.indices.messages "$1" = none := by
  intro w
  have hhandled :=
    Course.ends_exchanges_unit World.handler (Sync.handle .plain .redactingMessage) .justRedacted
  have hsteps₀ := World.steps_exchanges (Sync.handle .plain .redactingMessage) .justRedacted
  have hserve := Course.ends_exchanges_unit World.handler (serve .plain Task.afterRedaction) w
  have hsteps := World.steps_exchanges (serve .plain Task.afterRedaction) w
  rw [← List.append_nil (Course.exchanges ..)] at hserve
  refine redacted_message_stays_out (by decide) ?_ (by decide) ⟨rfl, rfl⟩ hhandled ?_ hsteps₀
    hserve ?_ hsteps
  · intro ds hds
    cases hds
  · decide
  · rw [List.append_nil]
    exact World.reportsRedacted_exchanges _ _ (by decide)

end ChatIndex
