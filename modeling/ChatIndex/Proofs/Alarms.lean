import ChatIndex.Proofs.EncryptedEvents
import ChatIndex.Proofs.FreshReads

/-!
# Warnings and errors about a room

What is left undone of an event should be seen in the log: a warning or an error that names the
room.  A request that fails always raises such an alarm.  A request by query may succeed and still
leave documents behind, in conflict with another writer or failed one by one.  A change of a
display name raises an alarm for both; an encryption does so for the failed ones alone, and says
nothing of the others but how many they are.

* `names_room_of_ends_handle`  every record of an event names its room
* `exists_alarm_of_failed`     a failed request raises an alarm
* `leftovers_unnoticed_iff`    when documents are left behind without an alarm
-/

namespace ChatIndex

/-- A warning or an error. -/
def LogRecord.IsAlarm (record : LogRecord) : Prop :=
  record.level = .warn ∨ record.level = .error

/-- A warning or an error that names a room. -/
def LogRecord.Alarms (record : LogRecord) (roomId : String) : Prop :=
  record.IsAlarm ∧ ("room_id", roomId) ∈ record.fields

/-- Some of the documents of a request by query were not dealt with. -/
def ByQueryOutcome.LeavesBehind (outcome : ByQueryOutcome) : Prop :=
  0 < outcome.versionConflicts ∨ 0 < outcome.failures

namespace Sync

open Attempt

variable {s : SyncSettings} {c : Change} {event : RoomEvent} {es : List Exchange}
  {ls : List LogRecord} {r : Except CallError SyncOutcome} {outcome : ByQueryOutcome}

/-! ## Records name their room -/

/-- What a change logs on its way names its room. -/
theorem Handling.names_room (h : Handling s c es ls r) :
    ∀ record ∈ ls, ("room_id", c.roomId) ∈ record.fields := by
  cases h with
  | encrypted roomId algorithm outcome =>
    unfold encryptionRecords
    split <;> simp [Change.roomId]
  | displayNameWritten roomId userId displayName outcome =>
    unfold displayNameRecords
    split <;> simp [Change.roomId]
  | _ => exact fun record hrecord => absurd hrecord List.not_mem_nil

/-- The record of what became of a change names the room of the event, whether it was carried out,
skipped or failed. -/
theorem outcomeRecord_names_room :
    ("room_id", event.roomId) ∈ (outcomeRecord event c r).fields := by
  obtain e | outcome := r
  · simp [outcomeRecord]
  · cases outcome <;> simp [outcomeRecord]

/-- Every record of an event that asks for a change names its room. -/
theorem names_room_of_ends_handle (hchange : event.change? = .ok (some c))
    (h : (handle s event).Ends es ls ()) :
    ∀ record ∈ ls, ("room_id", event.roomId) ∈ record.fields := by
  obtain ⟨-, hnone⟩ | ⟨c', r, ls', hc', hhandling, rfl⟩ := handling_of_ends_handle h
  · exact absurd hchange (hnone c)
  · rw [← RoomEvent.roomId_of_change? hc', List.forall_mem_append, List.forall_mem_singleton]
    refine ⟨hhandling.names_room, ?_⟩
    rw [RoomEvent.roomId_of_change? hc']
    exact outcomeRecord_names_room

/-! ## Failed requests -/

/-- A request that fails while a change is carried out raises an alarm. -/
theorem exists_alarm_of_failed {call : Call} {failure : call.Failure}
    (hchange : event.change? = .ok (some c)) (h : (handle s event).Ends es ls ())
    (hfailed : (⟨call, .error failure⟩ : Exchange) ∈ es) :
    ∃ record ∈ ls, record.Alarms event.roomId := by
  obtain ⟨-, hnone⟩ | ⟨c', r, ls', -, happly, rfl⟩ := ends_apply_of_ends_handle h
  · exact absurd hchange (hnone c)
  · -- The failure is what becomes of the change, and that is the last record.
    obtain ⟨before, after, rfl⟩ := List.append_of_mem hfailed
    obtain ⟨-, rfl⟩ := halts_apply s c' before call failure after ls' r happly
    exact ⟨_, List.mem_append_right ls' List.mem_cons_self, .inr rfl, outcomeRecord_names_room⟩

/-! ## Documents left behind -/

/-- What the engine reports of the documents that a change removes or alters by query. -/
inductive Reported (s : SyncSettings) : Change → List Exchange → ByQueryOutcome → Prop
  | removal {roomId algorithm : String} {es : List Exchange} {outcome : ByQueryOutcome}
      (h : ⟨.engine (removalCall s roomId), .ok outcome⟩ ∈ es) :
      Reported s (.roomEncrypted roomId algorithm) es outcome
  | displayName {roomId userId displayName : String} {es : List Exchange}
      {outcome : ByQueryOutcome}
      (h : ⟨.engine (displayNameCall s roomId userId displayName), .ok outcome⟩ ∈ es) :
      Reported s (.displayNameChanged roomId userId displayName) es outcome

/-- What is logged of such a report. -/
def reportRecords (outcome : ByQueryOutcome) : Change → List LogRecord
  | .roomEncrypted roomId algorithm => encryptionRecords roomId algorithm outcome
  | .displayNameChanged roomId userId _ => displayNameRecords roomId userId outcome
  | _ => []

/-- A change that got a report is carried out, and what it logs is the report. -/
theorem Handling.logs_report (h : Handling s c es ls r) (hreported : Reported s c es outcome) :
    r = .ok .applied ∧ ls = reportRecords outcome c := by
  cases hreported with
  | removal hmem =>
    cases h with
    | roomKept roomId algorithm e => simp [removalCall] at hmem
    | messagesKept roomId algorithm e => simp [removalCall] at hmem
    -- Only here the engine has reported what it removed.
    | encrypted roomId algorithm outcome' =>
      obtain rfl : outcome = outcome' := by simpa [removalCall] using hmem
      exact ⟨rfl, rfl⟩
  | displayName hmem =>
    cases h with
    | displayNameKept roomId userId displayName e => simp at hmem
    | displayNameWritten roomId userId displayName outcome' =>
      cases List.mem_singleton.1 hmem
      exact ⟨rfl, rfl⟩

/-- An encryption warns of documents that failed, not of conflicts: those it only counts. -/
theorem isAlarm_encryptionRecords_iff {roomId algorithm : String} :
    (∃ record ∈ encryptionRecords roomId algorithm outcome, record.IsAlarm) ↔
      0 < outcome.failures := by
  unfold encryptionRecords
  split <;> simp [LogRecord.IsAlarm, *]

/-- A change of a display name warns of both. -/
theorem isAlarm_displayNameRecords_iff {roomId userId : String} :
    (∃ record ∈ displayNameRecords roomId userId outcome, record.IsAlarm) ↔
      outcome.LeavesBehind := by
  unfold displayNameRecords
  split <;> simp [LogRecord.IsAlarm, ByQueryOutcome.LeavesBehind, *]

/-- A report raises an alarm if documents failed, or if some were in conflict and the change is
no encryption. -/
theorem exists_alarm_iff_of_reported (hchange : event.change? = .ok (some c))
    (h : (handle s event).Ends es ls ()) (hreported : Reported s c es outcome) :
    (∃ record ∈ ls, record.IsAlarm) ↔
      0 < outcome.failures ∨
        0 < outcome.versionConflicts ∧
          ¬ ∃ algorithm, c = .roomEncrypted event.roomId algorithm := by
  obtain ⟨-, hnone⟩ | ⟨c', r, ls', hc', hhandling, rfl⟩ := handling_of_ends_handle h
  · exact absurd hchange (hnone c)
  · rw [hchange] at hc'
    cases hc'
    have hroom := RoomEvent.roomId_of_change? hchange
    obtain ⟨rfl, rfl⟩ := hhandling.logs_report hreported
    -- The last record says that the change was applied, which is no alarm, so all hangs on the
    -- report.
    have houtcome : ¬ (outcomeRecord event c (.ok .applied)).IsAlarm := by
      simp [LogRecord.IsAlarm, outcomeRecord]
    simp only [List.mem_append, List.mem_singleton, or_and_right, exists_or, exists_eq_left,
      houtcome, or_false]
    cases hreported with
    | @removal roomId algorithm =>
      have hencrypted : ∃ algorithm', Change.roomEncrypted roomId algorithm =
          .roomEncrypted event.roomId algorithm' := ⟨algorithm, by rw [← hroom]; rfl⟩
      rw [iff_false_intro (not_not_intro hencrypted), and_false, or_false]
      exact isAlarm_encryptionRecords_iff
    | displayName hmem =>
      simpa [reportRecords, ByQueryOutcome.LeavesBehind, or_comm] using
        isAlarm_displayNameRecords_iff

/-- Documents that are left behind go without an alarm just if they are those of an encryption
and all of them were in conflict; and where none are left behind there is no alarm. -/
theorem leftovers_unnoticed_iff (hchange : event.change? = .ok (some c))
    (h : (handle s event).Ends es ls ()) (hreported : Reported s c es outcome) :
    (outcome.LeavesBehind ∧ (¬ ∃ record ∈ ls, record.Alarms event.roomId) ↔
      (∃ algorithm, c = .roomEncrypted event.roomId algorithm) ∧
        outcome.failures = 0 ∧ 0 < outcome.versionConflicts) ∧
      (¬ outcome.LeavesBehind → ∀ record ∈ ls, ¬ record.IsAlarm) := by
  -- All records name the room, so an alarm of the room is an alarm.
  have hnames := names_room_of_ends_handle hchange h
  have halarms : (∃ record ∈ ls, record.Alarms event.roomId) ↔ ∃ record ∈ ls, record.IsAlarm :=
    exists_congr fun record => and_congr_right fun hmem => and_iff_left (hnames record hmem)
  have hreport := exists_alarm_iff_of_reported hchange h hreported
  constructor
  · -- What is left is arithmetic on the two counters, apart for the two kinds of changes.
    rw [halarms, hreport, ByQueryOutcome.LeavesBehind]
    by_cases hencryption : ∃ algorithm, c = .roomEncrypted event.roomId algorithm
    · simp only [hencryption, not_true_eq_false, and_false, or_false, true_and]
      omega
    · simp only [hencryption, not_false_eq_true, and_true, false_and, iff_false]
      omega
  · intro hnone record hmem halarm
    obtain hfailures | ⟨hconflicts, -⟩ := hreport.1 ⟨record, hmem, halarm⟩
    · exact hnone (.inr hfailures)
    · exact hnone (.inl hconflicts)

/-- The room that was just encrypted, in an engine that reports conflicts and failures. -/
def reporting (versionConflicts failures : Nat) : World :=
  { World.justEncrypted with
    memory := { World.justEncrypted.memory with versionConflicts, failures } }

/-- What the engine reports when the messages of the room are removed. -/
theorem reported_reporting (versionConflicts failures : Nat) :
    Reported .plain (.roomEncrypted "!r" "m.megolm.v1.aes-sha2")
      ((handle .plain .encryptingRoom).exchanges World.handler
        (reporting versionConflicts failures))
      ⟨1 + versionConflicts, 1, versionConflicts, failures⟩ :=
  .removal (List.mem_cons_of_mem _ List.mem_cons_self)

/-- The theorem at two reports of an encryption: one failure raises an alarm, none raises none. -/
theorem leftovers_unnoticed_iff_oneFailure :
    (∃ record ∈ ((handle .plain .encryptingRoom).run World.handler (reporting 0 1)).logs,
      record.Alarms "!r") ∧
      ∀ record ∈ ((handle .plain .encryptingRoom).run World.handler (reporting 0 0)).logs,
        ¬ record.IsAlarm := by
  have hchange : RoomEvent.encryptingRoom.change? =
      .ok (some (.roomEncrypted "!r" "m.megolm.v1.aes-sha2")) := rfl
  have hends := Course.ends_exchanges_unit World.handler (handle .plain .encryptingRoom)
  constructor
  · obtain ⟨hunnoticed, -⟩ :=
      leftovers_unnoticed_iff hchange (hends (reporting 0 1)) (reported_reporting 0 1)
    -- Were it silent, the one failure would have to be none.
    refine Classical.not_not.1 fun hsilent => ?_
    obtain ⟨-, hfailures, -⟩ := hunnoticed.1 ⟨.inr (by decide), hsilent⟩
    cases hfailures
  · obtain ⟨-, hquiet⟩ :=
      leftovers_unnoticed_iff hchange (hends (reporting 0 0)) (reported_reporting 0 0)
    exact hquiet (by simp [ByQueryOutcome.LeavesBehind])

/-- A message of the room is in conflict with another writer and left behind, without an alarm. -/
theorem conflict_of_encryption_unnoticed :
    let w := reporting 1 0
    let outcome : ByQueryOutcome := ⟨2, 1, 1, 0⟩
    Reported .plain (.roomEncrypted "!r" "m.megolm.v1.aes-sha2")
        ((handle .plain .encryptingRoom).exchanges World.handler w) outcome ∧
      outcome.LeavesBehind ∧
      ¬ ∃ record ∈ ((handle .plain .encryptingRoom).run World.handler w).logs,
        record.Alarms "!r" := by
  intro w outcome
  have hreported := reported_reporting 1 0
  refine ⟨hreported, .inl (by decide), ?_⟩
  rintro ⟨record, hmem, halarm, -⟩
  have hends := Course.ends_exchanges_unit World.handler (handle .plain .encryptingRoom) w
  -- There were no failures, and the change is no new display name.
  obtain hfailures | ⟨-, hother⟩ :=
    (exists_alarm_iff_of_reported rfl hends hreported).1 ⟨record, hmem, halarm⟩
  · cases hfailures
  · exact hother ⟨_, rfl⟩

end Sync

end ChatIndex
