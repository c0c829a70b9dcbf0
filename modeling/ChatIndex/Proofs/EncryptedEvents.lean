import ChatIndex.Proofs.Privacy

/-!
# Events of encrypted rooms

What an event of an encrypted room does to the indices.  All it should do is to remove documents
and to write display names (`Memory.Unfed`), and that is all it does unless it is an edit: an edit
writes its body into whatever document it names, without a look at the read model.

* `Steps.unfed`                 removals and display names feed nothing
* `encrypted_event_unfed_iff`   an event of an encrypted room feeds the indices just when it is an
  edit that reaches a document with another content
-/

namespace ChatIndex

/-- The change that an event asks for is one of its own room. -/
theorem RoomEvent.roomId_of_change? {event : RoomEvent} {c : Change}
    (h : event.change? = .ok (some c)) : c.roomId = event.roomId := by
  unfold RoomEvent.change? at h
  split at h
  · cases h
    rfl
  · split at h
    · simp only [Except.ok.injEq, Option.map_eq_some_iff] at h
      obtain ⟨algorithm, -, rfl⟩ := h
      rfl
    · -- Messages are left, which may be edits, then redactions and members.
      split at h
      · split at h
        · unfold RoomEvent.editChange at h
          dsimp only at h
          split at h <;> cases h
          rfl
        · unfold RoomEvent.messageChange? at h
          split at h <;> cases h
          rfl
      · split at h
        · unfold RoomEvent.redactionChange at h
          split at h
          · split at h <;> cases h
            rfl
          · cases h
        · split at h
          · unfold RoomEvent.memberChange? at h
            dsimp only at h
            split at h
            · split at h <;> cases h
              rfl
            · cases h
          · cases h

namespace Memory

variable {m m' m'' : Memory}

/-- Nothing was fed to the indices between two states: every document of the later one was there
before, and only its display name may have changed. -/
def Unfed (m m' : Memory) : Prop :=
  ∀ i id d', m'.document? i id = some d' →
    ∃ d, m.document? i id = some d ∧ ∀ field, field ≠ "display_name" → d'.get? field = d.get? field

theorem Unfed.refl (m : Memory) : m.Unfed m :=
  fun _ _ d hd => ⟨d, hd, fun _ _ => rfl⟩

theorem Unfed.trans (h : m.Unfed m') (h' : m'.Unfed m'') : m.Unfed m'' := by
  intro i id d'' hd''
  obtain ⟨d', hd', hfields'⟩ := h' i id d'' hd''
  obtain ⟨d, hd, hfields⟩ := h i id d' hd'
  exact ⟨d, hd, fun field hfield => (hfields' field hfield).trans (hfields field hfield)⟩

end Memory

/-- Whether a request feeds nothing to the indices: it reads, removes documents or writes display
names. -/
def EngineCall.Spares : EngineCall → Prop
  | .createIndex .. | .indexDocuments _ | .updateDocument .. => False
  | .updateDocuments _ field _ _ => field = "display_name"
  | _ => True

namespace Memory

variable {m m' : Memory}

/-- Removals, reads and display names feed nothing. -/
theorem unfed_answer {c : EngineCall} (h : c.Spares) : m.Unfed (m.answer c).2 := by
  intro i id d' hd'
  cases c with
  | createIndex => exact h.elim
  | indexDocuments => exact h.elim
  | updateDocument => exact h.elim
  | updateDocuments j field value query =>
    simp only [answer, document?_updateDocuments] at hd'
    split at hd'
    · next hi =>
      obtain ⟨d, hd, rfl⟩ := Option.map_eq_some_iff.1 hd'
      refine ⟨d, hi ▸ hd, fun other hother => ?_⟩
      split
      · -- The query writes the display name and no other field.
        have hfield : other ≠ field := fun heq => hother (heq.trans h)
        rw [KeyMap.get?_insert, if_neg hfield]
      · rfl
    · exact Unfed.refl m i id d' hd'
  | deleteDocument j k =>
    simp only [answer, document?_deleteDocument] at hd'
    split at hd'
    · -- The document that was removed is not there.
      cases hd'
    · exact Unfed.refl m i id d' hd'
  | deleteDocuments j query =>
    simp only [answer, document?_deleteDocuments] at hd'
    split at hd'
    · next hi => exact Unfed.refl m i id d' (hi ▸ Option.eq_some_of_filter_eq_some hd')
    · exact Unfed.refl m i id d' hd'
  | _ => exact Unfed.refl m i id d' hd'

/-- Exchanges feed nothing if none of their requests does. -/
theorem Steps.unfed {es : List Exchange} (h : m.Steps es m')
    (hspares : ∀ c ∈ engineCalls es, c.Spares) : m.Unfed m' :=
  h.related Unfed.refl (fun _ _ _ => Unfed.trans) fun c hc _ => unfed_answer (hspares c hc)

end Memory

/-! ## One event -/

namespace Sync

variable {s : SyncSettings} {m m' : Memory}

/-- A change that is no edit feeds nothing to the indices if its room is encrypted. -/
theorem Handling.spares {c : Change} {es : List Exchange} {ls : List LogRecord}
    {r : Except CallError SyncOutcome} (h : Handling s c es ls r)
    (hencrypted : ∀ room, (⟨.read (.roomDetail c.roomId), .ok room⟩ : Exchange) ∈ es →
      RoomDetail.isClear room = false)
    (hedit : ∀ roomId target body, c ≠ .messageEdited roomId target body) :
    ∀ call ∈ engineCalls es, call.Spares := by
  cases h with
  | named roomId name room answer hclear | unnamed roomId room answer hclear
  | written roomId eventId sender body displayName indexed room answer hclear =>
    -- These are carried out in clear rooms only.
    have hnot := hencrypted room (by simp [Change.roomId])
    rw [hclear] at hnot
    exact nomatch hnot
  -- An edit is left out by assumption; whatever else goes on without a room detail spares.
  | edited roomId target body answer => exact absurd rfl (hedit roomId target body)
  | displayNameKept roomId userId displayName err => exact List.forall_mem_singleton.2 rfl
  | displayNameWritten roomId userId displayName outcome => exact List.forall_mem_singleton.2 rfl
  | _ => simp [engineCalls, removalCall, EngineCall.Spares]

/-- An edit that fails changes nothing. -/
private theorem eq_of_failed_edit {target body : String} {err : EngineError}
    (h : m.Step ⟨.engine (editCall s target body), .error err⟩ m') : m' = m := by
  obtain rfl | hanswer := h.of_error
  · rfl
  · simp only [editCall, Memory.answer] at hanswer
    -- The reference engine fails at an edit only if the target is missing, and does nothing then.
    cases hd : m.document? s.indices.messages target with
    | none =>
      rw [Memory.updateDocument_of_none _ hd] at hanswer
      exact (congrArg Prod.snd hanswer).symm
    | some d =>
      rw [Memory.updateDocument_of_some _ hd] at hanswer
      cases congrArg Prod.fst hanswer

/-- An edit that is carried out feeds its body to the indices unless that was the content
before. -/
private theorem unfed_edit_iff {target body : String}
    (h : m.Step ⟨.engine (editCall s target body), .ok ()⟩ m') :
    m.Unfed m' ↔ ∀ d, m.document? s.indices.messages target = some d →
      d.get? "content" = some (.string body) := by
  have hm' : m' = (m.updateDocument s.indices.messages target
      (KeyMap.empty.insert "content" (.string body))).2 := (congrArg Prod.snd h.of_ok).symm
  constructor
  · intro hunfed d hd
    have hd' : m'.document? s.indices.messages target =
        some (d.insert "content" (.string body)) := by
      rw [hm', Memory.document?_updateDocument, if_pos ⟨rfl, rfl⟩, hd, Option.map_some,
        KeyMap.merge_insert_empty]
    -- The edited document may differ from the one before only in the display name.
    obtain ⟨d₀, hd₀, hfields⟩ := hunfed _ _ _ hd'
    rw [hd] at hd₀
    cases hd₀
    have hcontent := hfields "content" (by decide)
    rw [KeyMap.get?_insert, if_pos rfl] at hcontent
    exact hcontent.symm
  · -- If the text is the same as before, the document is too.
    intro hsame i id d' hd'
    rw [hm', Memory.document?_updateDocument] at hd'
    split at hd'
    · next hi =>
      obtain ⟨rfl, rfl⟩ := hi
      obtain ⟨d, hd, rfl⟩ := Option.map_eq_some_iff.1 hd'
      refine ⟨d, hd, fun field _ => ?_⟩
      rw [KeyMap.merge_insert_empty, KeyMap.get?_insert]
      split
      · next hfield => rw [hfield, hsame d hd]
      · rfl
    · exact Memory.Unfed.refl m i id d' hd'

/-- An event of a room that the read model reports as encrypted feeds nothing to the indices,
unless it is an edit, the engine carries it out and the document that it names had another
content. -/
theorem encrypted_event_unfed_iff {event : RoomEvent} {es : List Exchange} {ls : List LogRecord}
    (hencrypted : ∀ room, (⟨.read (.roomDetail event.roomId), .ok room⟩ : Exchange) ∈ es →
      RoomDetail.isClear room = false)
    (hhandled : (handle s event).Ends es ls ()) (hsteps : m.Steps es m') :
    m.Unfed m' ↔ ∀ target body d,
      event.change? = .ok (some (.messageEdited event.roomId target body)) →
      (⟨.engine (editCall s target body), .ok ()⟩ : Exchange) ∈ es →
      m.document? s.indices.messages target = some d →
      d.get? "content" = some (.string body) := by
  obtain ⟨rfl, hnone⟩ | ⟨c, r, ls', hc, hhandling, -⟩ := handling_of_ends_handle hhandled
  · -- No change, no request.
    rw [Memory.steps_nil] at hsteps
    subst hsteps
    exact iff_of_true (.refl _) fun target body d hedit => absurd hedit (hnone _)
  · have hroom := RoomEvent.roomId_of_change? hc
    by_cases hedit : ∃ roomId target body, c = .messageEdited roomId target body
    · obtain ⟨roomId, target, body, rfl⟩ := hedit
      cases hhandling with
      | edited roomId target body answer =>
        rw [Memory.steps_cons] at hsteps
        obtain ⟨m₁, hstep, hsteps⟩ := hsteps
        rw [Memory.steps_nil] at hsteps
        subst hsteps
        cases answer with
        | error err =>
          -- An edit that failed has done nothing, and is not among those of the right side.
          rw [eq_of_failed_edit hstep]
          refine iff_of_true (.refl m) fun target' body' d hedit hmem => ?_
          rw [hc] at hedit
          cases hedit
          exact nomatch eq_of_heq (Sigma.mk.inj (List.mem_singleton.1 hmem)).2
        | ok value =>
          rw [unfed_edit_iff hstep]
          constructor
          · intro hsame target' body' d hedit _ hd
            rw [hc] at hedit
            cases hedit
            -- An event asks for one edit, so target and text are those of the step.
            exact hsame d hd
          · intro hsame d hd
            cases hroom
            exact hsame target body d hc List.mem_cons_self hd
    · -- Nothing else that is carried out in an encrypted room feeds the indices.
      have hspares := hhandling.spares (hroom ▸ hencrypted)
        fun roomId target body heq => hedit ⟨roomId, target, body, heq⟩
      refine iff_of_true (hsteps.unfed hspares) fun target body d hchange => ?_
      rw [hc] at hchange
      cases hchange
      exact absurd ⟨_, _, _, rfl⟩ hedit

end Sync

/-- An encrypted room beside a clear one with an indexed message. -/
def World.clearBesideEncrypted : World :=
  let message : MessageDocument := ⟨"$1", "!s", "see you at six", "@ann", none⟩
  { World.empty with
    tables := { Tables.empty with
      rooms :=
        [{ (default : RoomDetail) with roomId := "!r", encryption := some "m.megolm.v1.aes-sha2" },
         { (default : RoomDetail) with roomId := "!s", name := some "plans" }] }
    memory :=
      Memory.empty.setDocuments "messages" (KeyMap.empty.insert "$1" message.toDocument) }

/-- An edit in the encrypted room, in plain text, that names the message of the other one. -/
def RoomEvent.strayEdit : RoomEvent :=
  { (default : RoomEvent) with
    type := "m.room.message", roomId := "!r", sender := "@bob", eventId := some "$2"
    content := .ofMembers
      [("m.new_content", .ofMembers [("body", .string "keep this between us")]),
       ("m.relates_to",
        .ofMembers [("rel_type", .string "m.replace"), ("event_id", .string "$1")])] }

/-- The theorem at an edit in plain text: it reaches a document with another content, so it does
feed the index. -/
theorem not_unfed_strayEdit :
    ¬ World.clearBesideEncrypted.memory.Unfed
      ((Sync.handle .plain .strayEdit).run World.handler .clearBesideEncrypted).state.memory := by
  have hhandled :=
    Course.ends_exchanges_unit World.handler (Sync.handle .plain .strayEdit) .clearBesideEncrypted
  have hreports := World.reportsEncrypted_exchanges (Sync.handle .plain .strayEdit)
    World.clearBesideEncrypted (R := RoomEvent.strayEdit.roomId) (by decide)
  rw [Sync.encrypted_event_unfed_iff hreports.detail hhandled (World.steps_exchanges _ _)]
  intro hsame
  have hcontent := hsame "$1" "keep this between us" _ rfl List.mem_cons_self rfl
  exact absurd hcontent (by decide)

/-- What is said in an encrypted room becomes the content of a document all the same. -/
theorem edit_of_encrypted_room_feeds_index :
    let w := World.clearBesideEncrypted
    let w' := ((Sync.handle .plain .strayEdit).run World.handler w).state
    (∃ room, w.tables.roomDetail RoomEvent.strayEdit.roomId = .ok room ∧ room.isClear = false) ∧
      (w.memory.document? "messages" "$1").bind (·.get? "content") =
        some (.string "see you at six") ∧
      (w'.memory.document? "messages" "$1").bind (·.get? "content") =
        some (.string "keep this between us") :=
  ⟨⟨_, rfl, rfl⟩, by decide, by decide⟩

end ChatIndex
