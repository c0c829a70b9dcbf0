import ChatIndex.Proofs.Faultless
import ChatIndex.Proofs.Visibility

/-!
# Hits that a user may not see

Two replies of the engine that hold the same hits for a user should give the user the same
answer.  They do as long as either both or neither of them are made of documents of their indices:
every room and message hit is read as a document before the hits are filtered, so one that the
user may not see fails the whole search if it is none, and the failure tells what is wrong with it.
Mails are filtered first, and a foreign one is never looked into.

* `Json.fault?_eq_none_iff`     when nothing is wrong with a document
* `visible_eq_error_iff`        why the hits of a reply cannot be read
* `Reply.exists_settled`        the visible hits settle the answer but for what is wrong with one
* `foreign_hits_unnoticed_iff`  when two replies with the same visible hits give the same answer
-/

namespace ChatIndex

/-! ## What is wrong with a document -/

namespace Json

/-- Whether a field of a record of texts may be as it is: there at all, a text, or missing. -/
def FieldFits : Presence → Option Json → Prop
  | .required, value => ∃ s, value = some (.string s)
  | .nullable, value => ∃ s, value.getD .null = ofOption s
  | .defaulted, value => ∃ s, value.getD (.string "") = .string s

/-- A field fits if it is there where it is required and nothing is wrong with what it holds. -/
theorem fieldFits_iff {presence : Presence} {value : Option Json} :
    FieldFits presence value ↔
      (presence = .required → value.isSome) ∧
        ∀ v, value = some v → textFault? presence v = none := by
  cases value with
  | none =>
    cases presence with
    | required => simp [FieldFits]
    | nullable => exact iff_of_true ⟨none, rfl⟩ (by simp)
    | defaulted => simp [FieldFits]
  | some v =>
    cases presence with
    | required => cases v <;> simp [FieldFits, textFault?]
    | nullable =>
      -- `null` is the only value without a text that fits.
      cases v with
      | null => exact iff_of_true ⟨none, rfl⟩ (by simp [textFault?])
      | string s => exact iff_of_true ⟨some s, rfl⟩ (by simp [textFault?])
      | _ =>
        refine iff_of_false ?_ (by simp [textFault?])
        rintro ⟨_ | _, h⟩ <;> cases h
    | defaulted => cases v <;> simp [FieldFits, textFault?]

/-- Nothing is wrong with a document just if every field of the record fits. -/
theorem fault?_eq_none_iff {fields : FieldList} {d : Document}
    (hfind : ∀ f ∈ fields, (fields.find? fun g => g.1 = f.1) = some f) :
    fault? fields d = none ↔ ∀ f ∈ fields, FieldFits f.2.1 (d.get? f.1) := by
  -- A member is looked at under the field of its name, and each field has at most one member.
  have hwrong : (∀ member ∈ d.entries, ((fields.find? fun f => f.1 = member.1).bind
        fun f => textFault? f.2.1 member.2) = none) ↔
      ∀ f ∈ fields, ∀ value, d.get? f.1 = some value → textFault? f.2.1 value = none := by
    constructor
    · intro h f hf value hvalue
      have hnone := h (f.1, value) ((d.mem_entries_iff _ _).2 hvalue)
      rwa [hfind f hf, Option.bind_some] at hnone
    · intro h member hmember
      rw [Option.bind_eq_none_iff]
      intro f hf
      -- The field that is found for a member is the one of its name.
      have hname : f.1 = member.1 := by simpa using List.find?_some hf
      exact h f (List.mem_of_find?_eq_some hf) member.2
        (hname ▸ (d.mem_entries_iff _ _).1 hmember)
  have hmissing : (∀ f ∈ fields, ¬ (decide (f.2.1 = .required) && !d.contains f.1) = true) ↔
      ∀ f ∈ fields, f.2.1 = .required → d.contains f.1 = true := by
    simp
  rw [fault?, Option.or_eq_none_iff, List.findSome?_eq_none_iff, Option.map_eq_none_iff,
    List.find?_eq_none, hwrong, hmissing, and_comm, ← forall₂_and]
  exact forall₂_congr fun f _ => fieldFits_iff.symm

end Json

/-- Nothing is wrong with a document just if it denotes a room. -/
theorem RoomDocument.fault?_eq_none_iff {d : Document} :
    fault? d = none ↔ ∃ room, ofJson? (Json.ofDocument d) = some room := by
  rw [fault?, Json.fault?_eq_none_iff (by simp [fields])]
  simp only [ofJson?_eq_some_iff, fields, List.forall_mem_cons, List.not_mem_nil, Json.FieldFits]
  constructor
  · rintro ⟨⟨id, hid⟩, ⟨name, hname⟩, -⟩
    exact ⟨⟨id, name⟩, hid, hname⟩
  · rintro ⟨room, hid, hname⟩
    exact ⟨⟨room.id, hid⟩, ⟨room.name, hname⟩, by simp⟩

example : RoomDocument.fault? (.ofList [("name", .ofNat 7)]) =
    some "invalid type: integer `7`, expected a string" := by decide +kernel

/-- Nothing is wrong with a document just if it denotes a message. -/
theorem MessageDocument.fault?_eq_none_iff {d : Document} :
    fault? d = none ↔ ∃ message, ofJson? (Json.ofDocument d) = some message := by
  rw [fault?, Json.fault?_eq_none_iff (by simp [fields])]
  simp only [ofJson?_eq_some_iff, fields, List.forall_mem_cons, List.not_mem_nil, Json.FieldFits]
  constructor
  · rintro ⟨⟨id, hid⟩, ⟨roomId, hroom⟩, ⟨content, hcontent⟩, ⟨sender, hsender⟩,
      ⟨displayName, hdisplay⟩, -⟩
    exact ⟨⟨id, roomId, content, sender, displayName⟩, hid, hroom, hcontent, hsender, hdisplay⟩
  · rintro ⟨message, hid, hroom, hcontent, hsender, hdisplay⟩
    exact ⟨⟨_, hid⟩, ⟨_, hroom⟩, ⟨_, hcontent⟩, ⟨_, hsender⟩, ⟨_, hdisplay⟩, by simp⟩

/-- An error without the words that say what is wrong with a document. -/
def QueryError.unworded : QueryError → QueryError
  | .call (.engine (.serialization _)) => .call (.engine (.serialization ""))
  | e => e

namespace Search

open Attempt

/-! ## Replies of the engine -/

/-- What the engine answers a search with: hits in the rooms, in the messages and in the mails. -/
structure Reply where
  rooms : List SearchHit
  messages : List SearchHit
  mails : List SearchHit
deriving DecidableEq

namespace Reply

/-- The three lists as the engine hands them over. -/
def lists (reply : Reply) : List (List SearchHit) :=
  [reply.rooms, reply.messages, reply.mails]

/-- The hits that a user may see. -/
def visibleTo (reply : Reply) (userRooms : List String) (email : Option String) : Reply where
  rooms := reply.rooms.filter fun hit => hit.id ∈ userRooms
  messages := reply.messages.filter fun hit =>
    ∃ roomId ∈ userRooms, hit.source.get? "room_id" = some (.string roomId)
  mails := reply.mails.filter fun hit => ∃ address ∈ email, Names hit.source address

/-- Whether every room and message hit is a document of its index, also those that the user may
not see. -/
structure Decodes (reply : Reply) : Prop where
  rooms : ∀ hit ∈ reply.rooms, ∃ room, HoldsRoom hit room
  messages : ∀ hit ∈ reply.messages, ∃ message, HoldsMessage hit message

/-- What is wrong with a reply: with its first room hit that is no document of a room, or else with
its first message hit that is no document of a message. -/
def fault? (reply : Reply) : Option String :=
  (reply.rooms.findSome? fun hit => RoomDocument.fault? hit.source).or
    (reply.messages.findSome? fun hit => MessageDocument.fault? hit.source)

/-- Every search is answered with the reply, and every question as given. -/
def handler (reply : Reply) (reads : Answers) : Handler Call Call.Answer Unit
  | .engine (.search _ _), s => (.ok reply.lists, s)
  | .engine c, s => ((Memory.empty.answer c).1, s)
  | .read c, s => (reads c, s)

/-- What an attempt comes to. -/
def outcome {ε α : Type} (reply : Reply) (reads : Answers) (x : Attempt ε α) : Except ε α :=
  (x.run.run (reply.handler reads) ()).value

section Outcome

variable {ε α β : Type} {reply : Reply} {reads : Answers}

@[simp] theorem outcome_read (c : ReadCall) :
    reply.outcome reads (read c) = (reads c).mapError .store := rfl

/-- An attempt after an attempt goes on with what the first one came to. -/
theorem outcome_bind (x : Attempt ε α) (f : α → Attempt ε β) :
    reply.outcome reads (x >>= f) =
      reply.outcome reads x >>= fun a => reply.outcome reads (f a) := by
  unfold outcome
  rw [ExceptT.run_bind, Course.run_bind]
  dsimp only
  cases (x.run.run (reply.handler reads) ()).value <;> rfl

/-- A search has the hits of the reply. -/
theorem outcome_search_bind {pattern : String} {targets : List IndexFields}
    {f : List (List SearchHit) → Attempt CallError β} :
    reply.outcome reads (engine (.search pattern targets) >>= f) =
      reply.outcome reads (f reply.lists) :=
  outcome_bind (engine (.search pattern targets)) f

theorem outcome_read_bind {c : ReadCall} {f : c.Value → Attempt CallError β} {value : c.Value}
    (h : reads c = .ok value) :
    reply.outcome reads (read c >>= f) = reply.outcome reads (f value) := by
  rw [outcome_bind, outcome_read, h]
  rfl

end Outcome

end Reply

/-! ## What may be seen of a reply -/

variable {reply reply' : Reply} {reads : Answers} {userRooms : List String}
  {email : Option String}

/-- Hits can be read if they are documents of their indices. -/
theorem exists_visible_iff_decodes :
    (∃ found, visible reply.lists userRooms email = .ok found) ↔ reply.Decodes :=
  exists_visible_iff.trans ⟨fun h => ⟨h.1, h.2⟩, fun h => ⟨h.rooms, h.messages⟩⟩

/-- A hit cannot be read just if something is wrong with its source. -/
theorem map_readHit_eq_error_iff {α β : Type} {ofJson? : Json → Option α}
    {fault? : Document → Option String} {hit : SearchHit} {f : α → β} {e : EngineError}
    (h : fault? hit.source = none ↔ ∃ a, ofJson? (Json.ofDocument hit.source) = some a) :
    (readHit ofJson? fault? hit).map f = .error e ↔
      (fault? hit.source).map .serialization = some e := by
  rw [readHit]
  cases hread : ofJson? (Json.ofDocument hit.source) with
  | some a =>
    rw [h.2 ⟨a, hread⟩]
    simp [Except.map]
  | none =>
    cases hfault : fault? hit.source with
    | none =>
      obtain ⟨a, ha⟩ := h.1 hfault
      -- It could not be read, yet nothing would be wrong with it.
      rw [hread] at ha
      cases ha
    | some reason => simp [Except.map]

/-- A list is read up to the first element that cannot be read. -/
theorem mapM_eq_error_iff {α β ε : Type} {f : α → Except ε β} {error? : α → Option ε}
    (hf : ∀ x e, f x = .error e ↔ error? x = some e) {xs : List α} {e : ε} :
    xs.mapM f = .error e ↔ xs.findSome? error? = some e := by
  induction xs with
  | nil => simp [pure, Except.pure]
  | cons x xs ih =>
    rw [List.mapM_cons, List.findSome?_cons]
    cases hx : f x with
    -- The first element is the one that cannot be read.
    | error e' =>
      rw [(hf x e').1 hx]
      simp [bind, Except.bind]
    | ok y =>
      -- The first element is read, so nothing is wrong with it.
      have hnone : error? x = none := by
        rw [Option.eq_none_iff_forall_ne_some]
        intro e' he'
        rw [← hf, hx] at he'
        cases he'
      rw [hnone]
      simp only [← ih]
      -- What comes of the rest is what comes of the list.
      cases xs.mapM f <;> simp [bind, Except.bind, pure, Except.pure]

/-- The hits of a reply cannot be read just if something is wrong with it, and the failure says
what. -/
theorem visible_eq_error_iff {e : EngineError} :
    visible reply.lists userRooms email = .error e ↔
      reply.fault?.map .serialization = some e := by
  have hrooms (e : EngineError) : reply.rooms.mapM roomOfHit = .error e ↔ _ :=
    mapM_eq_error_iff fun _ _ => map_readHit_eq_error_iff RoomDocument.fault?_eq_none_iff
  have hmessages (e : EngineError) : reply.messages.mapM messageOfHit = .error e ↔ _ :=
    mapM_eq_error_iff fun _ _ => map_readHit_eq_error_iff MessageDocument.fault?_eq_none_iff
  simp only [Reply.fault?, Option.map_or, List.map_findSome?, Function.comp_def,
    Option.or_eq_some_iff, ← hrooms, ← hmessages, ← Option.not_isSome_iff_eq_none,
    Option.isSome_iff_exists]
  -- The rooms are read first, then the messages; mails are not read as documents at all.
  show (reply.rooms.mapM roomOfHit >>= fun rooms =>
    reply.messages.mapM messageOfHit >>= fun messages => pure _) = _ ↔ _
  cases reply.rooms.mapM roomOfHit with
  | error failure => simp [bind, Except.bind]
  | ok rooms =>
    cases reply.messages.mapM messageOfHit with
    | error failure => simp [bind, Except.bind]
    | ok messages => simp [bind, Except.bind, pure, Except.pure]

/-- So nothing is wrong with a reply just if all its room and message hits are documents. -/
theorem Reply.fault?_eq_none_iff : reply.fault? = none ↔ reply.Decodes := by
  rw [← @exists_visible_iff_decodes reply [] none]
  cases hvisible : visible reply.lists [] none with
  | ok found =>
    refine iff_of_true ?_ ⟨found, rfl⟩
    rw [← Option.not_isSome_iff_eq_none, Option.isSome_iff_exists]
    rintro ⟨reason, hreason⟩
    have herror := (@visible_eq_error_iff reply [] none _).2 (by rw [hreason]; rfl)
    rw [hvisible] at herror
    cases herror
  | error e =>
    refine iff_of_false (fun hnone => ?_) (by simp)
    rw [visible_eq_error_iff, hnone] at hvisible
    cases hvisible

/-- What is found in a reply is settled by the hits that may be seen. -/
theorem found_iff {found : Visible} :
    Found userRooms email reply.rooms reply.messages reply.mails found ↔
      List.Forall₂ HoldsRoom (reply.visibleTo userRooms email).rooms found.rooms ∧
        List.Forall₂ HoldsMessage (reply.visibleTo userRooms email).messages found.messages ∧
        List.Forall₂ HoldsMail (reply.visibleTo userRooms email).mails found.mails :=
  ⟨fun h => ⟨h.rooms, h.messages, h.mails⟩, fun h => ⟨h.1, h.2.1, h.2.2⟩⟩

/-- So it is the same in two replies that are both made of documents. -/
theorem visible_congr (hsame : reply.visibleTo userRooms email = reply'.visibleTo userRooms email)
    (hdecodes : reply.Decodes) (hdecodes' : reply'.Decodes) :
    visible reply.lists userRooms email = visible reply'.lists userRooms email := by
  obtain ⟨found, h⟩ := exists_visible_iff_decodes.2 hdecodes
  obtain ⟨found', h'⟩ := exists_visible_iff_decodes.2 hdecodes'
  -- Both are found among the same hits, and that settles them.
  have hfound := found_of_visible h
  rw [found_iff, hsame, ← found_iff] at hfound
  rw [h, h', hfound.unique (found_of_visible h')]

/-! ## What comes after the hits -/

/-- An attempt that asks the read model only: what the engine would reply does not matter, and no
failure of the engine comes out of it. -/
structure ReadsOnly {α : Type} (reads : Answers) (x : Attempt CallError α) : Prop where
  same : ∀ reply reply' : Reply, reply.outcome reads x = reply'.outcome reads x
  store : ∀ (reply : Reply) (e : EngineError), reply.outcome reads x ≠ .error (.engine e)

namespace ReadsOnly

variable {α β : Type} {x : Attempt CallError α} {f : α → Attempt CallError β}

theorem pure (a : α) : ReadsOnly reads (Pure.pure a : Attempt CallError α) where
  same reply reply' := rfl
  store reply e h := by cases h

/-- A question asks the read model. -/
theorem read (c : ReadCall) : ReadsOnly reads (read c) where
  same reply reply' := rfl
  store reply e h := by
    rw [Reply.outcome_read] at h
    cases hread : reads c with
    | error failure => rw [hread] at h; cases h
    | ok value => rw [hread] at h; cases h

/-- Two attempts that ask the read model only do so one after the other. -/
theorem bind (hx : ReadsOnly reads x) (hf : ∀ a, ReadsOnly reads (f a)) :
    ReadsOnly reads (x >>= f) where
  same reply reply' := by
    rw [Reply.outcome_bind, Reply.outcome_bind, hx.same reply reply']
    cases reply'.outcome reads x with
    | error e => rfl
    | ok a => exact (hf a).same reply reply'
  store reply e h := by
    rw [Reply.outcome_bind] at h
    cases hfirst : reply.outcome reads x with
    | error failure =>
      rw [hfirst] at h
      cases h
      -- The first attempt is not one that fails in the engine.
      exact hx.store reply e hfirst
    | ok a =>
      rw [hfirst] at h
      exact (hf a).store reply e h

end ReadsOnly

/-- What was found is completed without the engine. -/
theorem readsOnly_completion (listing : Listing) (userId : String)
    (found : Visible) : ReadsOnly reads (completion listing userRooms userId found) :=
  completion_induction ReadsOnly.pure ReadsOnly.read ReadsOnly.bind listing userRooms userId found

/-! ## A whole search -/

variable {listing : Listing} {names : IndexNames} {pattern text userId : String}

namespace Reply

/-- Nothing is made of the hits if the rooms of the user are not known. -/
theorem outcome_results_of_unread {e : StoreError} (h : reads (.roomsOfUser userId) = .error e) :
    reply.outcome reads (results listing names pattern userId email) = .error (.store e) := by
  rw [results, outcome_search_bind, outcome_bind, outcome_read, h]
  rfl

/-- One hit that cannot be read fails the search. -/
theorem outcome_results_of_error {e : EngineError} (h : reads (.roomsOfUser userId) = .ok userRooms)
    (hvisible : visible reply.lists userRooms email = .error e) :
    reply.outcome reads (results listing names pattern userId email) = .error (.engine e) := by
  rw [results, outcome_search_bind, outcome_read_bind h, hvisible]
  rfl

/-- What was found is completed from the read model. -/
theorem outcome_results_of_ok {found : Visible} (h : reads (.roomsOfUser userId) = .ok userRooms)
    (hvisible : visible reply.lists userRooms email = .ok found) :
    reply.outcome reads (results listing names pattern userId email) =
      reply.outcome reads (completion listing userRooms userId found) := by
  rw [results, outcome_search_bind, outcome_read_bind h, hvisible]
  rfl

/-- A text that may be searched for is searched for by its pattern. -/
theorem outcome_runWith_of_ok (h : Search.pattern text = .ok pattern) :
    reply.outcome reads (runWith listing names text userId email) =
      (reply.outcome reads (results listing names pattern userId email)).mapError .call := by
  have hrun : (runWith listing names text userId email).run =
      Except.mapError QueryError.call <$> (results listing names pattern userId email).run := by
    rw [runWith, h]
    rfl
  rw [outcome, hrun, map_eq_pure_bind, Course.run_bind]
  rfl

/-- A reply with which something is wrong fails the search, and the failure says what. -/
theorem outcome_runWith_of_fault {reason : String} (hpattern : Search.pattern text = .ok pattern)
    (hrooms : reads (.roomsOfUser userId) = .ok userRooms) (h : reply.fault? = some reason) :
    reply.outcome reads (runWith listing names text userId email) =
      .error (.call (.engine (.serialization reason))) := by
  have hvisible := (@visible_eq_error_iff reply userRooms email _).2 (by rw [h]; rfl)
  rw [outcome_runWith_of_ok hpattern, outcome_results_of_error hrooms hvisible]
  rfl

/-- A reply that is made of documents is completed from the read model. -/
theorem exists_outcome_runWith (hpattern : Search.pattern text = .ok pattern)
    (hrooms : reads (.roomsOfUser userId) = .ok userRooms) (h : reply.fault? = none) :
    ∃ found, visible reply.lists userRooms email = .ok found ∧
      reply.outcome reads (runWith listing names text userId email) =
        (reply.outcome reads (completion listing userRooms userId found)).mapError .call := by
  obtain ⟨found, hfound⟩ := exists_visible_iff_decodes.2 (fault?_eq_none_iff.1 h)
  refine ⟨found, hfound, ?_⟩
  rw [outcome_runWith_of_ok hpattern, outcome_results_of_ok hrooms hfound]

/-- The answer to a search, given what is wrong with the reply and what its visible hits are
completed to. -/
def settled (completed : Except QueryError Results) : Option String → Except QueryError Results
  | none => completed
  | some reason => .error (.call (.engine (.serialization reason)))

/-- What is found is completed without a failure of the engine. -/
theorem outcome_completion_ne (found : Visible) (e : EngineError) :
    (reply.outcome reads (completion listing userRooms userId found)).mapError QueryError.call ≠
      .error (.call (.engine e)) := by
  intro h
  cases houtcome : reply.outcome reads (completion listing userRooms userId found) with
  | ok a =>
    rw [houtcome] at h
    cases h
  | error failure =>
    rw [houtcome] at h
    cases h
    exact (readsOnly_completion listing userId found).store reply e houtcome

/-- The hits that a user may see settle the answer but for what is wrong with the reply, and what
they are completed to is no failure of the engine. -/
theorem exists_settled (hpattern : Search.pattern text = .ok pattern)
    (hrooms : reads (.roomsOfUser userId) = .ok userRooms)
    (hsame : reply.visibleTo userRooms email = reply'.visibleTo userRooms email) :
    ∃ completed : Except QueryError Results, (∀ e, completed ≠ .error (.call (.engine e))) ∧
      reply.outcome reads (runWith listing names text userId email) =
        settled completed reply.fault? ∧
      reply'.outcome reads (runWith listing names text userId email) =
        settled completed reply'.fault? := by
  cases hfault : reply.fault? with
  | none =>
    obtain ⟨found, hfound, houtcome⟩ := exists_outcome_runWith hpattern hrooms hfault
    refine ⟨_, outcome_completion_ne found, houtcome, ?_⟩
    cases hfault' : reply'.fault? with
    | none =>
      -- The same is found in both, and completed without asking the engine again.
      obtain ⟨found', hfound', houtcome'⟩ := exists_outcome_runWith hpattern hrooms hfault'
      rw [visible_congr hsame (fault?_eq_none_iff.1 hfault) (fault?_eq_none_iff.1 hfault'),
        hfound'] at hfound
      cases hfound
      rw [houtcome', (readsOnly_completion listing userId found).same reply' reply]
      rfl
    | some reason' => exact outcome_runWith_of_fault hpattern hrooms hfault'
  | some reason =>
    cases hfault' : reply'.fault? with
    | none =>
      obtain ⟨found', -, houtcome'⟩ := exists_outcome_runWith hpattern hrooms hfault'
      exact ⟨_, outcome_completion_ne found', outcome_runWith_of_fault hpattern hrooms hfault,
        houtcome'⟩
    | some reason' =>
      -- Nothing is completed, so any results will do.
      exact ⟨.ok default, by simp, outcome_runWith_of_fault hpattern hrooms hfault,
        outcome_runWith_of_fault hpattern hrooms hfault'⟩

/-- What is wrong with a reply can be told from the answer. -/
theorem settled_eq_iff {completed : Except QueryError Results}
    (h : ∀ e, completed ≠ .error (.call (.engine e))) {fault fault' : Option String} :
    settled completed fault = settled completed fault' ↔ fault = fault' := by
  cases fault <;> cases fault' <;> simp [settled, h, (h _).symm]

/-- Without the words it can only be told whether anything is. -/
theorem unworded_settled_eq_iff {completed : Except QueryError Results}
    (h : ∀ e, completed ≠ .error (.call (.engine e))) {fault fault' : Option String} :
    (settled completed fault).mapError QueryError.unworded =
        (settled completed fault').mapError QueryError.unworded ↔
      (fault = none ↔ fault' = none) := by
  have hsome (reason : String) : (settled completed (some reason)).mapError QueryError.unworded =
      .error (.call (.engine (.serialization ""))) := rfl
  have hnone (e : EngineError) : (settled completed none).mapError QueryError.unworded ≠
      .error (.call (.engine e)) := by
    rw [settled]
    intro herror
    cases completed with
    | ok results => cases herror
    | error failure =>
      -- Leaving out words makes no failure of the engine out of another one.
      have hunworded : failure.unworded = .call (.engine e) := Except.error.inj herror
      unfold QueryError.unworded at hunworded
      split at hunworded
      · exact h _ rfl
      · exact h e (by rw [hunworded])
  cases fault <;> cases fault' <;> simp [hsome, hnone, (hnone _).symm]

end Reply

/-- A search gets as far as the hits that the engine answered with. -/
structure ReachesHits (reads : Answers) (text userId : String) : Prop where
  pattern : ∃ pattern, Search.pattern text = .ok pattern
  rooms : ∃ userRooms, reads (.roomsOfUser userId) = .ok userRooms

/-- A search that does not get as far as the hits gives the same answer whatever they are. -/
theorem outcome_congr_of_unreached (h : ¬ ReachesHits reads text userId) :
    reply.outcome reads (runWith listing names text userId email) =
      reply'.outcome reads (runWith listing names text userId email) := by
  cases hpattern : Search.pattern text with
  | error e =>
    -- A text that may not be searched for is refused before the engine is asked.
    rw [runWith, hpattern]
    rfl
  | ok pattern =>
    cases hrooms : reads (.roomsOfUser userId) with
    | error e =>
      rw [Reply.outcome_runWith_of_ok hpattern, Reply.outcome_runWith_of_ok hpattern,
        Reply.outcome_results_of_unread hrooms, Reply.outcome_results_of_unread hrooms]
    | ok userRooms => exact absurd ⟨⟨pattern, hpattern⟩, userRooms, hrooms⟩ h

/-- Hits that a user may not see change the answer in one way only.  Two replies of the engine with
the same visible hits, in the same order, give the same answer if and only if the same is wrong with
both, or nothing with either, wherever a search gets as far as the hits; and answers of the same
kind, whatever the words, if and only if either all their room and message hits are documents of
their indices or neither reply's are. -/
theorem foreign_hits_unnoticed_iff
    (hsame : ∀ userRooms, reads (.roomsOfUser userId) = .ok userRooms →
      reply.visibleTo userRooms email = reply'.visibleTo userRooms email) :
    (reply.outcome reads (runWith listing names text userId email) =
        reply'.outcome reads (runWith listing names text userId email) ↔
      (ReachesHits reads text userId → reply.fault? = reply'.fault?)) ∧
    ((reply.outcome reads (runWith listing names text userId email)).mapError
          QueryError.unworded =
        (reply'.outcome reads (runWith listing names text userId email)).mapError
          QueryError.unworded ↔
      (ReachesHits reads text userId → (reply.Decodes ↔ reply'.Decodes))) := by
  by_cases hreached : ReachesHits reads text userId
  · obtain ⟨pattern, hpattern⟩ := hreached.pattern
    obtain ⟨userRooms, hrooms⟩ := hreached.rooms
    -- Both answers are settled by the same hits, and differ in what is wrong.
    obtain ⟨completed, hne, houtcome, houtcome'⟩ :=
      Reply.exists_settled hpattern hrooms (hsame userRooms hrooms)
    rw [houtcome, houtcome', Reply.settled_eq_iff hne, Reply.unworded_settled_eq_iff hne,
      Reply.fault?_eq_none_iff, Reply.fault?_eq_none_iff]
    exact ⟨⟨fun h _ => h, fun h => h hreached⟩, ⟨fun h _ => h, fun h => h hreached⟩⟩
  · rw [outcome_congr_of_unreached hreached]
    exact ⟨iff_of_true rfl fun h => absurd h hreached,
      iff_of_true rfl fun h => absurd h hreached⟩

/-- A hit in the room of somebody else. -/
def foreignRoom (source : Document) : Reply :=
  ⟨[⟨"rooms", "!s", none, source⟩], [], []⟩

/-- A search of a member of another room. -/
def memberSearch : Attempt QueryError Results :=
  runWith .ascending SyncSettings.plain.indices "plans" "@ann" none

/-- The theorem at four hits of a foreign room: two that are documents, and two with different
faults. -/
theorem foreign_hits_unnoticed_iff_foreignRoom :
    let reads := World.strangersAmongHits.tables.answer
    let named := foreignRoom (.ofList [("name", .string "plans of others")])
    let renamed := foreignRoom (.ofList [("name", .string "plans of strangers")])
    let numbered := foreignRoom (.ofList [("name", .ofNat 7)])
    let nameless := foreignRoom .empty
    named.outcome reads memberSearch = renamed.outcome reads memberSearch ∧
      numbered.outcome reads memberSearch ≠ nameless.outcome reads memberSearch ∧
      (numbered.outcome reads memberSearch).mapError QueryError.unworded =
        (nameless.outcome reads memberSearch).mapError QueryError.unworded := by
  intro reads named renamed numbered nameless
  have hforeign (source source' : Document) (userRooms : List String)
      (h : reads (.roomsOfUser "@ann") = .ok userRooms) :
      (foreignRoom source).visibleTo userRooms none =
        (foreignRoom source').visibleTo userRooms none := by
    cases h
    rfl
  -- The text may be searched for, and the rooms of the user are known.
  have hreached : ReachesHits reads "plans" "@ann" := ⟨⟨".*plans.*", by decide +kernel⟩, _, rfl⟩
  have hsame : named.fault? = renamed.fault? := by decide +kernel
  have hdiffer : numbered.fault? ≠ nameless.fault? := by decide +kernel
  have hdecodes : ¬ numbered.Decodes ∧ ¬ nameless.Decodes := by
    rw [← Reply.fault?_eq_none_iff, ← Reply.fault?_eq_none_iff]
    decide +kernel
  refine ⟨(foreign_hits_unnoticed_iff (hforeign _ _)).1.2 fun _ => hsame, fun h => ?_,
    (foreign_hits_unnoticed_iff (hforeign _ _)).2.2 fun _ => iff_of_false hdecodes.1 hdecodes.2⟩
  exact hdiffer ((foreign_hits_unnoticed_iff (hforeign _ _)).1.1 h hreached)

/-- A hit of a foreign room that is no document of a room fails the search, which without it finds
nothing and says so. -/
theorem foreign_hit_fails_search :
    let reads := World.strangersAmongHits.tables.answer
    let strange := foreignRoom .empty
    let nothing : Reply := ⟨[], [], []⟩
    reads (.roomsOfUser "@ann") = .ok ["!r"] ∧
      strange.visibleTo ["!r"] none = nothing.visibleTo ["!r"] none ∧
      strange.outcome reads memberSearch =
        .error (.call (.engine (.serialization "missing field `name`"))) ∧
      nothing.outcome reads memberSearch = .ok ⟨[], [], []⟩ := by
  refine ⟨rfl, ?_, ?_, ?_⟩ <;> decide +kernel

end Search

end ChatIndex
