import ChatIndex.Proofs.Visibility

/-!
# What the read model adds to a search

The rooms and messages that a search finds get avatars and names from up to three answers of the
read model, each of which is put into a table by room.  The rooms that it is asked about come out
of sets, and the rows that it answers with are in no order.  What comes of them is said by the rows
alone: each result carries what the row of its own room says.

* `cases_of_ends_completion`  the questions of a search, and what is made of the answers
* `enriched_context`          a table by room leads each result to the row of its room
* `Enriched.unique`           the rows leave nothing open, whatever order they come in
* `enriched_from_own_rooms`   the results of a search, and whom the read model was asked about
-/

namespace ChatIndex

/-- The rooms that a question is about. -/
def ReadCall.roomIds : ReadCall → List String
  | .roomDetail roomId | .displayName roomId _ => [roomId]
  | .roomDetails roomIds | .directRooms roomIds | .directAvatars roomIds _ => roomIds
  | .clearRoomNames | .isRedacted _ | .clearRoomMessages | .roomsOfUser _ | .userOfToken _
  | .emailOfUser _ => []

/-- A table by key has the value of a row just if there is a row with that key and value, where no
two rows have one key. -/
theorem KeyMap.get?_ofList_map_eq_some_iff {α β : Type} {rows : List α} {key : α → String}
    {value : α → β} (hnodup : (rows.map key).Nodup) {k : String} {v : β} :
    (KeyMap.ofList (rows.map fun a => (key a, value a))).get? k = some v ↔
      ∃ a ∈ rows, key a = k ∧ value a = v := by
  have hkeys : ((rows.map fun a => (key a, value a)).map Prod.fst).Nodup := by
    rw [List.map_map]
    exact hnodup
  rw [get?_ofList_eq_some_iff hkeys]
  simp

namespace Search

open Attempt

/-! ## What is told -/

/-- What the engine and the read model have to say in a search: the lists of hits, the rooms of the
user, the rows of rooms, the direct rooms, and the rows of avatars for these.  No room has two rows
of a kind. -/
structure Facts where
  lists : List (List SearchHit)
  userRooms : List String
  details : List RoomDetail
  directRooms : List String
  directAvatars : List DirectAvatar
  details_nodup : (details.map (·.roomId)).Nodup
  directAvatars_nodup : (directAvatars.map (·.roomId)).Nodup

/-- The answers among these exchanges say just that, with their rows in any order.  Only rooms that
were asked about are direct. -/
structure Facts.Told (facts : Facts) (names : IndexNames) (pattern userId : String)
    (es : List Exchange) : Prop where
  lists : ∀ lists : List (List SearchHit),
    (⟨.engine (.search pattern (targets names)), .ok lists⟩ : Exchange) ∈ es →
    lists = facts.lists
  userRooms : ∀ ids : List String, (⟨.read (.roomsOfUser userId), .ok ids⟩ : Exchange) ∈ es →
    ids.Perm facts.userRooms
  details : ∀ (ids : List String) (rows : List RoomDetail),
    (⟨.read (.roomDetails ids), .ok rows⟩ : Exchange) ∈ es → rows.Perm facts.details
  directRooms : ∀ ids rows : List String,
    (⟨.read (.directRooms ids), .ok rows⟩ : Exchange) ∈ es →
    rows.Perm facts.directRooms ∧ rows ⊆ ids
  directAvatars : ∀ (ids : List String) (rows : List DirectAvatar),
    (⟨.read (.directAvatars ids userId), .ok rows⟩ : Exchange) ∈ es →
    rows.Perm facts.directAvatars

/-- Each result carries what the row of its own room says: a room its avatar; a message in a direct
room the avatar of the row for that room, and no name; any other message the avatar and the name of
its room.  What no row says is missing. -/
structure Enriched (facts : Facts) (r : Results) : Prop where
  rooms : ∀ room ∈ r.rooms, ∀ url, room.avatarUrl = some url ↔
    ∃ detail ∈ facts.details, detail.roomId = room.id ∧ detail.avatar = some url
  direct : ∀ m ∈ r.messages, m.roomId ∈ facts.directRooms → m.roomName = none ∧
    ∀ url, m.avatarUrl = some url ↔
      ∃ row ∈ facts.directAvatars, row.roomId = m.roomId ∧ row.avatarUrl = some url
  others : ∀ m ∈ r.messages, m.roomId ∉ facts.directRooms →
    (∀ name, m.roomName = some name ↔
      ∃ detail ∈ facts.details, detail.roomId = m.roomId ∧ detail.name = some name) ∧
    ∀ url, m.avatarUrl = some url ↔
      ∃ detail ∈ facts.details, detail.roomId = m.roomId ∧ detail.avatar = some url

/-- The lists of rooms that the read model was asked which are direct. -/
def directQuestions (es : List Exchange) : List (List String) :=
  es.filterMap fun e =>
    match e.1 with
    | .read (.directRooms ids) => some ids
    | _ => none

/-- Whom the read model was asked about: only rooms of the user, only on behalf of the user, and,
once each, whether the rooms of the messages are direct. -/
structure Questions (facts : Facts) (userId : String) (r : Results) (es : List Exchange) :
    Prop where
  own : ∀ call answer, (⟨.read call, answer⟩ : Exchange) ∈ es →
    ∀ id ∈ call.roomIds, id ∈ facts.userRooms
  user : ∀ ids user answer, (⟨.read (.directAvatars ids user), answer⟩ : Exchange) ∈ es →
    user = userId
  once : (directQuestions es).flatten.Nodup
  direct : ∀ id, id ∈ (directQuestions es).flatten ↔ ∃ m ∈ r.messages, m.roomId = id

/-! ## The questions of a search -/

variable {listing : Listing} {names : IndexNames} {pattern userId : String}
  {email : Option String} {es : List Exchange} {ls : List LogRecord} {found : Visible}
  {userRooms : List String}

/-- A search gets its hits and the rooms of its user, or fails with the request for them. -/
theorem cases_of_ends_results {r : Except CallError Results}
    (h : (results listing names pattern userId email).run.Ends es ls r) :
    ((∃ e ∈ es, ¬ Exchange.Succeeded e) ∧ ∃ e, r = .error e) ∨
    ∃ lists ids es', es = ⟨.engine (.search pattern (targets names)), .ok lists⟩ ::
        ⟨.read (.roomsOfUser userId), .ok ids⟩ :: es' ∧
      ((∃ e, visible lists ids email = .error e ∧ r = .error (.engine e)) ∨
        ∃ found, visible lists ids email = .ok found ∧
          (completion listing ids userId found).run.Ends es' ls r) := by
  rw [results] at h
  obtain ⟨e, rfl, rfl, rfl⟩ | ⟨lists, es₁, rfl, hread⟩ := ends_engine_bind.1 h
  · exact .inl ⟨⟨_, List.mem_cons_self, Exchange.not_succeeded_error _ e⟩, _, rfl⟩
  -- Whichever of the two requests fails, its failure is that of the search.
  obtain ⟨e, rfl, rfl, rfl⟩ | ⟨ids, es₂, rfl, hvisible⟩ := ends_read_bind.1 hread
  · exact .inl ⟨⟨_, List.mem_cons_of_mem _ List.mem_cons_self,
      Exchange.not_succeeded_error _ e⟩, _, rfl⟩
  right
  refine ⟨lists, ids, es₂, rfl, ?_⟩
  split at hvisible
  · next e he =>
    obtain ⟨-, -, rfl⟩ := ends_throw.1 hvisible
    exact .inl ⟨e, he, rfl⟩
  · next found hfound => exact .inr ⟨found, hfound, hvisible⟩

/-- What is asked about direct rooms, and the answers: nothing about no rooms, and nothing about
avatars where there are no direct rooms. -/
inductive DirectAnswers (ids : List String) (userId : String) :
    List Exchange → List String → List DirectAvatar → Prop
  | noRooms (h : ids = []) : DirectAnswers ids userId [] [] []
  | noDirect (h : ids ≠ []) :
      DirectAnswers ids userId [⟨.read (.directRooms ids), .ok []⟩] [] []
  | direct {direct : List String} {avatars : List DirectAvatar} (h : ids ≠ []) :
      DirectAnswers ids userId
        [⟨.read (.directRooms ids), .ok direct⟩,
         ⟨.read (.directAvatars direct userId), .ok avatars⟩] direct avatars

/-- What is asked about direct rooms and what the answers come to: the list of them, and a table of
their avatars. -/
theorem directAnswers_of_ends_directContext {ids : List String}
    {context : List String × KeyMap (Option String)}
    (h : (directContext ids userId).run.Ends es ls (.ok context)) :
    ∃ direct avatars, DirectAnswers ids userId es direct avatars ∧
      context = (direct, KeyMap.ofList (avatars.map fun a => (a.roomId, a.avatarUrl))) := by
  rw [directContext] at h
  split at h
  · next hids =>
    obtain ⟨rfl, -, hcontext⟩ := ends_pure.1 h
    cases hcontext
    exact ⟨[], [], .noRooms (List.isEmpty_iff.1 hids), rfl⟩
  · next hids =>
    have hids : ids ≠ [] := mt List.isEmpty_iff.2 hids
    obtain ⟨e, -, -, he⟩ | ⟨direct, es₁, rfl, hrest⟩ := ends_read_bind.1 h
    · cases he
    split at hrest
    · next hdirect =>
      obtain ⟨rfl, -, hcontext⟩ := ends_pure.1 hrest
      cases hcontext
      -- No direct rooms, so no avatars are asked for.
      rw [List.isEmpty_iff.1 hdirect]
      exact ⟨[], [], .noDirect hids, rfl⟩
    · obtain ⟨e, -, -, he⟩ | ⟨avatars, es₂, rfl, hlast⟩ := ends_read_bind.1 hrest
      · cases he
      obtain ⟨rfl, -, hcontext⟩ := ends_pure.1 hlast
      cases hcontext
      exact ⟨direct, avatars, .direct hids, rfl⟩

/-- What the answers of the read model come to. -/
def contextOf (details : List RoomDetail) (direct : List String) (avatars : List DirectAvatar) :
    RoomContext :=
  ⟨KeyMap.ofList (details.map fun d => (d.roomId, d)), direct,
    KeyMap.ofList (avatars.map fun a => (a.roomId, a.avatarUrl))⟩

/-- Where only mails may be seen nothing more is asked.  Otherwise the rooms of the user are asked
about, and the rooms of the messages. -/
theorem cases_of_ends_completion {r : Results}
    (h : (completion listing userRooms userId found).run.Ends es ls (.ok r)) :
    (found.rooms = [] ∧ found.messages = [] ∧ es = [] ∧ r = ⟨[], [], found.mails⟩) ∨
    ∃ details es' direct avatars, ¬ (found.rooms = [] ∧ found.messages = []) ∧
      es = ⟨.read (.roomDetails (listing.userRooms (sortedDistinct userRooms))), .ok details⟩ ::
        es' ∧
      DirectAnswers (listing.messageRooms (sortedDistinct (found.messages.map (·.roomId)))) userId
        es' direct avatars ∧
      r = ⟨found.rooms.map (contextOf details direct avatars).room,
        found.messages.map (contextOf details direct avatars).message, found.mails⟩ := by
  rw [completion] at h
  split at h
  · next hnone =>
    left
    obtain ⟨rfl, -, hr⟩ := ends_pure.1 h
    rw [Bool.and_eq_true, List.isEmpty_iff, List.isEmpty_iff] at hnone
    exact ⟨hnone.1, hnone.2, rfl, Except.ok.inj hr⟩
  · next hsome =>
    right
    rw [Bool.and_eq_true, List.isEmpty_iff, List.isEmpty_iff] at hsome
    obtain ⟨e, -, he⟩ | ⟨context, es₁, es₂, ls₁, ls₂, hcontext, hdone, rfl, -⟩ := ends_bind.1 h
    · cases he
    obtain ⟨rfl, -, hr⟩ := ends_pure.1 hdone
    -- The rows of the user's rooms come first, and then what there is about direct rooms.
    rw [roomContext] at hcontext
    obtain ⟨e, -, -, he⟩ | ⟨details, es₃, rfl, hdirect⟩ := ends_read_bind.1 hcontext
    · cases he
    obtain ⟨e, -, he⟩ | ⟨pair, es₄, es₅, ls₃, ls₄, hpair, hlast, rfl, -⟩ := ends_bind.1 hdirect
    · cases he
    obtain ⟨rfl, -, hlast⟩ := ends_pure.1 hlast
    obtain ⟨direct, avatars, hanswers, rfl⟩ := directAnswers_of_ends_directContext hpair
    cases hlast
    refine ⟨details, es₄, direct, avatars, hsome, ?_, hanswers, Except.ok.inj hr⟩
    simp

/-! ## Rows by room -/

section Rows

variable {facts : Facts} {details : List RoomDetail} {direct : List String}
  {avatars : List DirectAvatar}

/-- What the table of rooms has for a room is what its row says. -/
theorem bind_get?_details_eq_some_iff (hperm : details.Perm facts.details)
    (f : RoomDetail → Option String) (roomId text : String) :
    ((contextOf details direct avatars).details.get? roomId).bind f = some text ↔
      ∃ detail ∈ facts.details, detail.roomId = roomId ∧ f detail = some text := by
  have hnodup : (details.map (·.roomId)).Nodup :=
    (hperm.map (·.roomId)).nodup_iff.2 facts.details_nodup
  -- No room has two rows, so the table has for a room just what its row says.
  have hget : ∀ detail, (contextOf details direct avatars).details.get? roomId = some detail ↔
      detail ∈ facts.details ∧ detail.roomId = roomId := by
    intro detail
    rw [contextOf, KeyMap.get?_ofList_map_eq_some_iff hnodup, ← hperm.mem_iff]
    constructor
    · rintro ⟨row, hrow, hid, rfl⟩
      exact ⟨hrow, hid⟩
    · rintro ⟨hrow, hid⟩
      exact ⟨detail, hrow, hid, rfl⟩
  simp only [Option.bind_eq_some_iff, hget, and_assoc]

/-- What the table of avatars has for a direct room is what its row says. -/
theorem join_get?_directAvatars_eq_some_iff (hperm : avatars.Perm facts.directAvatars)
    (roomId url : String) :
    ((contextOf details direct avatars).directAvatars.get? roomId).join = some url ↔
      ∃ row ∈ facts.directAvatars, row.roomId = roomId ∧ row.avatarUrl = some url := by
  have hnodup : (avatars.map (·.roomId)).Nodup :=
    (hperm.map (·.roomId)).nodup_iff.2 facts.directAvatars_nodup
  rw [Option.join_eq_some_iff, contextOf, KeyMap.get?_ofList_map_eq_some_iff hnodup]
  simp only [hperm.mem_iff]

/-- A message of a direct room gets the avatar of that room, and no name. -/
theorem message_of_mem {m : MessageDocument} (h : m.roomId ∈ direct) :
    (contextOf details direct avatars).message m =
      ⟨m.id, m.roomId, m.content, m.sender, m.displayName,
        ((contextOf details direct avatars).directAvatars.get? m.roomId).join, none⟩ := by
  have hcontains : (contextOf details direct avatars).directRooms.contains m.roomId = true :=
    List.contains_iff_mem.2 h
  simp only [RoomContext.message, if_pos hcontains]

/-- Any other message gets what the row of its room says. -/
theorem message_of_not_mem {m : MessageDocument} (h : m.roomId ∉ direct) :
    (contextOf details direct avatars).message m =
      ⟨m.id, m.roomId, m.content, m.sender, m.displayName,
        ((contextOf details direct avatars).details.get? m.roomId).bind (·.avatar),
        ((contextOf details direct avatars).details.get? m.roomId).bind (·.name)⟩ := by
  have hcontains : ¬ (contextOf details direct avatars).directRooms.contains m.roomId = true :=
    mt List.contains_iff_mem.1 h
  simp only [RoomContext.message, if_neg hcontains]

/-- Tables by room lead each result to the row of its own room. -/
theorem enriched_context (hdetails : details.Perm facts.details)
    (hdirect : ∀ m ∈ found.messages, (m.roomId ∈ direct ↔ m.roomId ∈ facts.directRooms))
    (havatars : ∀ m ∈ found.messages, m.roomId ∈ direct → avatars.Perm facts.directAvatars) :
    Enriched facts ⟨found.rooms.map (contextOf details direct avatars).room,
      found.messages.map (contextOf details direct avatars).message, found.mails⟩ := by
  constructor
  -- First the rooms, then the messages of direct rooms, then those of all others.
  · intro room hroom
    obtain ⟨document, -, rfl⟩ := List.mem_map.1 hroom
    exact bind_get?_details_eq_some_iff hdetails (·.avatar) document.id
  · intro m hm
    obtain ⟨document, hdocument, rfl⟩ := List.mem_map.1 hm
    intro hmem
    have hdirect : document.roomId ∈ direct := (hdirect document hdocument).2 hmem
    rw [message_of_mem hdirect]
    exact ⟨rfl, join_get?_directAvatars_eq_some_iff (havatars document hdocument hdirect)
      document.roomId⟩
  · intro m hm
    obtain ⟨document, hdocument, rfl⟩ := List.mem_map.1 hm
    intro hmem
    have hdirect : document.roomId ∉ direct := mt (hdirect document hdocument).1 hmem
    rw [message_of_not_mem hdirect]
    exact ⟨bind_get?_details_eq_some_iff hdetails (·.name) document.roomId,
      bind_get?_details_eq_some_iff hdetails (·.avatar) document.roomId⟩

/-- Lists that a function makes equal are equal, if it makes no two of their elements equal. -/
theorem eq_of_map_eq_map {α β : Type} {f : α → β} {xs ys : List α}
    (hinj : ∀ x ∈ xs, ∀ y ∈ ys, f x = f y → x = y) (h : xs.map f = ys.map f) : xs = ys := by
  induction xs generalizing ys with
  | nil => exact (List.map_eq_nil_iff.1 h.symm).symm
  | cons x xs ih =>
    cases ys with
    | nil => cases h
    | cons y ys =>
      obtain ⟨hhead, htail⟩ := List.cons.inj h
      obtain rfl := hinj x List.mem_cons_self y List.mem_cons_self hhead
      refine congrArg (x :: ·) (ih (fun a ha b hb => ?_) htail)
      exact hinj a (List.mem_cons_of_mem _ ha) b (List.mem_cons_of_mem _ hb)

/-- The rows leave nothing open: results for the same documents are the same, in whatever order the
rows were told. -/
theorem Enriched.unique {r r' : Results} (h : Enriched facts r) (h' : Enriched facts r')
    (hdocuments : r.documents = r'.documents) : r = r' := by
  obtain ⟨rooms, messages, mails⟩ := r
  obtain ⟨rooms', messages', mails'⟩ := r'
  obtain ⟨hrooms, hmessages, rfl⟩ := Visible.mk.inj hdocuments
  -- A room document is the same in both, and its avatar is told by the facts.
  have hrooms : rooms = rooms' := by
    refine eq_of_map_eq_map (fun room hroom room' hroom' heq => ?_) hrooms
    obtain ⟨id, name, avatarUrl⟩ := room
    obtain ⟨id', name', avatarUrl'⟩ := room'
    obtain ⟨rfl, rfl⟩ := RoomDocument.mk.inj heq
    have havatar : avatarUrl = avatarUrl' := by
      refine Option.ext fun url => ?_
      rw [h.rooms _ hroom url, h'.rooms _ hroom' url]
    rw [havatar]
  have hmessages : messages = messages' := by
    refine eq_of_map_eq_map (fun m hm m' hm' heq => ?_) hmessages
    obtain ⟨id, roomId, content, sender, displayName, avatarUrl, roomName⟩ := m
    obtain ⟨id', roomId', content', sender', displayName', avatarUrl', roomName'⟩ := m'
    obtain ⟨rfl, rfl, rfl, rfl, rfl⟩ := MessageDocument.mk.inj heq
    -- The same of a message, whose room is direct in both or in neither.
    obtain ⟨havatar, hname⟩ : avatarUrl = avatarUrl' ∧ roomName = roomName' := by
      by_cases hdirect : roomId ∈ facts.directRooms
      · obtain ⟨hname, havatar⟩ := h.direct _ hm hdirect
        obtain ⟨hname', havatar'⟩ := h'.direct _ hm' hdirect
        refine ⟨Option.ext fun url => ?_, hname.trans hname'.symm⟩
        rw [havatar url, havatar' url]
      · obtain ⟨hname, havatar⟩ := h.others _ hm hdirect
        obtain ⟨hname', havatar'⟩ := h'.others _ hm' hdirect
        refine ⟨Option.ext fun url => ?_, Option.ext fun name => ?_⟩
        · rw [havatar url, havatar' url]
        · rw [hname name, hname' name]
    rw [havatar, hname]
  rw [hrooms, hmessages]

end Rows

/-! ## What may be seen -/

/-- Which hits may be seen depends on the rooms of the user, not on their order. -/
theorem visible_eq_of_perm {lists : List (List SearchHit)} {ids ids' : List String}
    (hperm : ids.Perm ids') : visible lists ids email = visible lists ids' email := by
  -- All that is asked of the rooms is whether they contain one.
  have hcontains : ∀ id, ids.contains id = ids'.contains id := by
    intro id
    rw [Bool.eq_iff_iff, List.contains_iff_mem, List.contains_iff_mem, hperm.mem_iff]
  simp only [visible, hcontains]

/-- Only messages of the rooms of the user are seen. -/
theorem mem_of_visible {lists : List (List SearchHit)}
    (h : visible lists userRooms email = .ok found) :
    ∀ m ∈ found.messages, m.roomId ∈ userRooms := by
  rw [visible] at h
  dsimp only at h
  cases hrooms : ((lists[0]?).getD []).mapM roomOfHit with
  | error e =>
    rw [hrooms] at h
    cases h
  | ok rooms =>
    cases hmessages : ((lists[1]?).getD []).mapM messageOfHit with
    | error e =>
      rw [hrooms, hmessages] at h
      cases h
    | ok messages =>
      rw [hrooms, hmessages] at h
      cases h
      intro m hm
      -- The messages are filtered by the rooms of the user after they were read.
      exact List.contains_iff_mem.1 (List.mem_filter.1 hm).2

/-! ## A whole search -/

/-- Whether both lists of ids keep what they list, in some order. -/
structure Listing.Permutes (listing : Listing) : Prop where
  userRooms : ∀ ids, (listing.userRooms ids).Perm ids
  messageRooms : ∀ ids, (listing.messageRooms ids).Perm ids

/-- Distinct ids in some order are the same ids. -/
theorem mem_of_permutes {order : List String → List String} (h : ∀ ids, (order ids).Perm ids)
    {ids : List String} {id : String} : id ∈ order (sortedDistinct ids) ↔ id ∈ ids := by
  rw [(h _).mem_iff, mem_sortedDistinct]

/-- In whichever order, each of them is listed once. -/
theorem nodup_of_permutes {order : List String → List String} (h : ∀ ids, (order ids).Perm ids)
    (ids : List String) : (order (sortedDistinct ids)).Nodup :=
  (h _).nodup_iff.2 (nodup_sortedDistinct ids)

/-- The answers about direct rooms are those that the results are made of, as far as it matters for
the messages that were found. -/
theorem DirectAnswers.told {facts : Facts} {ids direct : List String}
    {avatars : List DirectAvatar} {es' : List Exchange}
    (h : DirectAnswers ids userId es' direct avatars)
    (htold : facts.Told names pattern userId es) (hes : es' ⊆ es)
    (hids : ids = [] → found.messages = []) :
    (∀ m ∈ found.messages, (m.roomId ∈ direct ↔ m.roomId ∈ facts.directRooms)) ∧
      (∀ m ∈ found.messages, m.roomId ∈ direct → avatars.Perm facts.directAvatars) ∧
      direct ⊆ ids := by
  cases h with
  | noRooms hnil =>
    -- No rooms are asked about where no message was found.
    rw [hids hnil]
    simp
  | noDirect _ =>
    -- None of the rooms is direct, and so says the read model.
    obtain ⟨hperm, -⟩ := htold.directRooms _ _ (hes List.mem_cons_self)
    rw [List.nil_perm.1 hperm]
    simp
  | direct _ =>
    obtain ⟨hperm, hsubset⟩ := htold.directRooms _ _ (hes List.mem_cons_self)
    have havatars := htold.directAvatars _ _ (hes (List.mem_cons_of_mem _ List.mem_cons_self))
    exact ⟨fun _ _ => hperm.mem_iff, fun _ _ _ => havatars, hsubset⟩

/-- The questions about direct rooms are about these rooms, once. -/
theorem DirectAnswers.flatten_directQuestions {ids direct : List String}
    {avatars : List DirectAvatar} (h : DirectAnswers ids userId es direct avatars) :
    (directQuestions es).flatten = ids := by
  cases h with
  | noRooms hnil => exact hnil.symm
  | noDirect _ => simp [directQuestions]
  | direct _ => simp [directQuestions]

/-- Nothing is asked about other rooms, and avatars on behalf of the user only. -/
theorem DirectAnswers.roomIds_subset {ids direct : List String} {avatars : List DirectAvatar}
    (h : DirectAnswers ids userId es direct avatars) (hdirect : direct ⊆ ids) {call : ReadCall}
    {answer : Call.Answer (.read call)} (hmem : (⟨.read call, answer⟩ : Exchange) ∈ es) :
    call.roomIds ⊆ ids ∧ ∀ rooms user, call = .directAvatars rooms user → user = userId := by
  cases h with
  | noRooms _ => cases hmem
  | noDirect _ =>
    cases List.mem_singleton.1 hmem
    exact ⟨List.Subset.refl _, by simp⟩
  | direct _ =>
    rcases List.mem_cons.1 hmem with hmem | hmem
    · cases hmem
      exact ⟨List.Subset.refl _, by simp⟩
    · cases List.mem_singleton.1 hmem
      -- The avatars are asked for the direct rooms among them, on behalf of the user.
      refine ⟨hdirect, ?_⟩
      rintro rooms user heq
      cases heq
      rfl

/-- The hits and the rooms of the user are asked for without naming a room. -/
theorem Questions.after_hits {facts : Facts} {r : Results} {lists : List (List SearchHit)}
    {ids : List String} (h : Questions facts userId r es) :
    Questions facts userId r
      (⟨.engine (.search pattern (targets names)), .ok lists⟩ ::
        ⟨.read (.roomsOfUser userId), .ok ids⟩ :: es) := by
  -- Neither of the two exchanges in front asks about particular rooms.
  constructor
  · intro call answer hmem
    rcases List.mem_cons.1 hmem with hmem | hmem
    · cases hmem
    rcases List.mem_cons.1 hmem with hmem | hmem
    · cases hmem
      simp [ReadCall.roomIds]
    · exact h.own call answer hmem
  · intro rooms user answer hmem
    rcases List.mem_cons.1 hmem with hmem | hmem
    · cases hmem
    rcases List.mem_cons.1 hmem with hmem | hmem
    · cases hmem
    · exact h.user rooms user answer hmem
  · exact h.once
  · exact h.direct

theorem questions_nil (facts : Facts) (userId : String) (mails : List Document) :
    Questions facts userId ⟨[], [], mails⟩ [] := by
  constructor <;> simp [directQuestions]

/-- The questions about what was found name rooms of the user, and rooms of messages, which are
rooms of the user too. -/
theorem questions_of_answers {facts : Facts} {r : Results} {ids : List String}
    {details : List RoomDetail} {direct : List String} {avatars : List DirectAvatar}
    (hlisting : listing.Permutes) (hrooms : ids.Perm facts.userRooms)
    (hown : ∀ m ∈ found.messages, m.roomId ∈ ids)
    (hmessages : ∀ id, id ∈ found.messages.map (·.roomId) ↔ ∃ m ∈ r.messages, m.roomId = id)
    (hanswers : DirectAnswers
      (listing.messageRooms (sortedDistinct (found.messages.map (·.roomId)))) userId es direct
      avatars)
    (hdirect : direct ⊆ listing.messageRooms (sortedDistinct (found.messages.map (·.roomId)))) :
    Questions facts userId r
      (⟨.read (.roomDetails (listing.userRooms (sortedDistinct ids))), .ok details⟩ :: es) := by
  have hflatten : (directQuestions
      (⟨.read (.roomDetails (listing.userRooms (sortedDistinct ids))), .ok details⟩ ::
        es)).flatten =
        listing.messageRooms (sortedDistinct (found.messages.map (·.roomId))) :=
    hanswers.flatten_directQuestions
  constructor
  · intro call answer hmem id hid
    rw [← hrooms.mem_iff]
    rcases List.mem_cons.1 hmem with hmem | hmem
    · cases hmem
      exact (mem_of_permutes hlisting.userRooms).1 hid
    · -- Direct rooms are rooms of messages, and the messages that are seen are in the user's rooms.
      have hlisted := (hanswers.roomIds_subset hdirect hmem).1 hid
      rw [mem_of_permutes hlisting.messageRooms, List.mem_map] at hlisted
      obtain ⟨m, hm, rfl⟩ := hlisted
      exact hown m hm
  · intro rooms user answer hmem
    rcases List.mem_cons.1 hmem with hmem | hmem
    · cases hmem
    · exact (hanswers.roomIds_subset hdirect hmem).2 rooms user rfl
  · rw [hflatten]
    exact nodup_of_permutes hlisting.messageRooms _
  · intro id
    rw [hflatten, mem_of_permutes hlisting.messageRooms, hmessages]

/-- What a search makes of what it is told: the hits that may be seen, each with what the row of its
room says, by questions about no other rooms.  Where no room and no message may be seen the mails
are all, and the read model is asked nothing further. -/
structure Completed (facts : Facts) (names : IndexNames) (pattern userId : String)
    (email : Option String) (es : List Exchange) (r : Results) : Prop where
  documents : visible facts.lists facts.userRooms email = .ok r.documents
  enriched : Enriched facts r
  questions : Questions facts userId r es
  mailsOnly : r.documents.rooms = [] → r.documents.messages = [] →
    r = ⟨[], [], r.documents.mails⟩ ∧
      ∃ ids, es = [⟨.engine (.search pattern (targets names)), .ok facts.lists⟩,
        ⟨.read (.roomsOfUser userId), .ok ids⟩]

/-- A search that gives results does with them what it should. -/
theorem completed_of_ends {facts : Facts} {r : Results} (hlisting : listing.Permutes)
    (htold : facts.Told names pattern userId es)
    (h : (results listing names pattern userId email).run.Ends es ls (.ok r)) :
    Completed facts names pattern userId email es r := by
  obtain ⟨-, e, he⟩ | ⟨lists, ids, es', rfl, ⟨e, -, he⟩ | ⟨found, hfound, hcompletion⟩⟩ :=
    cases_of_ends_results h
  · cases he
  · cases he
  -- The engine told the hits, and the read model the rooms of the user.
  obtain rfl := htold.lists lists List.mem_cons_self
  have hrooms := htold.userRooms ids (List.mem_cons_of_mem _ List.mem_cons_self)
  have hvisible : visible facts.lists facts.userRooms email = .ok found :=
    (visible_eq_of_perm hrooms.symm).trans hfound
  obtain ⟨hnoRooms, hnoMessages, rfl, rfl⟩ |
    ⟨details, es'', direct, avatars, hsome, rfl, hanswers, rfl⟩ :=
    cases_of_ends_completion hcompletion
  · have hdocuments : Results.documents ⟨[], [], found.mails⟩ = found := by
      obtain ⟨rooms, messages, mails⟩ := found
      obtain rfl : rooms = [] := hnoRooms
      obtain rfl : messages = [] := hnoMessages
      rfl
    constructor
    · rw [hdocuments]
      exact hvisible
    · exact ⟨by simp, by simp, by simp⟩
    · exact (questions_nil facts userId found.mails).after_hits
    · intro _ _
      exact ⟨rfl, ids, rfl⟩
  · have hdocuments := documents_context (contextOf details direct avatars) found
    have hdetails := htold.details _ details
      (List.mem_cons_of_mem _ (List.mem_cons_of_mem _ List.mem_cons_self))
    -- Nothing is asked about no rooms, and then no message needs an answer.
    have hnone : listing.messageRooms (sortedDistinct (found.messages.map (·.roomId))) = [] →
        found.messages = [] := by
      intro hnil
      have hperm := hlisting.messageRooms (sortedDistinct (found.messages.map (·.roomId)))
      rw [hnil, List.nil_perm, sortedDistinct_eq_nil_iff, List.map_eq_nil_iff] at hperm
      exact hperm
    obtain ⟨hdirect, havatars, hsubset⟩ := hanswers.told htold
      (fun e he => List.mem_cons_of_mem _ (List.mem_cons_of_mem _ (List.mem_cons_of_mem _ he)))
      hnone
    constructor
    · rw [hdocuments]
      exact hvisible
    · exact enriched_context hdetails hdirect havatars
    · have hmessages : ∀ id, id ∈ found.messages.map (·.roomId) ↔
          ∃ m ∈ found.messages.map (contextOf details direct avatars).message, m.roomId = id := by
        intro id
        simp [RoomContext.message]
      exact (questions_of_answers hlisting hrooms (mem_of_visible hfound) hmessages hanswers
        hsubset).after_hits
    · rw [hdocuments]
      intro hnoRooms hnoMessages
      exact absurd ⟨hnoRooms, hnoMessages⟩ hsome

/-- A search is one for its pattern, with the failures of an attempt in other words. -/
theorem exists_ends_results {σ : Type} (handler : Handler Call Call.Answer σ) (s : σ)
    {text : String} (hpattern : Search.pattern text = .ok pattern) :
    ∃ ls r, (results listing names pattern userId email).run.Ends
        ((runWith listing names text userId email).run.exchanges handler s) ls r ∧
      ((runWith listing names text userId email).run.run handler s).value =
        r.mapError QueryError.call := by
  have hends := Course.ends_exchanges handler (runWith listing names text userId email).run s
  have hrun : (runWith listing names text userId email).run =
      Except.mapError QueryError.call <$> (results listing names pattern userId email).run := by
    rw [runWith, hpattern]
    rfl
  rw [hrun] at hends ⊢
  obtain ⟨r, hr, hvalue⟩ := Course.ends_map.1 hends
  exact ⟨_, r, hr, hvalue⟩

/-- A search whose requests all succeed gives results if the hits that it was told can be shown. -/
theorem exists_results_of_succeeded {facts : Facts} {r : Except CallError Results}
    (htold : facts.Told names pattern userId es)
    (hvisible : visible facts.lists facts.userRooms email = .ok found)
    (h : (results listing names pattern userId email).run.Ends es ls r)
    (hsucceeded : ∀ e ∈ es, Exchange.Succeeded e) : ∃ a, r = .ok a := by
  obtain ⟨⟨e, he, hfailed⟩, -⟩ | ⟨lists, ids, es', rfl, hrest⟩ := cases_of_ends_results h
  · exact absurd (hsucceeded e he) hfailed
  obtain rfl := htold.lists lists List.mem_cons_self
  have hrooms := htold.userRooms ids (List.mem_cons_of_mem _ List.mem_cons_self)
  rw [visible_eq_of_perm hrooms, hvisible] at hrest
  -- ⟨found', -, hcompletion⟩ := hrest | The hits can be shown, so what is left are questions, and
  -- they all succeed.
  obtain ⟨e, he, -⟩ | ⟨found', -, hcompletion⟩ := hrest
  · cases he
  · refine ((relays_completion listing ids userId found').strict _ _ _ hcompletion).2 ?_
    intro e he
    exact hsucceeded e (List.mem_cons_of_mem _ (List.mem_cons_of_mem _ he))

/-- The results of a search carry what the rows of their own rooms say, and the read model is asked
about rooms of the user alone.  Any other search that is told the same gives the same results,
whatever the order of ids in its questions and of rows in the answers to them. -/
theorem enriched_from_own_rooms {σ : Type} (handler : Handler Call Call.Answer σ) (s : σ)
    (hlisting : listing.Permutes) {text : String} (hpattern : Search.pattern text = .ok pattern)
    {facts : Facts}
    (htold : facts.Told names pattern userId
      ((runWith listing names text userId email).run.exchanges handler s))
    {r : Results}
    (hvalue : ((runWith listing names text userId email).run.run handler s).value = .ok r) :
    Completed facts names pattern userId email
        ((runWith listing names text userId email).run.exchanges handler s) r ∧
      ∀ {τ : Type} (handler' : Handler Call Call.Answer τ) (s' : τ) (listing' : Listing),
        listing'.Permutes →
        let run' := (runWith listing' names text userId email).run
        facts.Told names pattern userId (run'.exchanges handler' s') →
        (∀ e ∈ run'.exchanges handler' s', Exchange.Succeeded e) →
        (run'.run handler' s').value = .ok r := by
  obtain ⟨ls, result, hends, hresult⟩ := exists_ends_results handler s hpattern
  -- An attempt without results would have given a failure.
  have hok : result = .ok r := by
    rw [hresult] at hvalue
    cases result <;> cases hvalue
    rfl
  subst hok
  have hcompleted := completed_of_ends hlisting htold hends
  refine ⟨hcompleted, ?_⟩
  intro τ handler' s' listing' hlisting' run' htold' hsucceeded
  obtain ⟨ls', result', hends', hresult'⟩ := exists_ends_results handler' s' hpattern
  -- The other search succeeds, since the hits that it is told can be shown.
  obtain ⟨r', rfl⟩ := exists_results_of_succeeded htold' hcompleted.documents hends' hsucceeded
  have hcompleted' := completed_of_ends hlisting' htold' hends'
  -- Both are told the same, so they show the same documents, with the same added to them.
  have hdocuments : r.documents = r'.documents :=
    Except.ok.inj (hcompleted.documents.symm.trans hcompleted'.documents)
  rw [hcompleted.enriched.unique hcompleted'.enriched hdocuments]
  exact hresult'

end Search

/-! ### A direct room among the rooms of a user -/

/-- A room with an avatar, and a direct room of two members, with a message in each of them. -/
def World.directRoomFound : World :=
  { World.empty with
    tables := { Tables.empty with
      rooms := [{ (default : RoomDetail) with
        roomId := "!r", name := some "plans", avatar := some "mxc://r" }]
      memberships := [⟨"!r", "@ann", some "Ann", none⟩,
        ⟨"!d", "@bob", some "Bob", some "mxc://bob"⟩,
        ⟨"!d", "@ann", some "Ann", some "mxc://ann"⟩]
      directRooms := ["!d"] }
    memory := { Memory.empty with
      cannedHits := some
        [[("!r", .ofList [("name", .string "plans")])],
         [("$1", MessageDocument.toDocument ⟨"$1", "!d", "my plans", "@bob", some "Bob"⟩),
          ("$2", MessageDocument.toDocument ⟨"$2", "!r", "our plans", "@ann", none⟩)], []] } }

namespace Search

/-- A search on behalf of one of them, with the ids in some order. -/
def byAnn (listing : Listing) : Attempt QueryError Results :=
  runWith listing ⟨"rooms", "messages", "mails"⟩ "plans" "@ann" none

/-- The rooms of the user in descending order, those of messages in ascending order. -/
def mixedListing : Listing :=
  ⟨List.reverse, id⟩

/-- What there is to be told. -/
def factsForAnn : Facts where
  lists := World.directRoomFound.memory.search "" []
  userRooms := ["!d", "!r"]
  details := World.directRoomFound.tables.rooms
  directRooms := ["!d"]
  directAvatars := [⟨"!d", some "mxc://bob"⟩]
  details_nodup := by decide
  directAvatars_nodup := by decide

/-- What is asked with the ids in some order, and what that world answers. -/
def answersForAnn (userRooms messageRooms : List String) : List Exchange :=
  [⟨.engine (.search ".*plans.*" (targets ⟨"rooms", "messages", "mails"⟩)), .ok factsForAnn.lists⟩,
   ⟨.read (.roomsOfUser "@ann"), .ok ["!d", "!r"]⟩,
   ⟨.read (.roomDetails userRooms), .ok factsForAnn.details⟩,
   ⟨.read (.directRooms messageRooms), .ok ["!d"]⟩,
   ⟨.read (.directAvatars ["!d"] "@ann"), .ok factsForAnn.directAvatars⟩]

/-- The exchanges of the sample search with both lists in ascending order. -/
theorem exchanges_byAnn_ascending :
    (byAnn .ascending).run.exchanges World.handler .directRoomFound =
      answersForAnn ["!d", "!r"] ["!d", "!r"] := rfl

/-- The same search, in which the two lists go different ways. -/
theorem exchanges_byAnn_mixed :
    (byAnn mixedListing).run.exchanges World.handler .directRoomFound =
      answersForAnn ["!r", "!d"] ["!d", "!r"] := rfl

/-- What the sample world answers are the facts. -/
theorem told_answersForAnn {userRooms messageRooms : List String} (h : "!d" ∈ messageRooms) :
    factsForAnn.Told ⟨"rooms", "messages", "mails"⟩ ".*plans.*" "@ann"
      (answersForAnn userRooms messageRooms) := by
  constructor
  -- Each question is asked once, so its answer is the one in the list.
  all_goals
    intros
    rename_i hmem
    simp only [answersForAnn, List.mem_cons, List.not_mem_nil, or_false] at hmem
    obtain hmem | hmem | hmem | hmem | hmem := hmem <;> cases hmem
  · rfl
  · exact List.Perm.refl _
  · exact List.Perm.refl _
  · exact ⟨List.Perm.refl _, by simpa using h⟩
  · exact List.Perm.refl _

/-- The theorem at the sample search, listed in two ways. -/
theorem enriched_from_own_rooms_byAnn :
    ∃ r, ((byAnn .ascending).run.run World.handler .directRoomFound).value = .ok r ∧
      r.messages.map (fun m => (m.avatarUrl, m.roomName)) =
        [(some "mxc://bob", none), (some "mxc://r", some "plans")] ∧
      Completed factsForAnn ⟨"rooms", "messages", "mails"⟩ ".*plans.*" "@ann" none
        (answersForAnn ["!d", "!r"] ["!d", "!r"]) r ∧
      ((byAnn mixedListing).run.run World.handler .directRoomFound).value = .ok r := by
  have hpattern : Search.pattern "plans" = .ok ".*plans.*" := by decide +kernel
  have htold : factsForAnn.Told ⟨"rooms", "messages", "mails"⟩ ".*plans.*" "@ann"
      ((byAnn .ascending).run.exchanges World.handler .directRoomFound) := by
    rw [exchanges_byAnn_ascending]
    exact told_answersForAnn (by decide)
  have htold' : factsForAnn.Told ⟨"rooms", "messages", "mails"⟩ ".*plans.*" "@ann"
      ((byAnn mixedListing).run.exchanges World.handler .directRoomFound) := by
    rw [exchanges_byAnn_mixed]
    exact told_answersForAnn (by decide)
  have hsucceeded : ∀ e ∈ (byAnn mixedListing).run.exchanges World.handler .directRoomFound,
      Exchange.Succeeded e := by
    rw [exchanges_byAnn_mixed]
    simp [answersForAnn, Exchange.Succeeded]
  obtain ⟨hcompleted, hsame⟩ := enriched_from_own_rooms World.handler World.directRoomFound
    ⟨fun ids => List.Perm.refl ids, fun ids => List.Perm.refl ids⟩ hpattern htold rfl
  -- In the second search one list is reversed, and the result is the same.
  have hmixed := hsame World.handler World.directRoomFound mixedListing
    ⟨fun ids => List.reverse_perm ids, fun ids => List.Perm.refl ids⟩ htold' hsucceeded
  exact ⟨_, rfl, by decide +kernel, hcompleted, hmixed⟩

end Search

end ChatIndex
