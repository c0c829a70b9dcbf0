import Mathlib.Data.List.Forall2
import ChatIndex.Proofs.BulkReplies
import ChatIndex.Proofs.Visibility

/-!
# The lists of hits of a search

A search asks for several indices in one request and gets one response for each of them.  Whoever
searches tells the lists of hits apart by their position alone, so the lines of the request, the
responses to them and the lists that are made of these have to be in one order, and none of them
may be left out.

* `lines_searchLines`         the request has two lines for each index, in order
* `SearchReply.denotes_of_searchReply?`  what is read of a response is what is written
* `settles_hitLists`          the lists of the responses, or why there are none
* `hit_lists_aligned`         the search as a whole, against any reply that can be read
-/

namespace ChatIndex.EngineClient

open Json

/-! ## The request -/

/-- A clause that matches a pattern against a field. -/
def IsClause (pattern field : String) (clause : Json) : Prop :=
  clause = .object [("regexp", .object [(field, .object
    [("case_insensitive", .bool true), ("flags", .string "ALL"), ("value", .string pattern)])])]

/-- A query that has one clause for each field, in order, and asks for one of them at least. -/
def IsQuery (pattern : String) (fields : List String) (query : Json) : Prop :=
  ∃ clauses, List.Forall₂ (IsClause pattern) fields clauses ∧
    query = .object
      [("query", .object [("bool", .object
        [("minimum_should_match", .ofNat 1), ("should", .array clauses)])]),
       ("size", .ofNat 1000)]

/-- Two lines for each index, in order: the first names it, the second asks for its fields. -/
inductive Lines (pattern : String) : List IndexFields → List Json → Prop
  | nil : Lines pattern [] []
  | cons {target : IndexFields} {targets : List IndexFields} {query : Json} {lines : List Json} :
      IsQuery pattern target.fields query → Lines pattern targets lines →
      Lines pattern (target :: targets)
        (.object [("index", .string target.index)] :: query :: lines)

/-- Entries that are written in descending order end up in front, the last of them first. -/
theorem foldl_insert_of_descending (members acc : List (String × Json))
    (hmembers : (members.map Prod.fst).Pairwise fun a b => b < a)
    (hacc : ∀ e ∈ members, ∀ f ∈ acc, e.1 < f.1) :
    members.foldl (fun acc e => Entries.insert e.1 e.2 acc) acc = members.reverse ++ acc := by
  induction members generalizing acc with
  | nil => rfl
  | cons e members ih =>
    obtain ⟨hfirst, hmembers⟩ := List.pairwise_cons.1 hmembers
    -- The first entry is below all that stands there, so it goes in front.
    have hhead : Entries.insert e.1 e.2 acc = e :: acc := by
      cases acc with
      | nil => rfl
      | cons f acc =>
        have hlt : e.1 < f.1 := hacc e List.mem_cons_self f List.mem_cons_self
        have hne : e.1 ≠ f.1 := by
          intro heq
          exact String.lt_irrefl f.1 (heq ▸ hlt)
        rw [Entries.insert, if_neg hne, if_pos hlt]
    -- What is written later is below `e`, and below all that stood there before it.
    have hbelow : ∀ e' ∈ members, ∀ f ∈ e :: acc, e'.1 < f.1 := by
      intro e' he' f hf
      rcases List.mem_cons.1 hf with rfl | hf
      · exact hfirst e'.1 (List.mem_map_of_mem he')
      · exact hacc e' (List.mem_cons_of_mem _ he') f hf
    rw [List.foldl_cons, hhead, ih (e :: acc) hmembers hbelow, List.reverse_cons,
      List.append_assoc, List.singleton_append]

/-- Members that are given in descending order are written the other way round. -/
theorem ofMembers_of_descending {members : List (String × Json)}
    (h : (members.map Prod.fst).Pairwise fun a b => b < a) :
    ofMembers members = .object members.reverse := by
  rw [ofMembers, Entries.ofList, foldl_insert_of_descending members [] h (by simp),
    List.append_nil]

/-- The clause for a field, as it is written. -/
theorem isClause_patternClause (pattern field : String) :
    IsClause pattern field (patternClause pattern field) := by
  have hkeys : ["value", "flags", "case_insensitive"].Pairwise fun a b => b < a := by decide
  have hoptions : ofMembers [("value", .string pattern), ("flags", .string "ALL"),
        ("case_insensitive", .bool true)] =
      .object [("case_insensitive", .bool true), ("flags", .string "ALL"),
        ("value", .string pattern)] :=
    ofMembers_of_descending hkeys
  rw [IsClause, patternClause, hoptions]
  rfl

/-- The two lines for an index: its name, and a query with a clause for each field. -/
theorem exists_targetLines_eq (pattern : String) (target : IndexFields) :
    ∃ query, targetLines pattern target = [.object [("index", .string target.index)], query] ∧
      IsQuery pattern target.fields query := by
  -- One clause for each field, all with the one pattern.
  have hclauses : List.Forall₂ (IsClause pattern) target.fields
      (target.fields.map (patternClause pattern)) := by
    rw [List.forall₂_map_right_iff, List.forall₂_same]
    exact fun field _ => isClause_patternClause pattern field
  have hkeys : ["size", "query"].Pairwise fun a b => b < a := by decide
  have hsized (query : Json) : ofMembers [("size", .ofNat 1000), ("query", query)] =
      .object [("query", query), ("size", .ofNat 1000)] :=
    ofMembers_of_descending hkeys
  have hkeys : ["should", "minimum_should_match"].Pairwise fun a b => b < a := by decide
  have hany (clauses : Json) :
      ofMembers [("should", clauses), ("minimum_should_match", .ofNat 1)] =
        .object [("minimum_should_match", .ofNat 1), ("should", clauses)] :=
    ofMembers_of_descending hkeys
  refine ⟨_, rfl, _, hclauses, ?_⟩
  rw [maxHits, hany, hsized]
  rfl

/-- The body has two lines for each index, in order. -/
theorem lines_searchLines (pattern : String) (targets : List IndexFields) :
    Lines pattern targets (searchLines pattern targets) := by
  induction targets with
  | nil => exact .nil
  | cons target targets ih =>
    obtain ⟨query, hlines, hquery⟩ := exists_targetLines_eq pattern target
    rw [searchLines, List.flatMap_cons, hlines]
    exact .cons hquery ih

/-! ## Responses as they are written -/

/-- A field of a record, unless it is missing or `null`. -/
def givenOf? (fields : FieldList) (record : Json) (name : String) : Option Json :=
  (fieldOf? fields record name).filter fun value => value ≠ .null

/-- The body of a reply holds these responses. -/
def HoldsResponses (body : String) (responses : List Json) : Prop :=
  ∃ value, readAs? (.record searchRepliesFields) (bytesOf body) = some value ∧
    fieldOf? searchRepliesFields value "responses" = some (.array responses)

/-- The error of a response. -/
def failureOf? (response : Json) : Option Json :=
  givenOf? searchReplyFields response "error"

/-- The status of a response, 500 where it has none. -/
def HasStatus (response : Json) (status : Nat) : Prop :=
  (givenOf? searchReplyFields response "status").getD (.ofNat 500) = .ofNat status

/-- The hits of a response as they are written, none where it has no object of them. -/
def hitsOf (response : Json) : List Json :=
  ((givenOf? searchReplyFields response "hits").bind fun envelope =>
    (fieldOf? hitsFields envelope "hits").bind asArray?).getD []

/-- A hit has the index, the id, the score and the source that are written. -/
structure IsHit (item : Json) (hit : SearchHit) : Prop where
  index : fieldOf? hitFields item "_index" = some (.string hit.index)
  id : fieldOf? hitFields item "_id" = some (.string hit.id)
  score : (givenOf? hitFields item "_score").map float? = hit.score.map some
  source : ∃ members, (fieldOf? hitFields item "_source").getD (.object []) = .object members ∧
    hit.source = .ofList members

/-- The hits of a list are those of a response, in order. -/
def Lists (response : Json) (hits : List SearchHit) : Prop :=
  List.Forall₂ IsHit (hitsOf response) hits

/-! ## Responses as they are read -/

section Fields

variable {α β : Type} {members : List (String × Json)} {fields : FieldList} {record : Json}
  {name : String}

/-- A text that was read is the one that is written. -/
theorem fieldOf?_of_field? {s : String} (hmembers : record.record? fields = some members)
    (h : field? members name = some s) : fieldOf? fields record name = some (.string s) := by
  rw [fieldOf?_of_record? hmembers]
  rw [field?, Option.bind_eq_some_iff] at h
  obtain ⟨value, hvalue, hs⟩ := h
  cases value <;> cases hs
  exact hvalue

/-- A field that may be missing is read just if it is given. -/
theorem map_givenOf?_of_optionalField? {read : Json → Option α} {found : Option α}
    (hmembers : record.record? fields = some members)
    (h : optionalField? read members name = some found) :
    (givenOf? fields record name).map read = found.map some := by
  rw [givenOf?, fieldOf?_of_record? hmembers]
  rw [optionalField?] at h
  cases hvalue : Entries.get? members name with
  | none =>
    rw [hvalue] at h
    cases h
    rfl
  | some value =>
    rw [hvalue] at h
    by_cases hnull : value = .null
    · subst hnull
      cases h
      rfl
    · -- A value that is not `null` has been read.
      have hread : (read value).map some = some found := by
        cases value <;> first | exact h | exact absurd rfl hnull
      obtain ⟨a, ha, rfl⟩ := Option.map_eq_some_iff.1 hread
      have hfilter : (some value).filter (fun value => value ≠ .null) = some value := by
        simp [Option.filter, hnull]
      rw [hfilter, Option.map_some, Option.map_some, ha]

/-- A list that is read element by element stands in relation with what was read. -/
theorem forall₂_of_mapM_eq_some {f : α → Option β} {R : α → β → Prop} {xs : List α} {ys : List β}
    (hf : ∀ x y, f x = some y → R x y) (h : xs.mapM f = some ys) : List.Forall₂ R xs ys := by
  induction xs generalizing ys with
  | nil =>
    cases h
    exact .nil
  | cons x xs ih =>
    simp only [List.mapM_cons, Option.bind_eq_bind, Option.bind_eq_some_iff, Option.pure_def,
      Option.some.injEq] at h
    obtain ⟨y, hy, rest, hrest, rfl⟩ := h
    exact .cons (hf x y hy) (ih hrest)

end Fields

/-- A hit that was read says what is written. -/
theorem isHit_of_hit? {item : Json} {hit : SearchHit} (h : hit? item = some hit) :
    IsHit item hit := by
  rw [hit?] at h
  obtain ⟨members, hmembers, h⟩ := Option.bind_eq_some_iff.1 h
  -- Whether the source is missing or there, the other fields are read alike.
  obtain ⟨source, hsource, hrest⟩ : ∃ source : Document,
      (∃ written, (fieldOf? hitFields item "_source").getD (.object []) = .object written ∧
        source = .ofList written) ∧
      ((field? members "_index").bind fun index => (field? members "_id").bind fun id =>
        (optionalField? float? members "_score").bind fun score =>
          some (⟨index, id, score, source⟩ : SearchHit)) = some hit := by
    rw [fieldOf?_of_record? hmembers]
    cases hvalue : Entries.get? members "_source" with
    | none =>
      rw [hvalue] at h
      exact ⟨.empty, ⟨[], rfl, rfl⟩, h⟩
    | some value =>
      rw [hvalue] at h
      obtain ⟨source, hsource, h⟩ := Option.bind_eq_some_iff.1 h
      -- Only an object is a source.
      cases value <;> cases hsource
      exact ⟨_, ⟨_, rfl, rfl⟩, h⟩
  obtain ⟨index, hindex, hrest⟩ := Option.bind_eq_some_iff.1 hrest
  obtain ⟨id, hid, hrest⟩ := Option.bind_eq_some_iff.1 hrest
  obtain ⟨score, hscore, hrest⟩ := Option.bind_eq_some_iff.1 hrest
  cases hrest
  exact ⟨fieldOf?_of_field? hmembers hindex, fieldOf?_of_field? hmembers hid,
    map_givenOf?_of_optionalField? hmembers hscore, hsource⟩

/-- The hits in the object around them. -/
theorem lists_of_hits? {envelope : Json} {hits : List SearchHit} (h : hits? envelope = some hits) :
    ∃ items, (fieldOf? hitsFields envelope "hits").bind asArray? = some items ∧
      List.Forall₂ IsHit items hits := by
  rw [hits?] at h
  obtain ⟨members, hmembers, h⟩ := Option.bind_eq_some_iff.1 h
  obtain ⟨items, hitems, h⟩ := Option.bind_eq_some_iff.1 h
  rw [fieldOf?_of_record? hmembers]
  exact ⟨items, hitems, forall₂_of_mapM_eq_some (fun _ _ => isHit_of_hit?) h⟩

/-- What was read of a response says what is written. -/
structure SearchReply.Denotes (response : Json) (read : SearchReply) : Prop where
  status : HasStatus response (read.status.getD 500)
  error : read.error = failureOf? response
  hits : Lists response read.hits

/-- Reading a response gets its status, its error and its hits right. -/
theorem SearchReply.denotes_of_searchReply? {response : Json} {read : SearchReply}
    (h : searchReply? response = some read) : Denotes response read := by
  simp only [searchReply?, Option.bind_eq_bind, Option.bind_eq_some_iff, Option.pure_def,
    Option.some.injEq] at h
  obtain ⟨members, hmembers, status, hstatus, error, herror, hits, hhits, rfl⟩ := h
  -- None of the three fields has to be there, so each may be missing, `null` or given.
  have hstatus := map_givenOf?_of_optionalField? hmembers hstatus
  have herror := map_givenOf?_of_optionalField? hmembers herror
  have hhits := map_givenOf?_of_optionalField? hmembers hhits
  refine ⟨?_, ?_, ?_⟩
  · -- A missing status counts as 500 both in the reply and in what was read.
    rw [HasStatus]
    cases hvalue : givenOf? searchReplyFields response "status" with
    | none =>
      rw [hvalue] at hstatus
      cases status <;> cases hstatus
      rfl
    | some value =>
      rw [hvalue] at hstatus
      cases status with
      | none => cases hstatus
      | some n =>
        obtain ⟨i, rfl, hi, rfl⟩ := exists_int_of_asNat? (Option.some.inj hstatus)
        simp [Json.ofNat, Json.ofInt, Int.toNat_of_nonneg hi]
  · rw [failureOf?]
    cases hvalue : givenOf? searchReplyFields response "error" <;> rw [hvalue] at herror <;>
      cases error <;> cases herror <;> rfl
  · rw [Lists, hitsOf]
    cases hvalue : givenOf? searchReplyFields response "hits" with
    | none =>
      rw [hvalue] at hhits
      cases hits <;> cases hhits
      exact .nil
    | some envelope =>
      rw [hvalue] at hhits
      cases hits with
      | none => cases hhits
      | some hits =>
        obtain ⟨items, hitems, hlists⟩ := lists_of_hits? (Option.some.inj hhits)
        rw [Option.bind_some, hitems]
        exact hlists

/-! ## Lists of hits -/

/-- What the responses to a search for so many indices come to: one list for each response in
their order, if there are as many as indices and none of them has an error.  A wrong number is an
error of its own, else the first response with an error counts. -/
structure Settles (expected : Nat) (responses : List Json)
    (outcome : Except EngineError (List (List SearchHit))) : Prop where
  found : (∃ lists, outcome = .ok lists) ↔
    responses.length = expected ∧ ∀ response ∈ responses, failureOf? response = none
  aligned : ∀ lists, outcome = .ok lists → List.Forall₂ Lists responses lists
  miscounted : responses.length ≠ expected →
    outcome = .error (.invalidResponse ("expected " ++ expected.repr ++
      " search responses, got " ++ responses.length.repr))
  failed : responses.length = expected → ∀ before response after error,
    responses = before ++ response :: after → (∀ r ∈ before, failureOf? r = none) →
    failureOf? response = some error →
    ∃ status, HasStatus response status ∧ outcome = .error (.status status error.print)

/-- A response has hits just if it has no error. -/
theorem SearchReply.outcome_eq_ok_iff {read : SearchReply} {hits : List SearchHit} :
    read.outcome = .ok hits ↔ read.error = none ∧ read.hits = hits := by
  rw [outcome]
  cases read.error <;> simp

/-- Responses without errors make one list each. -/
theorem mapM_outcome_eq_ok_iff {replies : List SearchReply} {lists : List (List SearchHit)} :
    replies.mapM SearchReply.outcome = .ok lists ↔
      List.Forall₂ (fun read hits => read.error = none ∧ read.hits = hits) replies lists :=
  Search.mapM_eq_ok_iff fun _ _ => SearchReply.outcome_eq_ok_iff

/-- The first response with an error is the failure of all of them. -/
theorem mapM_outcome_of_first_failure {before after : List Json} {response error : Json}
    {replies : List SearchReply}
    (hread : List.Forall₂ SearchReply.Denotes (before ++ response :: after) replies)
    (hbefore : ∀ r ∈ before, failureOf? r = none) (hfailure : failureOf? response = some error) :
    ∃ status, HasStatus response status ∧
      replies.mapM SearchReply.outcome = .error (.status status error.print) := by
  induction before generalizing replies with
  | nil =>
    obtain ⟨read, rest, hdenotes, -, rfl⟩ := List.forall₂_cons_left_iff.1 hread
    have hfailed : read.outcome = .error (.status (read.status.getD 500) error.print) := by
      rw [SearchReply.outcome, hdenotes.error, hfailure]
    refine ⟨_, hdenotes.status, ?_⟩
    rw [List.mapM_cons, hfailed]
    rfl
  | cons first before ih =>
    -- A response without an error has its hits, whatever its status, and the next one counts.
    obtain ⟨read, rest, hdenotes, hrest, rfl⟩ := List.forall₂_cons_left_iff.1 hread
    obtain ⟨hfirst, hbefore⟩ := List.forall_mem_cons.1 hbefore
    obtain ⟨status, hstatus, herror⟩ := ih hrest hbefore
    have hok : read.outcome = .ok read.hits :=
      SearchReply.outcome_eq_ok_iff.2 ⟨hdenotes.error.trans hfirst, rfl⟩
    refine ⟨status, hstatus, ?_⟩
    rw [List.mapM_cons, hok, herror]
    rfl

/-- There are lists just if no response has an error. -/
theorem exists_mapM_outcome_iff {responses : List Json} {replies : List SearchReply}
    (hread : List.Forall₂ SearchReply.Denotes responses replies) :
    (∃ lists, replies.mapM SearchReply.outcome = .ok lists) ↔
      ∀ response ∈ responses, failureOf? response = none := by
  simp only [mapM_outcome_eq_ok_iff, Search.exists_forall₂_iff]
  induction hread with
  | nil => simp
  | cons hdenotes _ ih =>
    rw [List.forall_mem_cons, List.forall_mem_cons, ih, hdenotes.error]
    simp

/-- The lists are those of the responses, each at the place of its own. -/
theorem forall₂_lists {responses : List Json} {replies : List SearchReply}
    {lists : List (List SearchHit)} (hread : List.Forall₂ SearchReply.Denotes responses replies)
    (hlists : replies.mapM SearchReply.outcome = .ok lists) :
    List.Forall₂ Lists responses lists := by
  rw [mapM_outcome_eq_ok_iff] at hlists
  induction hread generalizing lists with
  | nil =>
    cases hlists
    exact .nil
  | cons hdenotes _ ih =>
    obtain ⟨hits, rest, ⟨-, rfl⟩, hrest, rfl⟩ := List.forall₂_cons_left_iff.1 hlists
    exact .cons hdenotes.hits (ih hrest)

/-- The lists of hits are settled by the responses, or the failure is. -/
theorem settles_hitLists {responses : List Json} {replies : List SearchReply} (expected : Nat)
    (hread : List.Forall₂ SearchReply.Denotes responses replies) :
    Settles expected responses (hitLists expected replies) := by
  have hlength : responses.length = replies.length := hread.length_eq
  rw [hitLists, ← hlength]
  by_cases hcount : responses.length = expected
  · rw [if_pos hcount]
    constructor
    · rw [exists_mapM_outcome_iff hread, and_iff_right hcount]
    · intro lists hlists
      exact forall₂_lists hread hlists
    · -- The count is right, so the third part has nothing to say.
      intro hne
      exact absurd hcount hne
    · rintro - before response after error rfl hbefore hfailure
      -- The first response with an error is reported with its own status.
      exact mapM_outcome_of_first_failure hread hbefore hfailure
  · -- With a wrong count there are no lists, and the responses are not looked at.
    rw [if_neg hcount]
    constructor
    · simp [hcount]
    · intro lists hlists
      cases hlists
    · intro _
      rfl
    · intro hsame
      exact absurd hsame hcount

/-! ## Searches -/

/-- What is read of a body are the responses that it holds. -/
theorem exists_responses_of_decode? {body : String} {replies : List SearchReply}
    (h : decode? searchRepliesFields searchReplies? body = some replies) :
    ∃ responses, HoldsResponses body responses ∧
      List.Forall₂ SearchReply.Denotes responses replies := by
  obtain ⟨value, hvalue, h⟩ := Option.bind_eq_some_iff.1 h
  rw [searchReplies?] at h
  obtain ⟨members, hmembers, h⟩ := Option.bind_eq_some_iff.1 h
  obtain ⟨responses, hresponses, h⟩ := Option.bind_eq_some_iff.1 h
  obtain ⟨field, hfield, harray⟩ := Option.bind_eq_some_iff.1 hresponses
  have harray : field = .array responses := by
    cases field <;> cases harray
    rfl
  refine ⟨responses, ⟨value, hvalue, ?_⟩, ?_⟩
  · rw [fieldOf?_of_record? hmembers, hfield, harray]
  · exact forall₂_of_mapM_eq_some (fun _ _ => SearchReply.denotes_of_searchReply?) h

/-- A search sends one request, with two lines for each index in their order.  Of a reply that is
accepted and can be read it makes one list for each response in their order, with all hits as they
are written, unless there are too few or too many responses or one of them has an error. -/
theorem hit_lists_aligned (client : EngineClient) (pattern : String) {targets : List IndexFields}
    (htargets : targets ≠ []) {reply : Reply}
    (hstatus : 200 ≤ reply.status ∧ reply.status ≤ 208)
    (hdecodes : (decode? searchRepliesFields searchReplies? (reply.content .post)).isSome = true)
    (replies : List Reply) :
    let run := client.runAgainst (.search pattern targets) (.ofReplies (reply :: replies))
    (∃ responses, HoldsResponses (reply.content .post) responses ∧
      Settles targets.length responses run.1) ∧
    ∃ request, run.2.received = [request] ∧ request.method = .post ∧
      request.target = targetUnder client.basePath "/_msearch" ∧
      Lines pattern targets request.body := by
  intro run
  obtain ⟨read, hread⟩ := Option.isSome_iff_exists.1 hdecodes
  obtain ⟨responses, hholds, hdenotes⟩ := exists_responses_of_decode? hread
  -- The search is one request, and takes the first reply.
  have hrun := run_of_single (client.search pattern targets).run
    (fun _ _ _ => single_of_ends_search htargets) hstatus replies
  rw [readReply_of_some hread] at hrun
  obtain ⟨hvalue, hreceived⟩ := hrun
  refine ⟨⟨responses, hholds, ?_⟩, _, hreceived, rfl, rfl, lines_searchLines pattern targets⟩
  have houtcome : run.1 = hitLists targets.length read := hvalue
  rw [houtcome]
  exact settles_hitLists targets.length hdenotes

/-- Two indices to search. -/
def twoIndices : List IndexFields :=
  [⟨"rooms", ["name"]⟩, ⟨"messages", ["content", "display_name"]⟩]

/-- A reply with a room for the first of them and nothing for the second. -/
def oneRoomFound : Reply :=
  ⟨200, Json.print <| .ofMembers [("responses", .array
    [.ofMembers [("hits", .ofMembers [("hits", .array
      [.ofMembers [("_index", .string "rooms"), ("_id", .string "!r"),
        ("_source", .ofMembers [("name", .string "plans")])]])])],
     .ofMembers [("status", .ofNat 200)]])]⟩

/-- The theorem at a search of two indices with one room found. -/
theorem hit_lists_aligned_twoIndices :
    let run := (EngineClient.mk "" none).runAgainst (.search ".*plans.*" twoIndices)
      (.ofReplies [oneRoomFound])
    run.1 = .ok [[⟨"rooms", "!r", none, .ofList [("name", .string "plans")]⟩], []] ∧
      (∃ responses, HoldsResponses (oneRoomFound.content .post) responses ∧
        List.Forall₂ Lists responses
          [[⟨"rooms", "!r", none, .ofList [("name", .string "plans")]⟩], []]) ∧
      ∃ request, run.2.received = [request] ∧ Lines ".*plans.*" twoIndices request.body := by
  intro run
  have hdecodes : (decode? searchRepliesFields searchReplies?
      (oneRoomFound.content .post)).isSome = true := by
    decide +kernel
  have hrun : run.1 = .ok [[⟨"rooms", "!r", none, .ofList [("name", .string "plans")]⟩], []] := by
    decide +kernel
  -- The two responses are aligned with the two indices that were asked for.
  obtain ⟨⟨responses, hholds, hsettles⟩, request, hreceived, -, -, hlines⟩ :=
    hit_lists_aligned ⟨"", none⟩ ".*plans.*" (by decide : twoIndices ≠ []) (by decide) hdecodes []
  exact ⟨hrun, ⟨responses, hholds, hsettles.aligned _ hrun⟩, request, hreceived, hlines⟩

end ChatIndex.EngineClient
