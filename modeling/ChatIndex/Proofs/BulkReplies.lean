import Mathlib.Data.List.Forall2
import ChatIndex.Proofs.Validation

/-!
# What becomes of rejected documents

The reply to a bulk request tells of rejected documents twice: by a flag for the whole request,
and by an error in the item of each document that was rejected.  Where the two agree, a rejected
document is never passed over: the request fails with one rejection for each item with an error,
in their order.  Where they disagree, either way round, the request passes for a success.

* `BulkReply.denotes_of_ofJson?`  what is read of a reply is what is written
* `runAgainst_of_decode?`         a bulk request against a reply that can be read
* `bulk_failure_swallowed_iff`    when a rejected document is passed over
-/

namespace ChatIndex.EngineClient

open Json

/-! ## Fields of records -/

/-- The value of a field of a record; `none` where it is missing. -/
def fieldOf? (fields : FieldList) (record : Json) (name : String) : Option Json :=
  (record.record? fields).bind fun members => Entries.get? members name

section Fields

variable {members : List (String × Json)} {name : String}

/-- The field of a record that can be read is the one among its members. -/
theorem fieldOf?_of_record? {fields : FieldList} {record : Json}
    (h : record.record? fields = some members) (name : String) :
    fieldOf? fields record name = Entries.get? members name := by
  rw [fieldOf?, h]
  rfl

/-- A text that was read is the one that is written, or it is empty and nothing is written. -/
theorem getD_of_fieldOrEmpty? {s : String} (h : fieldOrEmpty? members name = some s) :
    (Entries.get? members name).getD (.string "") = .string s := by
  rw [fieldOrEmpty?] at h
  cases hvalue : Entries.get? members name with
  | none =>
    rw [hvalue] at h
    cases h
    rfl
  | some value =>
    rw [hvalue] at h
    cases value <;> cases h
    rfl

/-- A count comes from an integer that is not negative. -/
theorem exists_int_of_asNat? {limit n : Nat} {value : Json} (h : value.asNat? limit = some n) :
    ∃ i, value = .number (.int i) ∧ 0 ≤ i ∧ n = i.toNat := by
  unfold asNat? at h
  split at h
  · split at h <;> cases h
    rename_i i hi
    exact ⟨i, rfl, hi.1, rfl⟩
  · cases h

/-- A count that was read is the one that is written, or zero where nothing is. -/
theorem getD_of_countField? {limit n : Nat} (h : countField? limit members name = some n) :
    (Entries.get? members name).getD (.ofNat 0) = .ofNat n := by
  rw [countField?] at h
  cases hvalue : Entries.get? members name with
  | none =>
    rw [hvalue] at h
    cases h
    rfl
  | some value =>
    rw [hvalue] at h
    obtain ⟨i, rfl, hi, rfl⟩ := exists_int_of_asNat? h
    simp [Json.ofNat, Json.ofInt, Int.toNat_of_nonneg hi]

/-- A list that was read is the one that is written, or empty where nothing is. -/
theorem getD_of_listField? {items : List Json} (h : listField? members name = some items) :
    ((Entries.get? members name).bind asArray?).getD [] = items := by
  rw [listField?] at h
  cases hvalue : Entries.get? members name with
  | none =>
    rw [hvalue] at h
    cases h
    rfl
  | some value =>
    rw [hvalue] at h
    have hitems : value.asArray? = some items := h
    simp [hitems]

/-- A field for any value is there unless it is missing or `null`. -/
theorem optionalField?_some :
    optionalField? some members name =
      some ((Entries.get? members name).filter fun value => value ≠ .null) := by
  rw [optionalField?]
  cases Entries.get? members name with
  | none => rfl
  | some value => cases value <;> simp [Option.filter]

end Fields

/-! ## Bulk replies as they are written -/

/-- Whether a bulk reply says that something was rejected. -/
def Flagged (value : Json) : Prop :=
  fieldOf? BulkReply.fields value "errors" = some (.bool true)

/-- The entries of a bulk reply. -/
def entriesOf (value : Json) : List Json :=
  ((fieldOf? BulkReply.fields value "items").bind asArray?).getD []

/-- The error of an item, unless it is missing or `null`. -/
def errorOf? (item : Json) : Option Json :=
  (fieldOf? BulkItem.fields item "error").filter fun error => error ≠ .null

/-- The items with an error. -/
def rejected (items : List Json) : List Json :=
  items.filter fun item => (errorOf? item).isSome

/-- An entry names one action and holds its item. -/
def HoldsItem (entry item : Json) : Prop :=
  ∃ action, entry = .object [(action, item)]

/-- A body can be read as a bulk reply, and each of its entries holds just one of these items. -/
structure Reads (body : String) (value : Json) (items : List Json) : Prop where
  denotes : readAs? (.record BulkReply.fields) (bytesOf body) = some value
  decodes : (BulkReply.ofJson? value).isSome = true
  entries : List.Forall₂ HoldsItem (entriesOf value) items

/-- A reason for an error in words: the reason that it gives, else its type, else its own text. -/
inductive Words (error : Json) : String → Prop
  | reason {s : String} (hreason : error.get? "reason" = some (.string s)) : Words error s
  | type {s : String} (hreason : ∀ s, error.get? "reason" ≠ some (.string s))
      (htype : error.get? "type" = some (.string s)) : Words error s
  | text (hreason : ∀ s, error.get? "reason" ≠ some (.string s))
      (htype : ∀ s, error.get? "type" ≠ some (.string s)) : Words error error.print

/-- A rejection says of an item what the item says itself, a missing name being empty and a
missing status zero. -/
structure Reports (item : Json) (rejection : Rejection) : Prop where
  index : (fieldOf? BulkItem.fields item "_index").getD (.string "") = .string rejection.index
  id : (fieldOf? BulkItem.fields item "_id").getD (.string "") = .string rejection.id
  status : (fieldOf? BulkItem.fields item "status").getD (.ofNat 0) = .ofNat rejection.status
  reason : ∃ error, errorOf? item = some error ∧ Words error rejection.reason

/-! ## Items as they are read -/

/-- An item that was read says what is written. -/
structure BulkItem.Denotes (value : Json) (item : BulkItem) : Prop where
  index : (fieldOf? fields value "_index").getD (.string "") = .string item.index
  id : (fieldOf? fields value "_id").getD (.string "") = .string item.id
  status : (fieldOf? fields value "status").getD (.ofNat 0) = .ofNat item.status
  error : item.error = errorOf? value

/-- Reading an item gets its four fields right. -/
theorem BulkItem.denotes_of_ofJson? {value : Json} {item : BulkItem}
    (h : BulkItem.ofJson? value = some item) : Denotes value item := by
  simp only [ofJson?, Option.bind_eq_bind, Option.bind_eq_some_iff, Option.pure_def,
    Option.some.injEq, optionalField?_some, exists_eq_left'] at h
  obtain ⟨members, hmembers, index, hindex, id, hid, status, hstatus, rfl⟩ := h
  have hfield := fieldOf?_of_record? hmembers
  refine ⟨?_, ?_, ?_, ?_⟩
  · rw [hfield]
    exact getD_of_fieldOrEmpty? hindex
  · rw [hfield]
    exact getD_of_fieldOrEmpty? hid
  · rw [hfield]
    exact getD_of_countField? hstatus
  · rw [errorOf?, hfield]

/-- The text that is taken for the reason is a reason in words. -/
theorem words_reasonOf (error : Json) : Words error (reasonOf error) := by
  -- A member that is no text counts as missing.
  have hno : ∀ name, error.getString? name = none →
      ∀ s, error.get? name ≠ some (.string s) := by
    intro name h s hs
    simp [getString?, hs, asString?] at h
  have hsome : ∀ name s, error.getString? name = some s → error.get? name = some (.string s) := by
    intro name s h
    obtain ⟨value, hvalue, hs⟩ := Option.bind_eq_some_iff.1 h
    cases value <;> cases hs
    exact hvalue
  rw [reasonOf]
  cases hreason : error.getString? "reason" with
  | some s => exact .reason (hsome _ _ hreason)
  | none =>
    cases htype : error.getString? "type" with
    | some s => exact .type (hno _ hreason) (hsome _ _ htype)
    | none => exact .text (hno _ hreason) (hno _ htype)

/-- The rejections of items are those of the written items with an error, in their order. -/
theorem forall₂_rejections {items : List Json} {read : List BulkItem}
    (h : List.Forall₂ BulkItem.Denotes items read) :
    List.Forall₂ Reports (rejected items) (read.filterMap BulkItem.rejection?) := by
  induction h with
  | nil => exact .nil
  | @cons item b items read hitem _ ih =>
    have herror := hitem.error
    rw [rejected] at ih ⊢
    cases hb : errorOf? item with
    | none =>
      rw [hb] at herror
      -- An item without an error reports nothing.
      have hnone : b.rejection? = none := by rw [BulkItem.rejection?, herror]; rfl
      rw [List.filterMap_cons_none hnone, List.filter_cons_of_neg (by simp [hb])]
      exact ih
    | some error =>
      rw [hb] at herror
      have hsome : b.rejection? = some ⟨b.index, b.id, b.status, reasonOf error⟩ := by
        rw [BulkItem.rejection?, herror]
        rfl
      rw [List.filterMap_cons_some hsome, List.filter_cons_of_pos (by simp [hb])]
      exact .cons ⟨hitem.index, hitem.id, hitem.status, error, hb, words_reasonOf error⟩ ih

/-- Entries that hold one item each are read item by item. -/
theorem forall₂_items {entries items : List Json} {read : List (List BulkItem)}
    (hentries : List.Forall₂ HoldsItem entries items)
    (h : entries.mapM BulkItem.ofEntry? = some read) :
    List.Forall₂ BulkItem.Denotes items read.flatten := by
  induction hentries generalizing read with
  | nil =>
    cases h
    exact .nil
  | @cons entry item entries items hentry _ ih =>
    obtain ⟨action, rfl⟩ := hentry
    simp only [List.mapM_cons, Option.bind_eq_bind, Option.bind_eq_some_iff, Option.pure_def,
      Option.some.injEq] at h
    -- Each entry gives one item, so the lists that are read have one item each.
    obtain ⟨first, hfirst, rest, hrest, rfl⟩ := h
    obtain ⟨b, hb, rfl⟩ : ∃ b, BulkItem.ofJson? item = some b ∧ [b] = first := by
      simpa [BulkItem.ofEntry?, Option.bind_eq_some_iff] using hfirst
    exact .cons (BulkItem.denotes_of_ofJson? hb) (ih hrest)

/-! ## Replies as they are read -/

/-- What was read of a bulk reply says what is written: whether anything was rejected, and the
items. -/
structure BulkReply.Denotes (value : Json) (items : List Json) (result : BulkReply) : Prop where
  errors : result.errors = true ↔ Flagged value
  items : List.Forall₂ BulkItem.Denotes items result.items

/-- Reading a reply gets its flag and its items right, where each entry holds one item. -/
theorem BulkReply.denotes_of_ofJson? {value : Json} {result : BulkReply} {items : List Json}
    (h : BulkReply.ofJson? value = some result)
    (hentries : List.Forall₂ HoldsItem (entriesOf value) items) :
    Denotes value items result := by
  rw [ofJson?] at h
  obtain ⟨members, hmembers, h⟩ := Option.bind_eq_some_iff.1 h
  have hfield := fieldOf?_of_record? hmembers
  -- Whether the flag is missing or there, the items are read alike.
  obtain ⟨errors, herrors, hrest⟩ : ∃ errors,
      (errors = true ↔ Entries.get? members "errors" = some (.bool true)) ∧
      ((listField? members "items").bind fun entries =>
        (entries.mapM BulkItem.ofEntry?).bind fun items =>
          some (⟨errors, items.flatten⟩ : BulkReply)) = some result := by
    cases hflag : Entries.get? members "errors" with
    | none =>
      rw [hflag] at h
      exact ⟨false, by simp, h⟩
    | some flag =>
      rw [hflag] at h
      obtain ⟨errors, herrors, h⟩ := Option.bind_eq_some_iff.1 h
      refine ⟨errors, ?_, h⟩
      cases flag <;> cases herrors
      simp
  obtain ⟨entries, hlist, hrest⟩ := Option.bind_eq_some_iff.1 hrest
  obtain ⟨read, hread, hresult⟩ := Option.bind_eq_some_iff.1 hrest
  cases hresult
  refine ⟨by rw [Flagged, hfield]; exact herrors, ?_⟩
  have hentriesOf : entriesOf value = entries := by
    rw [entriesOf, hfield]
    exact getD_of_listField? hlist
  rw [hentriesOf] at hentries
  exact forall₂_items hentries hread

/-! ## Bulk requests -/

variable {batch : BulkBatch} {reply : Reply} {value : Json} {items : List Json}

/-- A bulk request with documents takes the first reply.  If that is accepted and can be read, it
fails with the rejections that were read, or succeeds if there are none. -/
theorem runAgainst_of_decode? (client : EngineClient) {result : BulkReply} (replies : List Reply)
    (hbatch : ∃ entry ∈ batch.entries, entry.2 ≠ [])
    (hstatus : 200 ≤ reply.status ∧ reply.status ≤ 208)
    (hread : decode? BulkReply.fields BulkReply.ofJson? (reply.content .post) = some result) :
    (client.runAgainst (.indexDocuments batch) (.ofReplies (reply :: replies))).1 =
      if result.rejections = [] then .ok () else .error (.bulkFailure result.rejections) := by
  have hlines : bulkLines batch ≠ [] := by
    rw [Ne, bulkLines_eq_nil_iff]
    simpa using hbatch
  have hrun := run_of_single (client.indexDocuments batch).run
    (fun _ _ _ => single_of_ends_indexDocuments hlines) hstatus replies
  rw [readReply_of_some hread] at hrun
  exact hrun.1

/-- A bulk request fails with rejected documents only if there are some. -/
theorem rejections_ne_nil_of_ends {client : EngineClient} {es : List Exchange} {ls : List LogRecord}
    {rejections : List Rejection}
    (h : (client.indexDocuments batch).run.Ends es ls (.error (.bulkFailure rejections))) :
    rejections ≠ [] := by
  by_cases hlines : bulkLines batch = []
  · rw [indexDocuments] at h
    simp only [hlines, List.isEmpty_nil, if_true] at h
    obtain ⟨-, -, hok⟩ := Course.ends_done.1 h
    cases hok
  -- A refused reply is another failure; of an accepted one the rejections are counted.
  obtain ⟨e, -, -, -, hrejection⟩ | ⟨reply, -, -, hresult⟩ := single_of_ends_indexDocuments hlines h
  · unfold rejection at hrejection
    split at hrejection <;> cases hrejection
  · dsimp only at hresult
    cases hread : decode? BulkReply.fields BulkReply.ofJson? (reply.content .post) with
    | none =>
      rw [readReply_of_none hread] at hresult
      cases hresult
    | some result =>
      rw [readReply_of_some hread] at hresult
      change _ = if result.rejections = [] then _ else _ at hresult
      split at hresult
      · cases hresult
      · next hne =>
        cases hresult
        exact hne

/-- A reply reports a rejection just if it is flagged and an item has an error. -/
theorem rejections_ne_nil_iff {result : BulkReply} (h : BulkReply.Denotes value items result) :
    result.rejections ≠ [] ↔ Flagged value ∧ rejected items ≠ [] := by
  have hitems := (forall₂_rejections h.items).length_eq
  -- Without the flag there are no rejections; with it there is one for each item with an error.
  rw [BulkReply.rejections]
  by_cases hflag : result.errors = true
  · rw [if_pos hflag, and_iff_right (h.errors.1 hflag), Ne, Ne, ← List.length_eq_zero_iff,
      ← List.length_eq_zero_iff, hitems]
  · simp [hflag, mt h.errors.2 hflag]

/-- Every rejected document is reported, in order and with what its item says, unless the flag
and the items disagree: exactly then a bulk request passes for a success although the reply tells
of a rejection. -/
theorem bulk_failure_swallowed_iff (client : EngineClient) (replies : List Reply)
    (hbatch : ∃ entry ∈ batch.entries, entry.2 ≠ [])
    (hstatus : 200 ≤ reply.status ∧ reply.status ≤ 208)
    (hreply : Reads (reply.content .post) value items) :
    let outcome := (client.runAgainst (.indexDocuments batch) (.ofReplies (reply :: replies))).1
    (outcome = .ok () ∧ (Flagged value ∨ rejected items ≠ []) ↔
      ¬ (Flagged value ↔ rejected items ≠ [])) ∧
    (outcome ≠ .ok () → ∃ rejections, outcome = .error (.bulkFailure rejections) ∧
      rejections ≠ [] ∧ List.Forall₂ Reports (rejected items) rejections) := by
  intro outcome
  obtain ⟨result, hresult⟩ := Option.isSome_iff_exists.1 hreply.decodes
  have hdenotes := BulkReply.denotes_of_ofJson? hresult hreply.entries
  -- The reply as it was read.
  have hread : decode? BulkReply.fields BulkReply.ofJson? (reply.content .post) = some result := by
    rw [decode?, hreply.denotes]
    exact hresult
  have houtcome : outcome =
      if result.rejections = [] then .ok () else .error (.bulkFailure result.rejections) :=
    runAgainst_of_decode? client replies hbatch hstatus hread
  have hrejections := rejections_ne_nil_iff hdenotes
  -- The request succeeds unless flag and items both tell of a rejection.
  have hok : outcome = .ok () ↔ ¬ (Flagged value ∧ rejected items ≠ []) := by
    rw [← hrejections, not_not, houtcome]
    by_cases hnil : result.rejections = [] <;> simp [hnil]
  refine ⟨?_, fun hfailed => ?_⟩
  · rw [hok]
    tauto
  · have hboth : Flagged value ∧ rejected items ≠ [] := not_not.1 (mt hok.2 hfailed)
    -- A failure carries the rejections that the items report.
    have hne := hrejections.2 hboth
    refine ⟨result.rejections, by rw [houtcome, if_neg hne], hne, ?_⟩
    rw [BulkReply.rejections, if_pos (hdenotes.errors.2 hboth.1)]
    exact forall₂_rejections hdenotes.items

/-- An item of a room that could not be parsed. -/
def unparsedRoom : Json :=
  .ofMembers [("_index", .string "rooms"), ("_id", .string "!r"), ("status", .ofNat 400),
    ("error", .ofMembers [("reason", .string "failed to parse")])]

/-- A bulk reply with a flag and one item. -/
def replyOf (flag : Bool) (item : Json) : Json :=
  .ofMembers [("errors", .bool flag), ("items", .array [.ofMembers [("index", item)]])]

/-- A batch of one room. -/
def oneRoom : BulkBatch :=
  .ofList [("rooms", [⟨"!r", .index, .ofList [("id", .string "!r")]⟩])]

/-- A bulk reply with a rejected room can be read, whatever its flag says. -/
theorem reads_replyOf (flag : Bool) :
    Reads (replyOf flag unparsedRoom).print (replyOf flag unparsedRoom) [unparsedRoom] where
  denotes := by cases flag <;> decide +kernel
  decodes := by cases flag <;> decide +kernel
  entries := by
    have hentries : entriesOf (replyOf flag unparsedRoom) =
        [.object [("index", unparsedRoom)]] := by cases flag <;> decide +kernel
    rw [hentries]
    exact .cons ⟨"index", rfl⟩ .nil

/-- The theorem at a reply whose flag and item agree: the rejection is reported. -/
theorem bulk_failure_swallowed_iff_unparsedRoom :
    let client : EngineClient := ⟨"", none⟩
    let reply : Reply := ⟨200, (replyOf true unparsedRoom).print⟩
    ∃ rejections, (client.runAgainst (.indexDocuments oneRoom) (.ofReplies [reply])).1 =
        .error (.bulkFailure rejections) ∧ List.Forall₂ Reports [unparsedRoom] rejections := by
  intro client reply
  have hrejected : rejected [unparsedRoom] = [unparsedRoom] := by decide
  have hflagged : Flagged (replyOf true unparsedRoom) := rfl
  have hbatch : ∃ entry ∈ oneRoom.entries, entry.2 ≠ [] := by decide
  have hreads : Reads (reply.content .post) (replyOf true unparsedRoom) [unparsedRoom] :=
    reads_replyOf true
  obtain ⟨hswallowed, hreported⟩ :=
    bulk_failure_swallowed_iff client [] hbatch (by decide) hreads
  rw [hrejected] at hswallowed hreported
  obtain ⟨rejections, houtcome, -, hreports⟩ := hreported fun hok =>
    hswallowed.1 ⟨hok, .inl hflagged⟩ (iff_of_true hflagged (by simp))
  exact ⟨rejections, houtcome, hreports⟩

/-- A reply without the flag hides the room that could not be parsed. -/
theorem unflagged_rejection_swallowed :
    let client : EngineClient := ⟨"", none⟩
    let value := replyOf false unparsedRoom
    Reads value.print value [unparsedRoom] ∧ rejected [unparsedRoom] = [unparsedRoom] ∧
      (client.runAgainst (.indexDocuments oneRoom) (.ofReplies [⟨200, value.print⟩])).1 =
        .ok () := by
  refine ⟨reads_replyOf false, ?_, ?_⟩ <;> decide +kernel

end ChatIndex.EngineClient
