import ChatIndex.Config

/-!
# What the settings can be relied on for

A variable with nothing but white space in it is the same as one that is not there, for every
variable and for the errors too: all of them are read through `nonBlank`.  What is read is fit for
use, whatever the variables hold: no name or address is blank, credentials are whole, and the size
of a backfill request is in its bounds.

* `nonBlank_congr`         blank variables are read as missing ones
* `ofSettings_eq_ok_iff`   settings are read part by part
* `Usable`                 what the rest of the service relies on
* `blank_means_missing`    both, for every source of variables
-/

namespace ChatIndex.Config

variable {lookup lookup' var : String → Option String} {key text : String} {config : Config}

/-! ## Variables -/

/-- Whether a variable counts as missing: it is not there, or it has nothing but white space. -/
def IsMissing (value : Option String) : Prop :=
  ∀ text ∈ value, Text.isBlank text = true

/-- Two sources of variables that differ only in variables that count as missing in both. -/
def DifferInBlanks (lookup lookup' : String → Option String) : Prop :=
  ∀ key, lookup key = lookup' key ∨ IsMissing (lookup key) ∧ IsMissing (lookup' key)

/-- What is left of a source are its variables that hold more than white space. -/
theorem nonBlank_eq_some_iff :
    nonBlank lookup key = some text ↔ lookup key = some text ∧ Text.isBlank text = false := by
  simp [nonBlank, Option.filter_eq_some_iff]

/-- The others count as missing. -/
theorem nonBlank_eq_none_iff : nonBlank lookup key = none ↔ IsMissing (lookup key) := by
  simp [nonBlank, Option.filter_eq_none_iff, IsMissing]

/-- What is left of a source cannot tell a blank variable from a missing one. -/
theorem nonBlank_congr (h : DifferInBlanks lookup lookup') :
    nonBlank lookup = nonBlank lookup' := by
  funext key
  rcases h key with hsame | ⟨hmissing, hmissing'⟩
  · rw [nonBlank, nonBlank, hsame]
  · rw [nonBlank_eq_none_iff.2 hmissing, nonBlank_eq_none_iff.2 hmissing']

/-- Neither a variable nor its default is blank. -/
theorem isBlank_getD_nonBlank {default : String} (hdefault : Text.isBlank default = false) :
    Text.isBlank ((nonBlank lookup key).getD default) = false := by
  cases hvalue : nonBlank lookup key with
  | none => exact hdefault
  | some text => exact (nonBlank_eq_some_iff.1 hvalue).2

/-! ## Settings part by part -/

/-- Whether every part of the settings is what is read from the variables. -/
structure ReadFrom (var : String → Option String) (config : Config) : Prop where
  databaseUrl : require var "DATABASE_URL" = .ok config.databaseUrl
  databaseMaxConnections :
    parseOr (Text.boundedNat? (Nat.pow 2 32 - 1)) var "DATABASE_MAX_CONNECTIONS" 10 =
      .ok config.databaseMaxConnections
  port : parseOr (Text.boundedNat? (Nat.pow 2 16 - 1)) var "PORT" 8080 = .ok config.port
  url : require var "SEARCH_ENGINE_URL" = .ok config.engine.url
  credentials : credentials var = .ok (config.engine.username, config.engine.password)
  skipTlsVerify :
    parseOr bool? var "SEARCH_ENGINE_SKIP_TLS_VERIFY" false = .ok config.engine.skipTlsVerify
  backfillBatchSize : batchSize var = .ok config.backfillBatchSize
  displayNameScope : scope var = .ok config.displayNameScope
  bootstrapOnStartup :
    parseOr bool? var "SEARCH_BOOTSTRAP_ON_STARTUP" true = .ok config.bootstrapOnStartup
  indices : config.indices = indexNames var
  adminToken : config.adminToken = var "SEARCH_ADMIN_TOKEN"
  events : config.events = eventSource? var

/-- Each part that can be read was read. -/
theorem exists_of_bind_eq_ok {ε α β : Type} {x : Except ε α} {f : α → Except ε β} {b : β}
    (h : (x >>= f) = .ok b) : ∃ a, x = .ok a ∧ f a = .ok b := by
  cases x with
  | error e => cases h
  | ok a => exact ⟨a, rfl, h⟩

/-- Settings are read just if each of their parts can be. -/
theorem ofSettings_eq_ok_iff : ofSettings var = .ok config ↔ ReadFrom var config := by
  constructor
  · intro h
    unfold ofSettings at h
    -- The parts are read in turn, and the first that cannot be read would be the error.
    obtain ⟨databaseUrl, hdatabaseUrl, h⟩ := exists_of_bind_eq_ok h
    obtain ⟨maxConnections, hmaxConnections, h⟩ := exists_of_bind_eq_ok h
    obtain ⟨port, hport, h⟩ := exists_of_bind_eq_ok h
    obtain ⟨url, hurl, h⟩ := exists_of_bind_eq_ok h
    obtain ⟨⟨username, password⟩, hcredentials, h⟩ := exists_of_bind_eq_ok h
    obtain ⟨skipTlsVerify, hskip, h⟩ := exists_of_bind_eq_ok h
    obtain ⟨size, hsize, h⟩ := exists_of_bind_eq_ok h
    obtain ⟨scope, hscope, h⟩ := exists_of_bind_eq_ok h
    obtain ⟨bootstrap, hbootstrap, h⟩ := exists_of_bind_eq_ok h
    cases h
    exact ⟨hdatabaseUrl, hmaxConnections, hport, hurl, hcredentials, hskip, hsize, hscope,
      hbootstrap, rfl, rfl, rfl⟩
  · intro h
    obtain ⟨_, _, _, ⟨_, _, _, _⟩, _, _, _, _, _, _⟩ := config
    obtain ⟨hdatabaseUrl, hmaxConnections, hport, hurl, hcredentials, hskip, hsize, hscope,
      hbootstrap, rfl, rfl, rfl⟩ := h
    -- Where no part fails, all of them are put together as they are.
    rw [ofSettings, hdatabaseUrl, hmaxConnections, hport, hurl, hcredentials, hskip, hsize, hscope,
      hbootstrap]
    rfl

/-! ### What a part that was read is like -/

/-- A required part is the text of its variable. -/
theorem var_of_require {value : String} (h : require var key = .ok value) :
    var key = some value := by
  unfold require at h
  split at h <;> cases h
  assumption

/-- A name is never read without a password, or a password without a name. -/
theorem isSome_of_credentials {username password : Option String}
    (h : credentials var = .ok (username, password)) :
    username.isSome = password.isSome := by
  unfold credentials at h
  split at h <;> cases h <;> rfl

/-- A batch size that is read is in its bounds. -/
theorem bounds_of_batchSize {size : Nat} (h : batchSize var = .ok size) :
    1 ≤ size ∧ size ≤ maxBackfillBatchSize := by
  obtain ⟨given, -, h⟩ := exists_of_bind_eq_ok h
  split at h
  · next hbounds =>
    cases h
    exact hbounds
  · cases h

/-! ## Settings that can be used -/

/-- What the service relies on in its settings. -/
structure Usable (lookup : String → Option String) (config : Config) : Prop where
  databaseUrl : Text.isBlank config.databaseUrl = false
  engineUrl : Text.isBlank config.engine.url = false
  rooms : Text.isBlank config.indices.rooms = false
  messages : Text.isBlank config.indices.messages = false
  mails : Text.isBlank config.indices.mails = false
  credentials : config.engine.username.isSome = config.engine.password.isSome
  batchSize : 1 ≤ config.backfillBatchSize ∧ config.backfillBatchSize ≤ 10000
  adminToken : ∀ token ∈ config.adminToken, Text.isBlank token = false
  events_iff : config.events.isSome = true ↔ ¬ IsMissing (lookup "KAFKA_BROKERS")
  events : ∀ source ∈ config.events, Text.isBlank source.brokers = false ∧
    Text.isBlank source.groupId = false ∧ Text.isBlank source.topic = false

/-- Events are consumed just if brokers are given. -/
theorem isSome_eventSource?_iff :
    (eventSource? (nonBlank lookup)).isSome = true ↔ ¬ IsMissing (lookup "KAFKA_BROKERS") := by
  rw [eventSource?, Option.isSome_map, ← nonBlank_eq_none_iff, Option.isSome_iff_ne_none]

/-- No part of the source of events is blank. -/
theorem isBlank_of_mem_eventSource? {source : EventSource}
    (h : source ∈ eventSource? (nonBlank lookup)) :
    Text.isBlank source.brokers = false ∧ Text.isBlank source.groupId = false ∧
      Text.isBlank source.topic = false := by
  obtain ⟨brokers, hbrokers, rfl⟩ := Option.map_eq_some_iff.1 h
  exact ⟨(nonBlank_eq_some_iff.1 hbrokers).2, isBlank_getD_nonBlank (by decide),
    isBlank_getD_nonBlank (by decide)⟩

/-- Settings that are read from what is left of a source can be used. -/
theorem ReadFrom.usable (h : ReadFrom (nonBlank lookup) config) : Usable lookup config where
  databaseUrl := (nonBlank_eq_some_iff.1 (var_of_require h.databaseUrl)).2
  engineUrl := (nonBlank_eq_some_iff.1 (var_of_require h.url)).2
  rooms := by rw [h.indices]; exact isBlank_getD_nonBlank (by decide)
  messages := by rw [h.indices]; exact isBlank_getD_nonBlank (by decide)
  mails := by rw [h.indices]; exact isBlank_getD_nonBlank (by decide)
  credentials := isSome_of_credentials h.credentials
  batchSize := bounds_of_batchSize h.backfillBatchSize
  adminToken := by
    rw [h.adminToken]
    intro token htoken
    exact (nonBlank_eq_some_iff.1 htoken).2
  events_iff := by rw [h.events]; exact isSome_eventSource?_iff
  events := by
    rw [h.events]
    intro source hsource
    exact isBlank_of_mem_eventSource? hsource

/-- A blank variable gives the same settings as a missing one, or the same error; and settings that
are read from any variables can be used. -/
theorem blank_means_missing :
    (∀ lookup lookup', DifferInBlanks lookup lookup' → ofLookup lookup = ofLookup lookup') ∧
      ∀ lookup config, ofLookup lookup = .ok config → Usable lookup config := by
  constructor
  · intro lookup lookup' hdiffer
    rw [ofLookup, ofLookup, nonBlank_congr hdiffer]
  · intro lookup config hread
    exact (ofSettings_eq_ok_iff.1 hread).usable

/-- The least that has to be configured, a source of events, and two variables that may be
blank. -/
def withBlanks (blank : Option String) : String → Option String
  | "DATABASE_URL" => some "postgres://localhost/chat"
  | "SEARCH_ENGINE_URL" => some "http://localhost:9200"
  | "KAFKA_BROKERS" => some "localhost:9092"
  | "KAFKA_SEARCH_GROUP_ID" | "PORT" => blank
  | _ => none

/-- A blank group and a blank port give the settings that they give when missing. -/
theorem blank_means_missing_withBlanks :
    let missing := withBlanks none
    let blank := withBlanks (some " \t")
    DifferInBlanks missing blank ∧ ofLookup missing = ofLookup blank ∧
      ∃ config, ofLookup blank = .ok config ∧ Usable blank config ∧
        config.events = some ⟨"localhost:9092", "room-search-service", "room_events"⟩ := by
  intro missing blank
  have hdiffer : DifferInBlanks missing blank := by
    intro key
    unfold missing blank withBlanks
    split
    -- The two variables that are blank on one side.
    case h_4 | h_5 => exact .inr ⟨by simp [IsMissing], by simp [IsMissing]; decide⟩
    all_goals exact .inl rfl
  have hread : ∃ config, ofLookup blank = .ok config ∧
      config.events = some ⟨"localhost:9092", "room-search-service", "room_events"⟩ := by
    refine ⟨⟨"postgres://localhost/chat", 10, 8080, ⟨"http://localhost:9200", none, none, false⟩,
      ⟨"rooms", "messages", "mails"⟩, true, 500, .everywhere, none,
      some ⟨"localhost:9092", "room-search-service", "room_events"⟩⟩, ?_, rfl⟩
    rfl
  obtain ⟨config, hconfig, hevents⟩ := hread
  exact ⟨hdiffer, blank_means_missing.1 _ _ hdiffer, config, hconfig,
    blank_means_missing.2 _ _ hconfig, hevents⟩

end ChatIndex.Config
