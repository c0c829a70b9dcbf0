import ChatIndex.Http.Routes
import ChatIndex.Proofs.Visibility

/-!
# Whom the paths act for

A search is made only for an account that the token of the request belongs to, and only for a
text that may be searched for; whatever is missing is answered before the engine is asked.  A
restore is made only for a request with the administrative token that is configured.

* `bearerToken?_eq_some_iff`       what a header has to look like
* `cases_of_ends_caller`           how the account of a request is found, or why it is not
* `searchServed_of_ends_search`    what a search does with the account and the body
* `paths_act_for_resolved_callers` both paths, whatever the two sides answer
-/

namespace ChatIndex.Http

open Attempt

/-! ## Tokens -/

/-- Whether a header names a token: a scheme, a blank, and the token in the midst of white space.
The scheme is `bearer`, up to the case of its letters. -/
structure NamesToken (value token : String) : Prop where
  readable : isReadable value = true
  parts : ∃ scheme rest : List Char, value.toList = scheme ++ ' ' :: rest ∧ ' ' ∉ scheme ∧
    Text.asciiLower (String.ofList scheme) = "bearer" ∧
    token = String.ofList (Text.trimChars rest)
  nonempty : token ≠ ""

/-- Whether a request names a token in the first of its `authorization` headers. -/
def Carries (r : Request) (token : String) : Prop :=
  ∃ value, r.header? "authorization" = some value ∧ NamesToken value token

/-- The split is at the first blank. -/
theorem splitBlank?_eq_some_iff {cs before after : List Char} :
    splitBlank? cs = some (before, after) ↔ cs = before ++ ' ' :: after ∧ ' ' ∉ before := by
  induction cs generalizing before with
  | nil => simp [splitBlank?]
  | cons c cs ih =>
    rw [splitBlank?]
    by_cases hc : c = ' '
    · -- The first blank is here, so nothing stands before it.
      subst hc
      cases before with
      | nil => simp
      | cons b before =>
        rw [if_pos rfl]
        constructor
        · simp
        · rintro ⟨heq, hnot⟩
          cases heq
          simp at hnot
    · rw [if_neg hc]
      cases before with
      | nil => simp [hc]
      | cons b before =>
        -- The blank is further on, and what was passed is put in front.
        rw [Option.map_eq_some_iff]
        constructor
        · rintro ⟨⟨before', after'⟩, hsplit, heq⟩
          cases heq
          -- Nothing that was passed is a blank.
          obtain ⟨rfl, hnot⟩ := ih.1 hsplit
          exact ⟨rfl, by simp [hnot, Ne.symm hc]⟩
        · rintro ⟨heq, hnot⟩
          cases heq
          have hnot : ' ' ∉ before := fun hmem => hnot (List.mem_cons_of_mem _ hmem)
          exact ⟨(before, after), ih.2 ⟨rfl, hnot⟩, rfl⟩

/-- The scheme is compared in lower case. -/
private theorem eqIgnoreAsciiCase_bearer_iff {scheme : String} :
    Text.eqIgnoreAsciiCase scheme "bearer" = true ↔ Text.asciiLower scheme = "bearer" := by
  have hlower : Text.asciiLower "bearer" = "bearer" := Text.asciiLower_eq_iff.2 (by decide)
  rw [Text.eqIgnoreAsciiCase, hlower, beq_iff_eq]

/-- A token is taken from a header just if the header names it. -/
theorem tokenOf?_eq_some_iff {value token : String} :
    tokenOf? value = some token ↔ NamesToken value token := by
  constructor
  · intro h
    rw [tokenOf?] at h
    split at h
    · cases h
    · next hreadable =>
      split at h
      · cases h
      · -- The header falls apart at its first blank, into the scheme and the token.
        next scheme rest hsplit =>
        obtain ⟨hvalue, hscheme⟩ := splitBlank?_eq_some_iff.1 hsplit
        simp only [Option.ite_none_right_eq_some, Bool.and_eq_true, Option.some.injEq,
          eqIgnoreAsciiCase_bearer_iff] at h
        obtain ⟨⟨hbearer, hnonempty⟩, rfl⟩ := h
        exact ⟨by simpa using hreadable, ⟨scheme, rest, hvalue, hscheme, hbearer, rfl⟩,
          by simpa using hnonempty⟩
  · rintro ⟨hreadable, ⟨scheme, rest, hvalue, hscheme, hbearer, rfl⟩, hnonempty⟩
    have hsplit : splitBlank? value.toList = some (scheme, rest) :=
      splitBlank?_eq_some_iff.2 ⟨hvalue, hscheme⟩
    have hbearer := eqIgnoreAsciiCase_bearer_iff.2 hbearer
    have hnonempty : Text.trimChars rest ≠ [] := by simpa using hnonempty
    simp [tokenOf?, hreadable, hsplit, hbearer, hnonempty]

/-- The token of a request is the one that it carries. -/
theorem bearerToken?_eq_some_iff {r : Request} {token : String} :
    r.bearerToken? = some token ↔ Carries r token := by
  rw [Request.bearerToken?, Option.bind_eq_some_iff]
  simp only [tokenOf?_eq_some_iff, Carries]

/-! ## Accounts -/

variable {r : Request} {es : List Exchange} {ls : List LogRecord}

/-- Whether the account of a request was found in these exchanges: it is the one that the token of
the request belongs to, with its address. -/
def Resolved (r : Request) (caller : Caller) (es : List Exchange) : Prop :=
  ∃ token, Carries r token ∧
    es = [⟨.read (.userOfToken token), .ok (some caller.userId)⟩,
      ⟨.read (.emailOfUser caller.userId), .ok caller.email⟩]

/-- Why no account was found in these exchanges. -/
inductive Unresolved (r : Request) : List Exchange → ServiceError → Prop
  | missing (h : ∀ token, ¬ Carries r token) : Unresolved r [] .missingCredentials
  | unknown (token) (h : Carries r token) :
      Unresolved r [⟨.read (.userOfToken token), .ok none⟩] .unknownToken
  | unreadToken (token e) (h : Carries r token) :
      Unresolved r [⟨.read (.userOfToken token), .error e⟩] (.ofStoreError e)
  | unreadEmail (token userId e) (h : Carries r token) :
      Unresolved r
        [⟨.read (.userOfToken token), .ok (some userId)⟩, ⟨.read (.emailOfUser userId), .error e⟩]
        (.ofStoreError e)

/-- A question whose failure is one of the service. -/
theorem cases_of_ends_read_adapt {α : Type} {c : ReadCall} {f : c.Value → Attempt ServiceError α}
    {answer : Except ServiceError α}
    (h : ((read c).adapt callFailure >>= f).run.Ends es ls answer) :
    (∃ e, es = [⟨.read c, .error e⟩] ∧ answer = .error (.ofStoreError e)) ∨
    ∃ value es', es = ⟨.read c, .ok value⟩ :: es' ∧ (f value).run.Ends es' ls answer := by
  rw [ExceptT.run_bind] at h
  change (Course.call (Call.read c) _).Ends es ls answer at h
  rw [Course.ends_call] at h
  obtain ⟨reply, es', rfl, hrest⟩ := h
  cases reply with
  | error e =>
    obtain ⟨rfl, -, rfl⟩ := Course.ends_done.1 hrest
    exact .inl ⟨e, rfl, rfl⟩
  | ok value => exact .inr ⟨value, es', rfl, hrest⟩

/-- The account of a request is found, or there is a reason why not. -/
theorem cases_of_ends_caller {answer : Except ServiceError Caller}
    (h : (caller r).run.Ends es ls answer) :
    (∃ e, Unresolved r es e ∧ answer = .error e) ∨
    ∃ caller, Resolved r caller es ∧ answer = .ok caller := by
  rw [caller] at h
  cases htoken : r.bearerToken? with
  | none =>
    rw [htoken] at h
    obtain ⟨rfl, -, rfl⟩ := ends_throw.1 h
    refine .inl ⟨_, .missing fun token hcarries => ?_, rfl⟩
    cases htoken.symm.trans (bearerToken?_eq_some_iff.2 hcarries)
  | some token =>
    have hcarries := bearerToken?_eq_some_iff.1 htoken
    rw [htoken] at h
    -- Two questions follow, and the second one is asked only for an account that is known.
    obtain ⟨e, rfl, rfl⟩ | ⟨userId?, es', rfl, hrest⟩ := cases_of_ends_read_adapt h
    · exact .inl ⟨_, .unreadToken token e hcarries, rfl⟩
    cases (userId? : Option String) with
    | none =>
      obtain ⟨rfl, -, rfl⟩ := ends_throw.1 hrest
      exact .inl ⟨_, .unknown token hcarries, rfl⟩
    | some userId =>
      obtain ⟨e, rfl, rfl⟩ | ⟨email, es'', rfl, hlast⟩ := cases_of_ends_read_adapt hrest
      · exact .inl ⟨_, .unreadEmail token userId e hcarries, rfl⟩
      · obtain ⟨rfl, -, rfl⟩ := ends_pure.1 hlast
        exact .inr ⟨⟨userId, email⟩, ⟨token, hcarries, rfl⟩, rfl⟩

/-! ## Texts to search for -/

/-- Whether a body asks for a text that may be searched for: the string `searchValue` of an object,
not blank, and with a pattern that the engine takes. -/
structure AsksFor (body : List UInt8) (text : String) : Prop where
  member : ∃ value, Json.parse? body = some value ∧
    value.get? "searchValue" = some (.string text)
  notBlank : Text.isBlank text = false
  short : (Search.containsPattern text).length ≤ Search.maxPatternLength

/-- The text of a body is the string under `searchValue`. -/
theorem searchValue_eq_ok_iff {body : List UInt8} {text : String} :
    searchValue body = .ok text ↔
      ∃ value, Json.parse? body = some value ∧
        value.get? "searchValue" = some (.string text) := by
  rw [searchValue]
  cases Json.parse? body with
  | none => simp
  | some value =>
    have hstring : value.getString? "searchValue" = some text ↔
        value.get? "searchValue" = some (.string text) := by
      rw [Json.getString?, Option.bind_eq_some_iff]
      constructor
      · rintro ⟨member, hmember, htext⟩
        -- Only a string has a text.
        cases member <;> cases htext
        exact hmember
      · intro h
        exact ⟨_, h, rfl⟩
    cases h : value.getString? "searchValue" with
    | none => simp [← hstring, h]
    | some text' => simp [← hstring, h]

/-- What is wrong with a body is answered with status 400. -/
theorem status_of_searchValue {body : List UInt8} {e : ServiceError}
    (h : searchValue body = .error e) : e.status = 400 := by
  rw [searchValue] at h
  split at h
  · cases h
    rfl
  · split at h
    · cases h
    · cases h
      rfl

/-! ## Searching -/

/-- Whether a response reports a failure of a status, and nothing else. -/
def Refused (now : String) (status : Nat) (response : Response) : Prop :=
  ∃ e : ServiceError, e.status = status ∧ response = .failure now e

/-- What a search comes to as a response: its lists, or a failure of the side that failed. -/
def Conveys (now : String) (response : Response) : Except QueryError Search.Results → Prop
  | .ok results => response = .ok results.toJson
  | .error (.call (.engine _)) => Refused now 502 response
  | .error (.call (.store _)) => Refused now 500 response
  | .error (.invalid _) => False

/-- The response that an answer is sent as. -/
def Response.ofAnswer (now : String) : Except ServiceError Response → Response
  | .ok response => response
  | .error e => .failure now e

/-- A failure is sent with its own status. -/
theorem refused_ofAnswer (now : String) (e : ServiceError) :
    Refused now e.status (.ofAnswer now (.error e)) :=
  ⟨e, rfl, rfl⟩

/-- What a search does: the engine is asked for an account that was found and a text that the body
asks for, or it is not asked because one of them is missing. -/
structure SearchServed (config : Config) (now : String) (r : Request) (es : List Exchange)
    (response : Response) : Prop where
  asked : engineCalls es ≠ [] →
    ∃ caller text before after ls answer, Resolved r caller before ∧ AsksFor r.body text ∧
      es = before ++ after ∧
      (Search.run config.indices text caller.userId caller.email).run.Ends after ls answer ∧
      Conveys now response answer
  unasked : engineCalls es = [] →
    ((∀ token, ¬ Carries r token) ∨
        ∃ token, Carries r token ∧ es = [⟨.read (.userOfToken token), .ok none⟩]) ∧
      Refused now 401 response ∨
    (∃ before question failure, es = before ++ [⟨.read question, .error failure⟩]) ∧
      Refused now 500 response ∨
    (∃ caller, Resolved r caller es) ∧ (¬ ∃ text, AsksFor r.body text) ∧ Refused now 400 response

/-- Without an account the engine is not asked. -/
theorem Unresolved.searchServed {config : Config} {now : String} {e : ServiceError}
    (h : Unresolved r es e) : SearchServed config now r es (.ofAnswer now (.error e)) := by
  cases h with
  | missing h =>
    exact ⟨fun hasked => absurd rfl hasked,
      fun _ => .inl ⟨.inl h, refused_ofAnswer now .missingCredentials⟩⟩
  | unknown token h =>
    exact ⟨fun hasked => absurd rfl hasked,
      fun _ => .inl ⟨.inr ⟨token, h, rfl⟩, refused_ofAnswer now .unknownToken⟩⟩
  | unreadToken token e h =>
    exact ⟨fun hasked => absurd rfl hasked,
      fun _ => .inr (.inl ⟨⟨[], _, e, rfl⟩, refused_ofAnswer now (.ofStoreError e)⟩)⟩
  | unreadEmail token userId e h =>
    exact ⟨fun hasked => absurd rfl hasked,
      fun _ => .inr (.inl ⟨⟨[_], _, e, rfl⟩, refused_ofAnswer now (.ofStoreError e)⟩)⟩

/-- With an account and a body that asks for nothing the engine is not asked either. -/
theorem Resolved.searchServed_of_not_asksFor {config : Config} {now : String} {caller : Caller}
    {e : ServiceError} (h : Resolved r caller es) (hbody : ¬ ∃ text, AsksFor r.body text)
    (hstatus : e.status = 400) : SearchServed config now r es (.ofAnswer now (.error e)) := by
  refine ⟨fun hasked => ?_, fun _ => .inr (.inr ⟨⟨caller, h⟩, hbody, e, hstatus, rfl⟩)⟩
  -- The exchanges are two questions to the read model.
  obtain ⟨token, -, rfl⟩ := h
  exact absurd rfl hasked

/-- What becomes of a search is logged if it fails, and answered. -/
theorem cases_of_ends_searchFor {names : IndexNames} {caller : Caller} {text : String}
    {answer : Except ServiceError Response}
    (h : (searchFor names caller text).run.Ends es ls answer) :
    ∃ ls' result, (Search.run names text caller.userId caller.email).run.Ends es ls' result ∧
      ((∃ results, result = .ok results ∧ answer = .ok (.ok results.toJson)) ∨
        ∃ e, result = .error e ∧ answer = .error (.ofQueryError e)) := by
  rw [searchFor, ends_lift_bind] at h
  obtain ⟨result, es₁, es₂, ls₁, ls₂, hsearch, hrest, rfl, rfl⟩ := h
  cases result with
  | ok results =>
    obtain ⟨rfl, -, rfl⟩ := ends_pure.1 hrest
    rw [List.append_nil]
    exact ⟨ls₁, _, hsearch, .inl ⟨results, rfl, rfl⟩⟩
  | error e =>
    obtain ⟨_, -, hlast⟩ := ends_record_bind.1 hrest
    obtain ⟨rfl, -, rfl⟩ := ends_throw.1 hlast
    rw [List.append_nil]
    exact ⟨ls₁, _, hsearch, .inr ⟨e, rfl, rfl⟩⟩

/-- A search for an account that was found. -/
theorem Resolved.searchServed {config : Config} {now : String} {caller : Caller} {text : String}
    {before : List Exchange} {answer : Except ServiceError Response} (h : Resolved r caller before)
    (hbody : ∃ value, Json.parse? r.body = some value ∧
      value.get? "searchValue" = some (.string text))
    (hends : (searchFor config.indices caller text).run.Ends es ls answer) :
    SearchServed config now r (before ++ es) (.ofAnswer now answer) := by
  obtain ⟨ls', result, hsearch, hanswer⟩ := cases_of_ends_searchFor hends
  have hrun := hsearch
  rw [Search.run, Search.runWith] at hrun
  cases hpattern : Search.pattern text with
  | error e =>
    -- The text may not be searched for, so nobody is asked.
    obtain ⟨reason, rfl⟩ := Search.eq_invalid_of_pattern hpattern
    rw [hpattern] at hrun
    obtain ⟨rfl, -, rfl⟩ := ends_throw.1 hrun
    obtain ⟨_, hok, -⟩ | ⟨e, he, rfl⟩ := hanswer
    · cases hok
    cases he
    rw [List.append_nil]
    refine h.searchServed_of_not_asksFor ?_ rfl
    rintro ⟨text', hasks⟩
    obtain ⟨value, hparse, hmember⟩ := hbody
    obtain ⟨value', hparse', hmember'⟩ := hasks.member
    cases hparse.symm.trans hparse'
    cases hmember.symm.trans hmember'
    cases hpattern.symm.trans (Search.pattern_eq_ok_iff.2 ⟨⟨hasks.notBlank, hasks.short⟩, rfl⟩)
  | ok pattern =>
    obtain ⟨⟨hblank, hshort⟩, rfl⟩ := Search.pattern_eq_ok_iff.1 hpattern
    rw [hpattern] at hrun
    obtain ⟨r', hresults, rfl⟩ := Course.ends_map.1 hrun
    -- The first thing that is done is to ask the engine.
    have hasked : engineCalls es ≠ [] := by
      rw [Search.results] at hresults
      obtain ⟨e, rfl, -, -⟩ | ⟨lists, es₁, rfl, -⟩ := ends_engine_bind.1 hresults
      · simp [engineCalls]
      · simp [engineCalls]
    refine ⟨fun _ => ⟨caller, text, before, es, ls', _, h, ⟨hbody, hblank, hshort⟩, rfl, hsearch,
      ?_⟩, fun hunasked => ?_⟩
    · -- ⟨e, he, rfl⟩ := hanswer | A failure is answered with the status of the side that failed.
      obtain ⟨results, hok, rfl⟩ | ⟨e, he, rfl⟩ := hanswer
      · rw [hok]
        rfl
      · cases r' with
        | ok results => cases he
        | error failure =>
          cases he
          cases failure with
          | engine e => exact refused_ofAnswer now (.ofEngineError e)
          | store e => exact refused_ofAnswer now (.ofStoreError e)
    · -- The engine was asked, so the other half of the statement has nothing to say.
      rw [engineCalls_append] at hunasked
      exact absurd (List.append_eq_nil_iff.1 hunasked).2 hasked

/-- A search with a body that is read, whatever the two sides answer. -/
theorem searchServed_of_ends_search {config : Config} {now : String}
    {answer : Except ServiceError Response} (hbody : r.bodyFault? = none)
    (h : (search config r).run.Ends es ls answer) :
    SearchServed config now r es (.ofAnswer now answer) := by
  rw [search, ends_bind] at h
  obtain ⟨e, hcaller, rfl⟩ | ⟨caller, es₁, es₂, ls₁, ls₂, hcaller, hrest, rfl, -⟩ := h
  · -- ⟨caller, -, hok⟩ := cases_of_ends_caller hcaller | No account: the reason is the answer.
    obtain ⟨e', hunresolved, he⟩ | ⟨caller, -, hok⟩ := cases_of_ends_caller hcaller
    · cases he
      exact hunresolved.searchServed
    · cases hok
  obtain ⟨e', -, he⟩ | ⟨caller', hresolved, hok⟩ := cases_of_ends_caller hcaller
  · cases he
  cases hok
  rw [hbody] at hrest
  dsimp only at hrest
  cases hvalue : searchValue r.body with
  | error e =>
    rw [hvalue] at hrest
    obtain ⟨rfl, -, rfl⟩ := ends_throw.1 hrest
    rw [List.append_nil]
    refine hresolved.searchServed_of_not_asksFor ?_ (status_of_searchValue hvalue)
    rintro ⟨text, hasks⟩
    cases hvalue.symm.trans (searchValue_eq_ok_iff.2 hasks.member)
  | ok text =>
    rw [hvalue] at hrest
    exact hresolved.searchServed (searchValue_eq_ok_iff.1 hvalue) hrest

/-! ## Restoring -/

/-- Whether a request carries the administrative token, if there is one. -/
def Admitted (config : Config) (r : Request) : Prop :=
  ∃ token, config.adminToken = some token ∧ Carries r token

/-- What a restore does: it is run for a request with the administrative token, and nobody is asked
for anything for any other request. -/
structure RestoreServed (config : Config) (now : String) (r : Request) (es : List Exchange)
    (response : Response) : Prop where
  admitted : Admitted config r → ∃ ls answer,
    (Bootstrap.run config.backfillBatchSize config.indices).run.Ends es ls answer ∧
      ((∃ report, answer = .ok report) ∧ response = ⟨204, .empty⟩ ∨
        (∃ e, answer = .error e) ∧ Refused now 500 response)
  refused : ¬ Admitted config r → es = [] ∧ Refused now 403 response

/-- The token is looked at without asking anybody. -/
theorem cases_of_ends_authorize {config : Config} {answer : Except ServiceError Unit}
    (h : (authorize config r).run.Ends es ls answer) :
    es = [] ∧ (Admitted config r ∧ answer = .ok () ∨
      ¬ Admitted config r ∧ ∃ e, e.status = 403 ∧ answer = .error e) := by
  rw [authorize] at h
  cases htoken : config.adminToken with
  | none =>
    rw [htoken] at h
    obtain ⟨rfl, -, rfl⟩ := ends_throw.1 h
    refine ⟨rfl, .inr ⟨?_, .restoreDisabled, rfl, rfl⟩⟩
    rintro ⟨token, hsome, -⟩
    -- No token is configured, so the path is switched off.
    cases htoken.symm.trans hsome
  | some token =>
    rw [htoken] at h
    dsimp only at h
    by_cases hcarries : Carries r token
    · rw [if_pos (bearerToken?_eq_some_iff.2 hcarries)] at h
      obtain ⟨rfl, -, rfl⟩ := ends_pure.1 h
      exact ⟨rfl, .inl ⟨⟨token, htoken, hcarries⟩, rfl⟩⟩
    · rw [if_neg (mt bearerToken?_eq_some_iff.1 hcarries)] at h
      obtain ⟨_, -, hlast⟩ := ends_record_bind.1 h
      obtain ⟨rfl, -, rfl⟩ := ends_throw.1 hlast
      refine ⟨rfl, .inr ⟨?_, .adminTokenInvalid, rfl, rfl⟩⟩
      rintro ⟨token', hsome, hcarries'⟩
      cases htoken.symm.trans hsome
      exact hcarries hcarries'

/-- A restore, whatever the two sides answer. -/
theorem restoreServed_of_ends_restore {config : Config} {now : String}
    {answer : Except ServiceError Response} (h : (restore config r).run.Ends es ls answer) :
    RestoreServed config now r es (.ofAnswer now answer) := by
  rw [restore, ends_bind] at h
  obtain ⟨e, hauthorize, rfl⟩ | ⟨_, es₁, es₂, ls₁, ls₂, hauthorize, hrest, rfl, -⟩ := h
  · -- A caller who is not admitted gets the refusal, and nothing else is done.
    obtain ⟨rfl, ⟨-, hok⟩ | ⟨hnot, e', hstatus, he⟩⟩ := cases_of_ends_authorize hauthorize
    · cases hok
    · cases he
      exact ⟨fun hadmitted => absurd hadmitted hnot, fun _ => ⟨rfl, e, hstatus, rfl⟩⟩
  · obtain ⟨rfl, ⟨hadmitted, -⟩ | ⟨-, e', -, he⟩⟩ := cases_of_ends_authorize hauthorize
    · refine ⟨fun _ => ?_, fun hnot => absurd hadmitted hnot⟩
      -- The restore has run; its report or its failure is logged and answered.
      rw [ends_lift_bind] at hrest
      obtain ⟨result, es₁, es₃, ls₃, ls₄, hrun, hlast, rfl, -⟩ := hrest
      cases result with
      | ok report =>
        obtain ⟨_, -, hlast⟩ := ends_record_bind.1 hlast
        obtain ⟨rfl, -, rfl⟩ := ends_pure.1 hlast
        rw [List.nil_append, List.append_nil]
        exact ⟨ls₃, _, hrun, .inl ⟨⟨report, rfl⟩, rfl⟩⟩
      | error e =>
        obtain ⟨_, -, hlast⟩ := ends_record_bind.1 hlast
        obtain ⟨rfl, -, rfl⟩ := ends_throw.1 hlast
        rw [List.nil_append, List.append_nil]
        exact ⟨ls₃, _, hrun, .inr ⟨⟨e, rfl⟩, refused_ofAnswer now .restoreFailed⟩⟩
    · cases he

/-! ## Requests over HTTP -/

/-- What a request asks for, by its method and its path. -/
def Request.asks? (r : Request) : Option Route :=
  route? r.method (String.ofList (decodePath r.path.toList))

/-- A request is answered with what comes of the path that it asks for. -/
theorem ends_respond {config : Config} {now : String} {route : Route} {response : Response}
    (hroute : r.asks? = some route) (h : (respond config now r).Ends es ls response) :
    ∃ answer, (serve config r route).run.Ends es ls answer ∧ response = .ofAnswer now answer := by
  have hrespond : respond config now r =
      ((serve config r route).run >>= fun answer => .done (.ofAnswer now answer)) := by
    rw [Request.asks?] at hroute
    rw [respond, hroute]
    refine congrArg (_ >>= ·) (funext fun answer => ?_)
    cases answer <;> rfl
  rw [hrespond, Course.ends_bind] at h
  obtain ⟨answer, es₁, es₂, ls₁, ls₂, hserve, hdone, rfl, rfl⟩ := h
  obtain ⟨rfl, rfl, rfl⟩ := Course.ends_done.1 hdone
  rw [List.append_nil, List.append_nil]
  exact ⟨answer, hserve, rfl⟩

/-- A search asks the engine for an account that was found only, and for what its body asks for; a
restore asks anybody for anything only with the administrative token, and leaves all as it is
without. -/
theorem paths_act_for_resolved_callers {σ : Type} (handler : Handler Call Call.Answer σ) (s : σ)
    (config : Config) (now : String) (r : Request) :
    (r.asks? = some .search → r.bodyFault? = none →
      SearchServed config now r ((respond config now r).exchanges handler s)
        ((respond config now r).run handler s).value) ∧
    (r.asks? = some .restore →
      RestoreServed config now r ((respond config now r).exchanges handler s)
        ((respond config now r).run handler s).value ∧
      (¬ Admitted config r → ((respond config now r).run handler s).state = s)) := by
  have hends := Course.ends_exchanges handler (respond config now r) s
  constructor
  · intro hroute hbody
    obtain ⟨answer, hsearch, hresponse⟩ := ends_respond hroute hends
    rw [hresponse]
    exact searchServed_of_ends_search hbody hsearch
  · intro hroute
    obtain ⟨answer, hrestore, hresponse⟩ := ends_respond hroute hends
    have hserved : RestoreServed config now r _ (.ofAnswer now answer) :=
      restoreServed_of_ends_restore hrestore
    rw [hresponse]
    -- A run without exchanges cannot have changed anything.
    refine ⟨hserved, fun hnot => ?_⟩
    exact Course.state_run_of_exchanges_eq_nil (hserved.refused hnot).1

/-- A search with the token `t`: the scheme is in another case, there are more blanks than one, and
the path has a query string. -/
def searchWithToken : Request where
  method := "POST"
  target := "/search?limit=5"
  headers := [("Authorization", "bEARER  t ")]
  body := "\x7b\"searchValue\":\"plans\"\x7d".toUTF8.toList

/-- A restore with the same token. -/
def restoreWithToken : Request :=
  { searchWithToken with target := "/opensearch/restore" }

/-- A world in which the token `t` belongs to a member of a room. -/
def memberWithToken : World :=
  { World.strangersAmongHits with
    tables := { World.strangersAmongHits.tables with tokens := .ofList [("t", "@ann")] } }

/-- Settings with another administrative token. -/
def guarded : Config :=
  { (default : Config) with adminToken := some "admin" }

/-- The header of the sample requests names their token, in spite of its case and its blanks. -/
private theorem carries_of_headers {r : Request}
    (h : r.headers = [("Authorization", "bEARER  t ")]) :
    Carries r "t" := by
  have hname : Text.eqIgnoreAsciiCase "Authorization" "authorization" = true :=
    Text.eqIgnoreAsciiCase_iff.2 (by decide)
  refine ⟨"bEARER  t ", ?_, by decide, ?_, by decide⟩
  · have hfind : r.headers.find? (fun h => Text.eqIgnoreAsciiCase h.1 "authorization") =
        some ("Authorization", "bEARER  t ") := by
      rw [h]
      exact List.find?_cons_of_pos hname
    rw [Request.header?, hfind]
    rfl
  · exact ⟨"bEARER".toList, " t ".toList, rfl, by decide,
      Text.asciiLower_eq_iff.2 (by decide), by decide⟩

/-- The body of the sample search is read. -/
private theorem bodyFault_searchWithToken : searchWithToken.bodyFault? = none := by
  have hname : Text.eqIgnoreAsciiCase "Authorization" "content-length" = false :=
    Bool.eq_false_iff.2 (mt Text.eqIgnoreAsciiCase_iff.1 (by decide))
  have hheader : searchWithToken.header? "content-length" = none := by
    rw [Request.header?, searchWithToken, List.find?_cons_of_neg (by simp [hname])]
    rfl
  rw [Request.bodyFault?, hheader]
  decide +kernel

/-- The token of the sample restore is not the configured one. -/
private theorem not_admitted_restoreWithToken : ¬ Admitted guarded restoreWithToken := by
  intro h
  obtain ⟨token, htoken, hcarries⟩ := h
  -- A request has one token at most, and here it is another one.
  have hsame := (bearerToken?_eq_some_iff.2 hcarries).symm.trans
    (bearerToken?_eq_some_iff.2 (carries_of_headers rfl))
  have hadmin : some token = some "admin" := htoken.symm
  rw [hsame] at hadmin
  exact absurd hadmin (by decide)

/-- A search for `plans` with this token is answered by the sample world. -/
private theorem status_of_plans {r : Request} (hroute : r.asks? = some .search)
    (hcarries : Carries r "t") (hbody : r.bodyFault? = none)
    (hvalue : searchValue r.body = .ok "plans") :
    ((respond guarded "now" r).run World.handler memberWithToken).value.status = 200 := by
  rw [Request.asks?] at hroute
  have hbearer := bearerToken?_eq_some_iff.2 hcarries
  rw [respond, hroute]
  simp only [serve, search, caller, hbearer, hbody, hvalue]
  decide +kernel

/-- The theorem at a search that is served and a restore that is refused. -/
theorem paths_act_for_resolved_callers_withToken :
    searchWithToken.asks? = some .search ∧ searchWithToken.bodyFault? = none ∧
      SearchServed guarded "now" searchWithToken
        ((respond guarded "now" searchWithToken).exchanges World.handler memberWithToken)
        ((respond guarded "now" searchWithToken).run World.handler memberWithToken).value ∧
      ((respond guarded "now" searchWithToken).run World.handler memberWithToken).value.status =
        200 ∧
      restoreWithToken.asks? = some .restore ∧ ¬ Admitted guarded restoreWithToken ∧
      ((respond guarded "now" restoreWithToken).run World.handler memberWithToken).state =
        memberWithToken := by
  have hsearch : searchWithToken.asks? = some .search := by decide
  have hrestore : restoreWithToken.asks? = some .restore := by decide
  have hserved := (paths_act_for_resolved_callers World.handler memberWithToken guarded "now"
    searchWithToken).1 hsearch bodyFault_searchWithToken
  have hstatus := status_of_plans hsearch (carries_of_headers rfl) bodyFault_searchWithToken
    (by decide +kernel)
  have hrefused := (paths_act_for_resolved_callers World.handler memberWithToken guarded "now"
    restoreWithToken).2 hrestore
  exact ⟨hsearch, bodyFault_searchWithToken, hserved, hstatus, hrestore,
    not_admitted_restoreWithToken, hrefused.2 not_admitted_restoreWithToken⟩

end ChatIndex.Http
