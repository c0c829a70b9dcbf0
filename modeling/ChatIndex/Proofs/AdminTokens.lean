import ChatIndex.Proofs.AppliedMessages
import ChatIndex.Proofs.Callers
import Mathlib.Data.List.DropRight

/-!
# The administrative token as it is configured

The token of a request is read off a header, which has to be readable, and the white space around
it is taken off.  The token of the settings is any text that is not blank, as it stands.  So there
are settings with a token that no request can carry: the two are compared as they are.

* `adminToken_of_ofLookup`          where the token of the settings comes from
* `NamesToken.presentable`          what every token of a request is like
* `namesToken_bearer_iff`           the token in the header that is made of a text
* `configured_token_admits`         which tokens of the settings let anybody in
-/

namespace ChatIndex

/-! ## White space -/

namespace Text

/-- The first character that trimming leaves is no white space. -/
theorem isSpace_head_trimChars {cs : List Char} (h : 0 < (trimChars cs).length) :
    isSpace (trimChars cs)[0] ≠ true := by
  -- What is left begins where the white space in front ends.
  have hstart : trimChars cs <+: cs.dropWhile isSpace :=
    List.rdropWhile_prefix isSpace (cs.dropWhile isSpace)
  have hdropped : (cs.dropWhile isSpace).dropWhile isSpace = cs.dropWhile isSpace :=
    List.dropWhile_idempotent isSpace cs
  rw [hstart.getElem h]
  exact List.dropWhile_eq_self_iff.1 hdropped _

/-- What is trimmed once stays as it is. -/
theorem trimChars_trimChars (cs : List Char) : trimChars (trimChars cs) = trimChars cs := by
  have hfront : (trimChars cs).dropWhile isSpace = trimChars cs :=
    List.dropWhile_eq_self_iff.2 isSpace_head_trimChars
  show ((trimChars cs).dropWhile isSpace).rdropWhile isSpace = trimChars cs
  rw [hfront]
  exact List.rdropWhile_idempotent isSpace (cs.dropWhile isSpace)

/-- Trimming adds no characters. -/
theorem mem_of_mem_trimChars {cs : List Char} {c : Char} (h : c ∈ trimChars cs) : c ∈ cs := by
  have hstart : trimChars cs <+: cs.dropWhile isSpace :=
    List.rdropWhile_prefix isSpace (cs.dropWhile isSpace)
  exact (List.dropWhile_sublist isSpace).subset (hstart.subset h)

end Text

/-! ## Settings -/

/-- The token of the settings is one variable, as it stands. -/
theorem Config.adminToken_of_ofLookup {lookup : String → Option String} {config : Config}
    (h : ofLookup lookup = .ok config) :
    config.adminToken = nonBlank lookup "SEARCH_ADMIN_TOKEN" :=
  (ofSettings_eq_ok_iff.1 h).adminToken

namespace Http

/-! ## Tokens that a request can carry -/

/-- A text that a request can carry as its token: it can be read in a header, and there is no white
space around it. -/
structure Presentable (token : String) : Prop where
  readable : isReadable token = true
  trimmed : Text.trim token = token

/-- The characters that a header may have: printable ASCII, and the tabulator. -/
theorem isReadable_iff {value : String} :
    isReadable value = true ↔
      ∀ c ∈ value.toList, (0x20 ≤ c.toNat ∧ c.toNat ≤ 0x7e) ∨ c = '\t' := by
  simp [isReadable, List.all_eq_true]

/-- Every token of a request is such a text. -/
theorem NamesToken.presentable {value token : String} (h : NamesToken value token) :
    Presentable token := by
  obtain ⟨scheme, rest, hvalue, -, -, rfl⟩ := h.parts
  constructor
  · rw [isReadable_iff]
    intro c hc
    -- The token is a part of the header, which can be read.
    have hrest : c ∈ rest := Text.mem_of_mem_trimChars (by simpa using hc)
    apply isReadable_iff.1 h.readable c
    rw [hvalue]
    simp [hrest]
  · rw [Text.trim, String.toList_ofList, Text.trimChars_trimChars]

/-- The scheme in front of a text can always be read. -/
theorem isReadable_bearer (t : String) : isReadable ("Bearer " ++ t) = isReadable t := by
  have hscheme : "Bearer ".toList.all (fun c => (0x20 ≤ c.toNat && c.toNat ≤ 0x7e) || c = '\t') =
      true := by
    decide
  rw [isReadable, String.toList_append, List.all_append, hscheme, Bool.true_and, isReadable]

/-- The header that is made of a text names it without the white space around it, if it can be
read at all. -/
theorem namesToken_bearer_iff {t token : String} (hblank : Text.isBlank t = false) :
    NamesToken ("Bearer " ++ t) token ↔ isReadable t = true ∧ token = Text.trim t := by
  have hvalue : ("Bearer " ++ t).toList = "Bearer".toList ++ ' ' :: t.toList := by simp
  have hscheme : ' ' ∉ "Bearer".toList := by decide
  have hbearer : Text.asciiLower (String.ofList "Bearer".toList) = "bearer" :=
    Text.asciiLower_eq_iff.2 (by decide)
  constructor
  · intro h
    obtain ⟨scheme, rest, hparts, hblankless, -, rfl⟩ := h.parts
    -- There is one way to take the header apart at its first blank.
    have hsplit := splitBlank?_eq_some_iff.2 ⟨hparts, hblankless⟩
    rw [splitBlank?_eq_some_iff.2 ⟨hvalue, hscheme⟩] at hsplit
    cases hsplit
    exact ⟨(isReadable_bearer t).symm.trans h.readable, rfl⟩
  · rintro ⟨hreadable, rfl⟩
    -- A text that is not blank leaves a token when it is trimmed.
    have hnonempty : Text.trim t ≠ "" := by
      intro hempty
      rw [Text.trim_eq_empty_iff, hblank] at hempty
      cases hempty
    exact ⟨(isReadable_bearer t).trans hreadable,
      ⟨_, _, hvalue, hscheme, hbearer, rfl⟩, hnonempty⟩

/-! ## Who is let in -/

/-- A restore was run, and the answer tells whether it ended well. -/
def Restored (config : Config) (now : String) (es : List Exchange) (response : Response) : Prop :=
  ∃ ls answer, (Bootstrap.run config.backfillBatchSize config.indices).run.Ends es ls answer ∧
    ((∃ report, answer = .ok report) ∧ response = ⟨204, .empty⟩ ∨
      (∃ e, answer = .error e) ∧ Refused now 500 response)

/-- The caller was turned away, and nobody was asked for anything. -/
def TurnedAway {σ : Type} (now : String) (s : σ) (es : List Exchange) (response : Response)
    (after : σ) : Prop :=
  es = [] ∧ Refused now 403 response ∧ after = s

/-- A request names one token at most. -/
theorem eq_of_carries {r : Request} {token token' : String} (h : Carries r token)
    (h' : Carries r token') : token = token' := by
  have hsame := (bearerToken?_eq_some_iff.2 h).symm.trans (bearerToken?_eq_some_iff.2 h')
  exact Option.some.inj hsame

/-- A request to restore is let in or turned away by its token. -/
theorem restored_or_turnedAway {σ : Type} (handler : Handler Call Call.Answer σ) (s : σ)
    (config : Config) (now : String) {r : Request} (hroute : r.asks? = some .restore) :
    let es := (respond config now r).exchanges handler s
    let run := (respond config now r).run handler s
    (Admitted config r → Restored config now es run.value) ∧
      (¬ Admitted config r → TurnedAway now s es run.value run.state) := by
  intro es run
  obtain ⟨answer, hrestore, hresponse⟩ :=
    ends_respond hroute (Course.ends_exchanges handler (respond config now r) s)
  have hserved : RestoreServed config now r es run.value := by
    rw [hresponse]
    exact restoreServed_of_ends_restore hrestore
  refine ⟨hserved.admitted, fun hnot => ?_⟩
  -- Nothing was asked, so nothing can have changed.
  obtain ⟨hunasked, hrefused⟩ := hserved.refused hnot
  exact ⟨hunasked, hrefused, Course.state_run_of_exchanges_eq_nil hunasked⟩

/-- A token of the settings that a request can carry lets in whoever sends it; any other lets in
nobody.  A request with another token, white space aside, is turned away in either case. -/
theorem configured_token_admits {σ : Type} (handler : Handler Call Call.Answer σ) (s : σ)
    {lookup : String → Option String} {t : String} {config : Config}
    (hlookup : lookup "SEARCH_ADMIN_TOKEN" = some t) (hconfig : Config.ofLookup lookup = .ok config)
    (htoken : config.adminToken.isSome = true) (now : String) {r : Request}
    (hroute : r.asks? = some .restore) :
    let es := (respond config now r).exchanges handler s
    let run := (respond config now r).run handler s
    (Presentable t → r.header? "authorization" = some ("Bearer " ++ t) →
      Restored config now es run.value) ∧
    (¬ Presentable t → TurnedAway now s es run.value run.state) ∧
    ∀ token, Carries r token → Text.trim token ≠ Text.trim t →
      TurnedAway now s es run.value run.state := by
  intro es run
  obtain ⟨hadmitted, hturned⟩ := restored_or_turnedAway handler s config now hroute
  -- A token is configured, so the variable is not blank and counts as it is written.
  obtain ⟨hconfigured, hblank⟩ : config.adminToken = some t ∧ Text.isBlank t = false := by
    have hvariable := Config.adminToken_of_ofLookup hconfig
    rw [Config.nonBlank, hlookup] at hvariable
    cases hblank : Text.isBlank t with
    | true => simp [hvariable, Option.filter, hblank] at htoken
    | false => simp [hvariable, Option.filter, hblank]
  -- The token of the settings is compared as it stands.
  have hcarries : Admitted config r → Carries r t := by
    rintro ⟨token, hsome, hcarries⟩
    cases hconfigured.symm.trans hsome
    exact hcarries
  refine ⟨fun hpresentable hheader => ?_, fun hnot => ?_, fun token htoken hne => ?_⟩
  · -- What trimming leaves of a presentable token is the token.
    have hnames : NamesToken ("Bearer " ++ t) t :=
      (namesToken_bearer_iff hblank).2 ⟨hpresentable.readable, hpresentable.trimmed.symm⟩
    exact hadmitted ⟨t, hconfigured, _, hheader, hnames⟩
  · apply hturned
    intro hin
    obtain ⟨value, -, hnames⟩ := hcarries hin
    exact hnot hnames.presentable
  · apply hturned
    -- Two tokens of one request are the same, so they are trimmed to the same.
    intro hin
    exact hne (congrArg Text.trim (eq_of_carries htoken (hcarries hin)))

/-! ### A blank behind the token -/

/-- A request to restore with one header. -/
def restoreWith (authorization : String) : Request where
  method := "POST"
  target := "/opensearch/restore"
  headers := [("Authorization", authorization)]
  body := []

/-- The header of such a request is found under its name in lower case. -/
theorem header?_restoreWith (authorization : String) :
    (restoreWith authorization).header? "authorization" = some authorization := by
  have hname : Text.eqIgnoreAsciiCase "Authorization" "authorization" = true :=
    Text.eqIgnoreAsciiCase_iff.2 (by decide)
  have hfind : (restoreWith authorization).headers.find?
      (fun h => Text.eqIgnoreAsciiCase h.1 "authorization") =
        some ("Authorization", authorization) :=
    List.find?_cons_of_pos hname
  rw [Request.header?, hfind]
  rfl

/-- The least that has to be configured, and a token. -/
def withToken (t : String) : String → Option String
  | "SEARCH_ADMIN_TOKEN" => some t
  | key => SharedIndex.required key

/-- The settings that come of these. -/
def settingsWith (t : String) : Config :=
  { SharedIndex.settings "rooms" "messages" with adminToken := some t }

/-- The token `secret` is presentable, and a request that carries it has a restore run. -/
theorem configured_token_admits_secret :
    Restored (settingsWith "secret") "now"
      ((respond (settingsWith "secret") "now" (restoreWith "Bearer secret")).exchanges
        World.handler .oneMessage)
      ((respond (settingsWith "secret") "now" (restoreWith "Bearer secret")).run
        World.handler .oneMessage).value := by
  have hlookup : withToken "secret" "SEARCH_ADMIN_TOKEN" = some "secret" := rfl
  have hconfig : Config.ofLookup (withToken "secret") = .ok (settingsWith "secret") := by
    decide +kernel
  have hroute : (restoreWith "Bearer secret").asks? = some .restore := by decide
  have hpresentable : Presentable "secret" := ⟨by decide, by decide⟩
  exact (configured_token_admits World.handler .oneMessage hlookup hconfig rfl "now" hroute).1
    hpresentable (header?_restoreWith "Bearer secret")

/-- With a blank behind it, the token is configured and lets nobody in. -/
theorem configured_token_turned_away :
    Config.ofLookup (withToken "secret ") = .ok (settingsWith "secret ") ∧
      (settingsWith "secret ").adminToken = some "secret " ∧
      (restoreWith "Bearer secret ").header? "authorization" = some ("Bearer " ++ "secret ") ∧
      Refused "now" 403 ((respond (settingsWith "secret ") "now" (restoreWith "Bearer secret ")).run
        World.handler .oneMessage).value := by
  have hconfig : Config.ofLookup (withToken "secret ") = .ok (settingsWith "secret ") := by
    decide +kernel
  have hroute : (restoreWith "Bearer secret ").asks? = some .restore := by decide
  -- Every token of a request is trimmed, and this one is not.
  have hnot : ¬ Admitted (settingsWith "secret ") (restoreWith "Bearer secret ") := by
    rintro ⟨token, hsome, value, -, hnames⟩
    cases hsome
    exact absurd hnames.presentable.trimmed (by decide)
  obtain ⟨-, hturned⟩ :=
    restored_or_turnedAway World.handler .oneMessage (settingsWith "secret ") "now" hroute
  exact ⟨hconfig, rfl, header?_restoreWith "Bearer secret ", (hturned hnot).2.1⟩

end Http

end ChatIndex
