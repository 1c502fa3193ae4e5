import ChannelMux.Proofs.Feed.Conversation

/-!
Which configured connections become a feed. A connection is planned exactly if its exchange, its
category, what it logs in with and the address it uses are all in order; the feed then logs in if
the connection is private and does not even know the credentials if it is public.
-/
namespace ChannelMux

/-- The address can be read and is one of a socket. -/
def Endpoint.Accepts (url : String) : Prop :=
  ∃ scheme, Url.scheme url = .ok scheme ∧ (scheme = "ws" ∨ scheme = "wss")

theorem Endpoint.ofUrl_eq_ok_iff {url : String} {headers : List (String × String)}
    {endpoint : Endpoint} :
    ofUrl url headers = .ok endpoint ↔ Accepts url ∧ endpoint = ⟨url, headers⟩ := by
  unfold ofUrl Accepts
  cases Url.scheme url with
  | error e => simp
  | ok scheme =>
    by_cases hsocket : scheme = "ws" ∨ scheme = "wss" <;> simp [hsocket, eq_comm]

theorem Bybit.Category.parse?_eq_some_iff {text : String} {category : Category} :
    parse? text = some category ↔ Text.lowerAscii text = category.name := by
  unfold parse? all
  generalize Text.lowerAscii text = small
  constructor
  · intro h
    have hfound := List.find?_some h
    exact (of_decide_eq_true hfound).symm
  · rintro rfl
    cases category <;> rfl

theorem ConnectionConfig.requireCredentials_eq_ok_iff {config : ConnectionConfig}
    {credentials : Credentials} :
    config.requireCredentials = .ok credentials ↔
      config.credentials = some credentials ∧ credentials.apiKey ≠ "" ∧
        credentials.secretKey ≠ "" := by
  unfold requireCredentials
  cases config.credentials with
  | none => simp
  | some given =>
    by_cases hempty : given.apiKey = "" ∨ given.secretKey = ""
    · simp only [hempty, if_true, reduceCtorEq, Option.some.injEq, false_iff]
      rintro ⟨rfl, hkey, hsecret⟩
      exact hempty.elim hkey hsecret
    · simp only [hempty, if_false, Except.ok.injEq, Option.some.injEq]
      constructor
      · rintro rfl
        exact ⟨rfl, not_or.mp hempty⟩
      · exact fun h => h.1

namespace Feed

/-- The exchanges that feeds are planned for. -/
inductive Exchange where
  | okx
  | bybit

namespace Exchange

def name : Exchange → String
  | okx => "okx"
  | bybit => "bybit"

/-- One exchange has categories. None needs to be given; if one is, it has to be known. -/
def Offers : Exchange → Option String → Prop
  | okx, _ => True
  | bybit, category =>
    ∀ text ∈ category, Text.lowerAscii text ∈ ["spot", "linear", "inverse", "option"]

/-- Enough to log in with. -/
def Admits (exchange : Exchange) (credentials : Credentials) : Prop :=
  credentials.apiKey ≠ "" ∧ credentials.secretKey ≠ "" ∧
    match exchange with
    | okx => credentials.passphrase.isSome
    | bybit => True

/-- The address if none is configured. -/
def standardUrl (exchange : Exchange) (isPrivate : Bool) (category : Option String) : String :=
  match exchange, isPrivate with
  | okx, false => "wss://ws.okx.com:8443/ws/v5/public"
  | okx, true => "wss://ws.okx.com:8443/ws/v5/private"
  | bybit, false =>
    "wss://stream.bybit.com/v5/public/" ++ (category.map Text.lowerAscii).getD "linear"
  | bybit, true => "wss://stream.bybit.com/v5/private"

/-- A connection is in order for this exchange. -/
structure Accepts (exchange : Exchange) (config : ConnectionConfig) : Prop where
  named : Text.lowercase config.exchange = exchange.name
  category : exchange.Offers config.category
  login : config.isPrivate = true → ∃ credentials ∈ config.credentials, exchange.Admits credentials
  address : Endpoint.Accepts
    (config.url.getD (exchange.standardUrl config.isPrivate config.category))

end Exchange

/-! ### One exchange at a time -/

/-- What an exchange makes of a connection. -/
structure Terms where
  url : String
  ping : Option Ping
  codec : ExchangeCodec

def Terms.ofOkx (profile : Okx.Profile) : Terms :=
  ⟨profile.url, profile.ping, .okx (OkxCodec.start profile.credentials)⟩

def Terms.ofBybit (profile : Bybit.Profile) : Terms :=
  ⟨profile.url, profile.ping, .bybit (BybitCodec.start profile.credentials)⟩

def Exchange.terms : Exchange → ConnectionConfig → Except ConfigError Terms
  | okx, config => (Okx.Profile.ofConfig config).map .ofOkx
  | bybit, config => (Bybit.Profile.ofConfig config).map .ofBybit

variable {config : ConnectionConfig} {exchange : Exchange} {plan : Plan} {terms : Terms}

theorem Plan.ofConfig_eq (h : Text.lowercase config.exchange = exchange.name) :
    ofConfig config = (exchange.terms config).bind fun terms =>
      assemble config terms.url terms.ping terms.codec := by
  unfold ofConfig
  rw [h]
  cases exchange with
  | okx =>
    change (Okx.Profile.ofConfig config).bind _ = ((Okx.Profile.ofConfig config).map _).bind _
    cases Okx.Profile.ofConfig config <;> rfl
  | bybit =>
    change (Bybit.Profile.ofConfig config).bind _ = ((Bybit.Profile.ofConfig config).map _).bind _
    cases Bybit.Profile.ofConfig config <;> rfl

theorem Plan.ofConfig_eq_error (h : ∀ exchange : Exchange,
    Text.lowercase config.exchange ≠ exchange.name) :
    ofConfig config = .error (.unknownExchange (Text.lowercase config.exchange)) := by
  unfold ofConfig
  split
  · exact absurd ‹_› (h .okx)
  · exact absurd ‹_› (h .bybit)
  · rfl

theorem Plan.assemble_eq_ok_iff : assemble config terms.url terms.ping terms.codec = .ok plan ↔
    Endpoint.Accepts terms.url ∧ plan = {
      name := config.label
      settings := { config.settings ("mux-" ++ config.label) with ping := terms.ping }
      endpoint := ⟨terms.url, config.headers⟩
      codec := terms.codec
      channels := config.channels } := by
  unfold assemble
  cases hurl : Endpoint.ofUrl terms.url config.headers with
  | error cause =>
    have hrefused : ¬ Endpoint.Accepts terms.url := fun haccepts => by
      rw [Endpoint.ofUrl_eq_ok_iff.mpr ⟨haccepts, rfl⟩] at hurl
      cases hurl
    simp [hrefused]
  | ok endpoint =>
    obtain ⟨haccepts, rfl⟩ := Endpoint.ofUrl_eq_ok_iff.mp hurl
    simp [haccepts, eq_comm]

/-- Credentials are asked for on private connections, and given to no other. -/
def gated {α : Type} (isPrivate : Bool) (given : Except ConfigError α) :
    Except ConfigError (Option α) :=
  if isPrivate then given.map some else .ok none

theorem gated_ok_iff {α : Type} {isPrivate : Bool} {given : Except ConfigError α} :
    (∃ login, gated isPrivate given = .ok login) ↔ (isPrivate = true → ∃ a, given = .ok a) := by
  cases isPrivate with
  | false => simp [gated]
  | true => cases given <;> simp [gated, Except.map]

theorem gated_public {α : Type} {isPrivate : Bool} (h : isPrivate = false)
    (given : Except ConfigError α) : gated isPrivate given = .ok none := by
  rw [h]
  rfl

theorem isSome_of_gated {α : Type} {isPrivate : Bool} {given : Except ConfigError α}
    {login : Option α} (h : gated isPrivate given = .ok login) : login.isSome = isPrivate := by
  cases isPrivate with
  | false =>
    cases h
    rfl
  | true =>
    cases given with
    | error cause => cases h
    | ok a =>
      cases h
      rfl

theorem okx_credentialsOf_ok_iff : (∃ login, Okx.credentialsOf config = .ok login) ↔
    ∃ given ∈ config.credentials, Exchange.okx.Admits given := by
  constructor
  · rintro ⟨login, h⟩
    unfold Okx.credentialsOf at h
    cases hgiven : config.requireCredentials with
    | error cause =>
      rw [hgiven] at h
      cases h
    | ok given =>
      obtain ⟨hmem, hkey, hsecret⟩ := ConnectionConfig.requireCredentials_eq_ok_iff.mp hgiven
      rw [hgiven] at h
      cases hphrase : given.passphrase with
      | none => simp [hphrase, bind, Except.bind] at h
      | some passphrase => exact ⟨given, hmem, hkey, hsecret, by simp [hphrase]⟩
  · rintro ⟨given, hmem, hkey, hsecret, hphrase⟩
    obtain ⟨passphrase, hphrase⟩ := Option.isSome_iff_exists.mp hphrase
    unfold Okx.credentialsOf
    rw [ConnectionConfig.requireCredentials_eq_ok_iff.mpr ⟨hmem, hkey, hsecret⟩]
    simp [hphrase, bind, Except.bind]

theorem bybit_credentialsOf_ok_iff : (∃ login, Bybit.credentialsOf config = .ok login) ↔
    ∃ given ∈ config.credentials, Exchange.bybit.Admits given := by
  unfold Bybit.credentialsOf
  constructor
  · rintro ⟨login, h⟩
    cases hgiven : config.requireCredentials with
    | error cause =>
      rw [hgiven] at h
      cases h
    | ok given =>
      obtain ⟨hmem, hkey, hsecret⟩ := ConnectionConfig.requireCredentials_eq_ok_iff.mp hgiven
      exact ⟨given, hmem, hkey, hsecret, trivial⟩
  · rintro ⟨given, hmem, hkey, hsecret, _⟩
    rw [ConnectionConfig.requireCredentials_eq_ok_iff.mpr ⟨hmem, hkey, hsecret⟩]
    exact ⟨_, rfl⟩

theorem map_ok_iff {α β : Type} {f : α → β} {outcome : Except ConfigError α} :
    (∃ b, outcome.map f = .ok b) ↔ ∃ a, outcome = .ok a := by
  cases outcome <;> simp [Except.map]

def okxProfile (config : ConnectionConfig) (login : Option Okx.Credentials) : Okx.Profile where
  url := config.url.getD (if config.isPrivate then Okx.privateUrl else Okx.publicUrl)
  credentials := login
  pingIntervalSec := config.pingIntervalSec.getD 25

def bybitProfile (config : ConnectionConfig) (category : Bybit.Category)
    (login : Option Bybit.Credentials) : Bybit.Profile where
  url := config.url.getD (Bybit.baseUrl ++
    (if config.isPrivate then "/private" else "/public/" ++ category.name))
  category
  credentials := login
  pingIntervalSec := config.pingIntervalSec.getD 20

theorem okx_ofConfig : Okx.Profile.ofConfig config =
    (gated config.isPrivate (Okx.credentialsOf config)).map (okxProfile config) := by
  unfold Okx.Profile.ofConfig gated okxProfile
  cases config.isPrivate with
  | false => rfl
  | true => cases Okx.credentialsOf config <;> rfl

theorem bybit_ofConfig : Bybit.Profile.ofConfig config =
    (Bybit.categoryOf config).bind fun category =>
      (gated config.isPrivate (Bybit.credentialsOf config)).map (bybitProfile config category) := by
  unfold Bybit.Profile.ofConfig gated bybitProfile
  cases Bybit.categoryOf config with
  | error cause => rfl
  | ok category =>
    cases config.isPrivate with
    | false => rfl
    | true => cases Bybit.credentialsOf config <;> rfl

/-- A category is known, and named by the text in small letters. -/
theorem categoryOf_ok_iff : (∃ category, Bybit.categoryOf config = .ok category) ↔
    Exchange.bybit.Offers config.category := by
  unfold Bybit.categoryOf Exchange.Offers
  cases config.category with
  | none => simp
  | some text =>
    simp only [Option.mem_some_iff, forall_eq']
    constructor
    · rintro ⟨category, h⟩
      cases hread : Bybit.Category.parse? text with
      | none => simp [hread] at h
      | some known =>
        rw [Bybit.Category.parse?_eq_some_iff.mp hread]
        cases known <;> decide
    · intro hknown
      obtain ⟨category, hname⟩ : ∃ category : Bybit.Category,
          Text.lowerAscii text = category.name := by
        simp only [List.mem_cons, List.not_mem_nil, or_false] at hknown
        rcases hknown with h | h | h | h
        · exact ⟨.spot, h⟩
        · exact ⟨.linear, h⟩
        · exact ⟨.inverse, h⟩
        · exact ⟨.option, h⟩
      exact ⟨category, by rw [Bybit.Category.parse?_eq_some_iff.mpr hname]⟩

theorem name_of_categoryOf {category : Bybit.Category}
    (h : Bybit.categoryOf config = .ok category) :
    category.name = (config.category.map Text.lowerAscii).getD "linear" := by
  unfold Bybit.categoryOf at h
  cases hgiven : config.category with
  | none =>
    rw [hgiven] at h
    cases h
    rfl
  | some text =>
    rw [hgiven] at h
    cases hread : Bybit.Category.parse? text with
    | none => simp [hread] at h
    | some known =>
      simp only [hread, Except.ok.injEq] at h
      subst h
      exact (Bybit.Category.parse?_eq_some_iff.mp hread).symm

/-- The terms of an exchange are met exactly by its categories and its credentials. -/
theorem Exchange.terms_ok_iff : (∃ terms, exchange.terms config = .ok terms) ↔
    exchange.Offers config.category ∧
      (config.isPrivate = true → ∃ given ∈ config.credentials, exchange.Admits given) := by
  cases exchange with
  | okx =>
    unfold terms
    rw [map_ok_iff, okx_ofConfig, map_ok_iff, gated_ok_iff, okx_credentialsOf_ok_iff]
    exact (and_iff_right trivial).symm
  | bybit =>
    unfold terms
    rw [map_ok_iff, bybit_ofConfig, ← categoryOf_ok_iff, ← bybit_credentialsOf_ok_iff,
      ← gated_ok_iff]
    cases Bybit.categoryOf config with
    | error cause => simp [Except.bind]
    | ok category => simp [Except.bind, map_ok_iff]

theorem of_map_eq_ok {α β : Type} {f : α → β} {outcome : Except ConfigError α} {b : β}
    (h : outcome.map f = .ok b) : ∃ a, outcome = .ok a ∧ f a = b := by
  cases outcome with
  | error cause => cases h
  | ok a => exact ⟨a, rfl, Except.ok.inj h⟩

theorem Exchange.of_terms (h : exchange.terms config = .ok terms) :
    terms.url = config.url.getD (exchange.standardUrl config.isPrivate config.category) ∧
      terms.codec.logsIn = config.isPrivate := by
  cases exchange with
  | okx =>
    obtain ⟨profile, hprofile, rfl⟩ := of_map_eq_ok h
    rw [okx_ofConfig] at hprofile
    obtain ⟨login, hlogin, rfl⟩ := of_map_eq_ok hprofile
    refine ⟨?_, isSome_of_gated hlogin⟩
    unfold Terms.ofOkx okxProfile
    cases config.isPrivate <;> rfl
  | bybit =>
    obtain ⟨profile, hprofile, rfl⟩ := of_map_eq_ok h
    rw [bybit_ofConfig] at hprofile
    cases hcategory : Bybit.categoryOf config with
    | error cause =>
      rw [hcategory] at hprofile
      cases hprofile
    | ok category =>
      rw [hcategory] at hprofile
      obtain ⟨login, hlogin, rfl⟩ := of_map_eq_ok hprofile
      refine ⟨?_, isSome_of_gated hlogin⟩
      unfold Terms.ofBybit bybitProfile
      rw [name_of_categoryOf hcategory]
      cases config.isPrivate with
      | false =>
        have hbase : Bybit.baseUrl ++ "/public/" = "wss://stream.bybit.com/v5/public/" := by
          decide
        rw [if_neg Bool.false_ne_true, ← String.append_assoc, hbase]
        rfl
      | true => rfl

/-- Where the address is not overridden it needs no check: every standard one is of a socket. -/
theorem Exchange.accepts_standardUrl {isPrivate : Bool} {category : Option String}
    (h : exchange.Offers category) :
    Endpoint.Accepts (exchange.standardUrl isPrivate category) := by
  have hsocket : ∀ url, (Url.scheme url).toOption = some "wss" → Endpoint.Accepts url := by
    intro url hread
    cases hscheme : Url.scheme url with
    | error e => simp [hscheme, Except.toOption] at hread
    | ok scheme => exact ⟨scheme, hscheme, .inr (by simpa [hscheme, Except.toOption] using hread)⟩
  apply hsocket
  cases exchange with
  | okx =>
    cases isPrivate with
    | false => exact (by decide +kernel :
        (Url.scheme "wss://ws.okx.com:8443/ws/v5/public").toOption = some "wss")
    | true => exact (by decide +kernel :
        (Url.scheme "wss://ws.okx.com:8443/ws/v5/private").toOption = some "wss")
  | bybit =>
    cases isPrivate with
    | true => exact (by decide +kernel :
        (Url.scheme "wss://stream.bybit.com/v5/private").toOption = some "wss")
    | false =>
      have hknown : (category.map Text.lowerAscii).getD "linear" ∈
          ["spot", "linear", "inverse", "option"] := by
        cases category with
        | none => decide
        | some text => exact h text rfl
      unfold standardUrl
      generalize (category.map Text.lowerAscii).getD "linear" = name at hknown
      revert name
      decide +kernel

/-! ### All of them -/

theorem Exchange.terms_withCredentials (h : config.isPrivate = false)
    (credentials : Option Credentials) :
    exchange.terms { config with credentials } = exchange.terms config := by
  cases exchange with
  | okx =>
    simp only [terms, okx_ofConfig, gated_public h]
    rfl
  | bybit =>
    have hcategory : Bybit.categoryOf { config with credentials } = Bybit.categoryOf config := rfl
    simp only [terms, bybit_ofConfig, gated_public h, hcategory]
    rfl

/-- A public connection is planned without a look at its credentials. -/
theorem Plan.ofConfig_withCredentials (h : config.isPrivate = false)
    (credentials : Option Credentials) :
    ofConfig { config with credentials } = ofConfig config := by
  by_cases hnamed : ∃ exchange : Exchange, Text.lowercase config.exchange = exchange.name
  · obtain ⟨exchange, hnamed⟩ := hnamed
    have hother : Text.lowercase { config with credentials }.exchange = exchange.name := hnamed
    rw [ofConfig_eq hnamed, ofConfig_eq hother, Exchange.terms_withCredentials h credentials]
    rfl
  · rw [not_exists] at hnamed
    have hother : ∀ exchange : Exchange,
        Text.lowercase { config with credentials }.exchange ≠ exchange.name := hnamed
    rw [ofConfig_eq_error hnamed, ofConfig_eq_error hother]

/-- A plan is put together from the terms of the exchange that is named. -/
theorem Plan.exists_terms (h : ofConfig config = .ok plan) : ∃ exchange : Exchange, ∃ terms,
    Text.lowercase config.exchange = exchange.name ∧ exchange.terms config = .ok terms ∧
      assemble config terms.url terms.ping terms.codec = .ok plan := by
  by_cases hnamed : ∃ exchange : Exchange, Text.lowercase config.exchange = exchange.name
  · obtain ⟨exchange, hnamed⟩ := hnamed
    rw [ofConfig_eq hnamed] at h
    cases hterms : exchange.terms config with
    | error cause =>
      rw [hterms] at h
      cases h
    | ok terms =>
      rw [hterms] at h
      exact ⟨exchange, terms, hnamed, hterms, h⟩
  · rw [not_exists] at hnamed
    rw [ofConfig_eq_error hnamed] at h
    cases h

theorem Plan.exists_iff_accepts : (∃ plan, ofConfig config = .ok plan) ↔
    ∃ exchange : Exchange, exchange.Accepts config := by
  constructor
  · rintro ⟨plan, h⟩
    obtain ⟨exchange, terms, hnamed, hterms, hassemble⟩ := exists_terms h
    obtain ⟨hcategory, hlogin⟩ := Exchange.terms_ok_iff.mp ⟨terms, hterms⟩
    refine ⟨exchange, hnamed, hcategory, hlogin, ?_⟩
    rw [← (Exchange.of_terms hterms).1]
    exact (assemble_eq_ok_iff.mp hassemble).1
  · rintro ⟨exchange, h⟩
    obtain ⟨terms, hterms⟩ := Exchange.terms_ok_iff.mpr ⟨h.category, h.login⟩
    have haddress : Endpoint.Accepts terms.url := by
      rw [(Exchange.of_terms hterms).1]
      exact h.address
    rw [ofConfig_eq h.named, hterms]
    exact ⟨_, assemble_eq_ok_iff.mpr ⟨haddress, rfl⟩⟩

theorem Plan.logsIn_of_ofConfig (h : ofConfig config = .ok plan) :
    plan.codec.logsIn = config.isPrivate := by
  obtain ⟨exchange, terms, _, hterms, hassemble⟩ := exists_terms h
  obtain ⟨_, rfl⟩ := assemble_eq_ok_iff.mp hassemble
  exact (Exchange.of_terms hterms).2

/-- A feed is planned exactly for the connections that are in order for some exchange. It is named
by the label and logs in, whatever has been asked of its codec, if and only if the connection is
private; the plan of a public connection is the same whatever credentials are configured. -/
theorem Plan.admission (config : ConnectionConfig) :
    ((∃ plan, Plan.ofConfig config = .ok plan) ↔
      ∃ exchange : Exchange, exchange.Accepts config) ∧
    ∀ plan, Plan.ofConfig config = .ok plan →
      plan.name = config.label ∧
      (∀ calls now, ∃ login, (plan.codec.after calls).login now = .ok login ∧
        (login.isSome ↔ config.isPrivate = true)) ∧
      (config.isPrivate = false → ∀ credentials,
        Plan.ofConfig { config with credentials } = .ok plan) := by
  refine ⟨exists_iff_accepts, fun plan hplan => ⟨?_, fun calls now => ?_, fun hpublic other => ?_⟩⟩
  · obtain ⟨_, _, _, _, hassemble⟩ := exists_terms hplan
    obtain ⟨_, rfl⟩ := assemble_eq_ok_iff.mp hassemble
    rfl
  · obtain ⟨login, hlogin, hsome⟩ := (plan.codec.after calls).exists_login now
    refine ⟨login, hlogin, ?_⟩
    rw [hsome, ExchangeCodec.logsIn_after, logsIn_of_ofConfig hplan]
  · rw [ofConfig_withCredentials hpublic, hplan]

/-- A private connection that says no more than it has to. -/
def privateConnection : ConnectionConfig where
  name := none
  exchange := "OKX"
  url := none
  isPrivate := true
  category := some "any"
  credentials := some ⟨"key", "secret", some ""⟩
  pingIntervalSec := none
  idleTimeoutSec := none
  connectTimeoutSec := none
  loginTimeoutSec := none
  unsubscribeTimeoutSec := none
  maxOutboundPerSec := none
  reconnect := none
  extraHeaders := none
  channels := []

theorem Plan.admission_privateConnection : ∃ plan, Plan.ofConfig privateConnection = .ok plan ∧
    plan.name = "OKX_private" ∧
    ∀ calls now, ∃ frame, (plan.codec.after calls).login now = .ok (some frame) := by
  have haccepts : Exchange.okx.Accepts privateConnection := by
    have hcategory : Exchange.okx.Offers (some "any") := trivial
    have haddress : Endpoint.Accepts (Exchange.okx.standardUrl true (some "any")) :=
      Exchange.accepts_standardUrl hcategory
    refine ⟨by decide +kernel, hcategory, fun _ => ?_, haddress⟩
    exact ⟨⟨"key", "secret", some ""⟩, rfl, by decide, by decide, rfl⟩
  obtain ⟨plan, hplan⟩ := (admission privateConnection).1.mpr ⟨.okx, haccepts⟩
  obtain ⟨hname, hlogin, _⟩ := (admission privateConnection).2 plan hplan
  refine ⟨plan, hplan, hname, fun calls now => ?_⟩
  obtain ⟨login, hmade, hsome⟩ := hlogin calls now
  obtain ⟨frame, rfl⟩ := Option.isSome_iff_exists.mp (hsome.mpr rfl)
  exact ⟨frame, hmade⟩

end Feed

end ChannelMux
