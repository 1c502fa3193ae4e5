import ChannelMux.Proofs.Feed.Admission

/-!
What shows of the secrets of a connection. Two connections that differ only in their secret key and
their passphrase have the same label, diagnostics and settings and are refused with the same errors;
planned, they make feeds that write and read the same. Only what they log in with tells them apart.
-/
namespace ChannelMux

/-- Equal but for the secret key and the passphrase, of which each is given in both or in
neither. -/
structure Credentials.SameButSecrets (given other : Credentials) : Prop where
  apiKey : given.apiKey = other.apiKey
  secretKey : given.secretKey = "" ↔ other.secretKey = ""
  passphrase : given.passphrase.isSome = other.passphrase.isSome

structure ConnectionConfig.SameButSecrets (config other : ConnectionConfig) : Prop where
  rest : other = { config with credentials := other.credentials }
  credentials : Option.Rel Credentials.SameButSecrets config.credentials other.credentials

/-- What is written of an option is decided by what is written of the value. -/
theorem Text.Diagnostic.option_congr {α β : Type} {write : α → String} {write' : β → String}
    {first : Option α} {second : Option β} (h : first.map write = second.map write') :
    option write first = option write' second := by
  cases first <;> cases second
  · rfl
  · cases h
  · cases h
  · exact congrArg (fun text => "Some(" ++ text ++ ")") (Option.some.inj h)

theorem map_eq_of_rel {α β : Type} {r : α → α → Prop} {f : α → β} {first second : Option α}
    (h : Option.Rel r first second) (hf : ∀ a b, r a b → f a = f b) :
    first.map f = second.map f := by
  cases h with
  | none => rfl
  | some hr => exact congrArg some (hf _ _ hr)

theorem isSome_eq_of_rel {α : Type} {r : α → α → Prop} {first second : Option α}
    (h : Option.Rel r first second) : first.isSome = second.isSome := by
  cases h <;> rfl

theorem Credentials.SameButSecrets.debug_eq {given other : Credentials}
    (h : given.SameButSecrets other) : given.debug = other.debug := by
  have hpassphrase : Text.Diagnostic.option (fun _ => redacted) given.passphrase =
      Text.Diagnostic.option (fun _ => redacted) other.passphrase := by
    apply Text.Diagnostic.option_congr
    have hsome := h.passphrase
    cases hgiven : given.passphrase <;> cases hother : other.passphrase <;>
      simp [hgiven, hother] at hsome ⊢
  unfold debug
  rw [h.apiKey, hpassphrase]

namespace Feed

/-- Two attempts fail with the same cause, or succeed with related results. -/
inductive SameOutcome {α : Type} (r : α → α → Prop) :
    Except ConfigError α → Except ConfigError α → Prop
  | error (cause : ConfigError) : SameOutcome r (.error cause) (.error cause)
  | ok {a b : α} (h : r a b) : SameOutcome r (.ok a) (.ok b)

namespace SameOutcome

variable {α β : Type} {r : α → α → Prop} {s : β → β → Prop} {first second : Except ConfigError α}

theorem bind {f g : α → Except ConfigError β} (h : SameOutcome r first second)
    (hnext : ∀ a b, r a b → SameOutcome s (f a) (g b)) :
    SameOutcome s (first.bind f) (second.bind g) := by
  cases h with
  | error cause => exact .error cause
  | ok h => exact hnext _ _ h

theorem map {f g : α → β} (h : SameOutcome r first second) (hf : ∀ a b, r a b → s (f a) (g b)) :
    SameOutcome s (first.map f) (second.map g) := by
  cases h with
  | error cause => exact .error cause
  | ok h => exact .ok (hf _ _ h)

theorem map_eq {f : α → β} (h : SameOutcome r first second) (hf : ∀ a b, r a b → f a = f b) :
    first.map f = second.map f := by
  cases h with
  | error cause => rfl
  | ok h => exact congrArg Except.ok (hf _ _ h)

end SameOutcome

/-- The gate passes or refuses both. -/
theorem SameOutcome.gated {α : Type} {r : α → α → Prop} {first second : Except ConfigError α}
    (isPrivate : Bool) (h : SameOutcome r first second) :
    SameOutcome (Option.Rel r) (gated isPrivate first) (Feed.gated isPrivate second) := by
  cases isPrivate with
  | false => exact .ok .none
  | true => exact h.map fun _ _ hr => .some hr

end Feed

namespace ConnectionConfig.SameButSecrets

open Feed

variable {config other : ConnectionConfig} (h : config.SameButSecrets other)

include h

theorem label_eq : config.label = other.label := by
  rw [h.rest]
  rfl

theorem settings_eq (label : String) : config.settings label = other.settings label := by
  rw [h.rest]
  rfl

theorem shown_credentials :
    config.credentials.map Credentials.debug = other.credentials.map Credentials.debug :=
  map_eq_of_rel h.credentials fun _ _ hsame => hsame.debug_eq

theorem debug_eq : config.debug = other.debug := by
  rw [h.rest]
  unfold debug
  rw [Text.Diagnostic.option_congr h.shown_credentials]

theorem requireCredentials :
    SameOutcome Credentials.SameButSecrets config.requireCredentials other.requireCredentials := by
  have hrel := h.credentials
  unfold ConnectionConfig.requireCredentials
  rw [← h.label_eq]
  generalize config.credentials = first at hrel ⊢
  generalize other.credentials = second at hrel ⊢
  cases hrel with
  | none => exact .error _
  | @some given given' hsame =>
    have hempty : (given.apiKey = "" ∨ given.secretKey = "") ↔
        (given'.apiKey = "" ∨ given'.secretKey = "") := by
      rw [hsame.apiKey, hsame.secretKey]
    by_cases hgiven : given.apiKey = "" ∨ given.secretKey = ""
    · simp only [hgiven, hempty.mp hgiven, if_true]
      exact .error _
    · simp only [hgiven, mt hempty.mpr hgiven, if_false]
      exact .ok hsame

theorem okx_credentialsOf : SameOutcome (fun login login' => login.apiKey = login'.apiKey)
    (Okx.credentialsOf config) (Okx.credentialsOf other) := by
  unfold Okx.credentialsOf
  rw [← h.label_eq]
  apply h.requireCredentials.bind
  intro given given' hsame
  have hsome := hsame.passphrase
  cases hgiven : given.passphrase <;> cases hgiven' : given'.passphrase
  · exact .error _
  · simp [hgiven, hgiven'] at hsome
  · simp [hgiven, hgiven'] at hsome
  · exact .ok hsame.apiKey

theorem bybit_credentialsOf : SameOutcome (fun login login' => login.apiKey = login'.apiKey)
    (Bybit.credentialsOf config) (Bybit.credentialsOf other) :=
  h.requireCredentials.map fun _ _ hsame => hsame.apiKey

end ConnectionConfig.SameButSecrets

/-- Equal but for what is logged in with, of which the key that is no secret is the same. -/
structure Okx.Profile.SameButSecrets (profile other : Okx.Profile) : Prop where
  rest : other = { profile with credentials := other.credentials }
  credentials : Option.Rel (fun login login' : Okx.Credentials => login.apiKey = login'.apiKey)
    profile.credentials other.credentials

structure Bybit.Profile.SameButSecrets (profile other : Bybit.Profile) : Prop where
  rest : other = { profile with credentials := other.credentials }
  credentials : Option.Rel (fun login login' : Bybit.Credentials => login.apiKey = login'.apiKey)
    profile.credentials other.credentials

namespace Okx.Profile.SameButSecrets

variable {profile other : Okx.Profile} (h : profile.SameButSecrets other)

include h

theorem shown_credentials :
    profile.credentials.map Okx.Credentials.debug = other.credentials.map Okx.Credentials.debug :=
  map_eq_of_rel h.credentials fun login login' hkey => by
    unfold Okx.Credentials.debug
    rw [hkey]

theorem debug_eq : profile.debug = other.debug := by
  rw [h.rest]
  unfold debug
  rw [Text.Diagnostic.option_congr h.shown_credentials]

end Okx.Profile.SameButSecrets

namespace Bybit.Profile.SameButSecrets

variable {profile other : Bybit.Profile} (h : profile.SameButSecrets other)

include h

theorem shown_credentials : profile.credentials.map Bybit.Credentials.debug =
    other.credentials.map Bybit.Credentials.debug :=
  map_eq_of_rel h.credentials fun login login' hkey => by
    unfold Bybit.Credentials.debug
    rw [hkey]

theorem debug_eq : profile.debug = other.debug := by
  rw [h.rest]
  unfold debug
  rw [Text.Diagnostic.option_congr h.shown_credentials]

end Bybit.Profile.SameButSecrets

namespace Feed

/-- The same address and keep-alive, and codecs that differ in what they log in with. -/
structure Terms.SameButLogin (terms other : Terms) : Prop where
  url : terms.url = other.url
  ping : terms.ping = other.ping
  codec : terms.codec.SameButLogin other.codec

/-- Two plans that read the same, and whose codecs answer the same, a login apart. -/
structure Plan.Indistinguishable (plan other : Plan) : Prop where
  name : plan.name = other.name
  settings : plan.settings = other.settings
  endpoint : plan.endpoint = other.endpoint
  channels : plan.channels = other.channels
  answers : ∀ calls, (∀ now, .login now ∉ calls) →
    plan.codec.answers calls = other.codec.answers calls
  logins : ∀ calls, List.Forall₂ Answer.Alike (plan.codec.answers calls) (other.codec.answers calls)

/-- Whatever is shown of two connections, read off them or made of them is the same. Of the codecs
that the two are planned with, only the frames that log in are not compared. -/
structure Indistinguishable (config other : ConnectionConfig) : Prop where
  label : config.label = other.label
  shown : config.debug = other.debug
  shownCredentials :
    config.credentials.map Credentials.debug = other.credentials.map Credentials.debug
  settings : ∀ label, config.settings label = other.settings label
  required : config.requireCredentials.map Credentials.debug =
    other.requireCredentials.map Credentials.debug
  okx : (Okx.Profile.ofConfig config).map Okx.Profile.debug =
    (Okx.Profile.ofConfig other).map Okx.Profile.debug
  okxCredentials :
    (Okx.Profile.ofConfig config).map (fun p => p.credentials.map Okx.Credentials.debug) =
      (Okx.Profile.ofConfig other).map (fun p => p.credentials.map Okx.Credentials.debug)
  bybit : (Bybit.Profile.ofConfig config).map Bybit.Profile.debug =
    (Bybit.Profile.ofConfig other).map Bybit.Profile.debug
  bybitCredentials :
    (Bybit.Profile.ofConfig config).map (fun p => p.credentials.map Bybit.Credentials.debug) =
      (Bybit.Profile.ofConfig other).map (fun p => p.credentials.map Bybit.Credentials.debug)
  plan : SameOutcome Plan.Indistinguishable (Plan.ofConfig config) (Plan.ofConfig other)

variable {config other : ConnectionConfig} (h : config.SameButSecrets other)

include h

theorem okx_ofConfig_same :
    SameOutcome Okx.Profile.SameButSecrets (Okx.Profile.ofConfig config)
      (Okx.Profile.ofConfig other) := by
  rw [okx_ofConfig, okx_ofConfig]
  have hprivate : other.isPrivate = config.isPrivate := by rw [h.rest]
  rw [hprivate]
  apply (h.okx_credentialsOf.gated config.isPrivate).map
  intro login login' hsame
  refine ⟨?_, hsame⟩
  rw [h.rest]
  rfl

theorem bybit_ofConfig_same :
    SameOutcome Bybit.Profile.SameButSecrets (Bybit.Profile.ofConfig config)
      (Bybit.Profile.ofConfig other) := by
  have hcategory : Bybit.categoryOf other = Bybit.categoryOf config := by
    rw [h.rest]
    rfl
  have hprivate : other.isPrivate = config.isPrivate := by rw [h.rest]
  rw [bybit_ofConfig, bybit_ofConfig, hcategory, hprivate]
  cases Bybit.categoryOf config with
  | error cause => exact .error cause
  | ok category =>
    apply (h.bybit_credentialsOf.gated config.isPrivate).map
    intro login login' hsame
    refine ⟨?_, hsame⟩
    rw [h.rest]
    rfl

theorem Exchange.terms_same (exchange : Exchange) :
    SameOutcome Terms.SameButLogin (exchange.terms config) (exchange.terms other) := by
  cases exchange with
  | okx =>
    apply (okx_ofConfig_same h).map
    intro profile profile' hsame
    refine ⟨by rw [hsame.rest]; rfl, by rw [hsame.rest]; rfl, ?_⟩
    exact .okx (OkxCodec.start profile.credentials) _ (isSome_eq_of_rel hsame.credentials).symm
  | bybit =>
    apply (bybit_ofConfig_same h).map
    intro profile profile' hsame
    refine ⟨by rw [hsame.rest]; rfl, by rw [hsame.rest]; rfl, ?_⟩
    exact .bybit (BybitCodec.start profile.credentials) _ (isSome_eq_of_rel hsame.credentials).symm

theorem Plan.assemble_same {terms terms' : Terms} (hterms : terms.SameButLogin terms') :
    SameOutcome Plan.Indistinguishable (Plan.assemble config terms.url terms.ping terms.codec)
      (Plan.assemble other terms'.url terms'.ping terms'.codec) := by
  have hheaders : other.headers = config.headers := by
    rw [h.rest]
    rfl
  unfold assemble
  rw [hheaders, ← hterms.url, ← hterms.ping]
  cases Endpoint.ofUrl terms.url config.headers with
  | error cause => exact .error _
  | ok endpoint =>
    refine .ok ⟨h.label_eq, ?_, rfl, ?_, ?_, ?_⟩
    · rw [h.label_eq, h.settings_eq]
    · rw [h.rest]
    · exact fun calls hcalls => hterms.codec.answers_eq hcalls
    · exact hterms.codec.answers

theorem Plan.ofConfig_same :
    SameOutcome Plan.Indistinguishable (Plan.ofConfig config) (Plan.ofConfig other) := by
  have hexchange : other.exchange = config.exchange := by rw [h.rest]
  by_cases hnamed : ∃ exchange : Exchange, Text.lowercase config.exchange = exchange.name
  · obtain ⟨exchange, hnamed⟩ := hnamed
    rw [ofConfig_eq hnamed, ofConfig_eq (hexchange.symm ▸ hnamed)]
    exact (Exchange.terms_same h exchange).bind fun _ _ hterms => assemble_same h hterms
  · rw [not_exists] at hnamed
    rw [ofConfig_eq_error hnamed, ofConfig_eq_error (hexchange.symm ▸ hnamed), hexchange]
    exact .error _

/-- The secrets of a connection do not show. -/
theorem indistinguishable_of_sameButSecrets : Indistinguishable config other where
  label := h.label_eq
  shown := h.debug_eq
  shownCredentials := h.shown_credentials
  settings := h.settings_eq
  required := h.requireCredentials.map_eq fun _ _ hsame => hsame.debug_eq
  okx := (okx_ofConfig_same h).map_eq fun _ _ hsame => hsame.debug_eq
  okxCredentials := (okx_ofConfig_same h).map_eq fun _ _ hsame => hsame.shown_credentials
  bybit := (bybit_ofConfig_same h).map_eq fun _ _ hsame => hsame.debug_eq
  bybitCredentials := (bybit_ofConfig_same h).map_eq fun _ _ hsame => hsame.shown_credentials
  plan := Plan.ofConfig_same h

omit h

def otherSecrets : ConnectionConfig :=
  { privateConnection with credentials := some ⟨"key", "another", some "phrase"⟩ }

theorem privateConnection_indistinguishable : privateConnection.SameButSecrets otherSecrets ∧
    privateConnection ≠ otherSecrets ∧ Indistinguishable privateConnection otherSecrets := by
  have hsame : privateConnection.SameButSecrets otherSecrets :=
    ⟨rfl, .some ⟨rfl, by decide, rfl⟩⟩
  exact ⟨hsame, by decide, indistinguishable_of_sameButSecrets hsame⟩

end Feed

end ChannelMux
