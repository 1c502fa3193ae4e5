import ChannelMux.Config.Error
import ChannelMux.Connection.Settings
import ChannelMux.Text.Diagnostic

/-!
Configured connections: what a configuration may say about each, and what follows from it.
-/
namespace ChannelMux

/-- What a private connection logs in with. The secret and the passphrase are never shown. -/
structure Credentials where
  apiKey : String
  secretKey : String
  /-- Asked for by some exchanges only. -/
  passphrase : Option String
deriving DecidableEq

/-- How to reconnect; what is left out keeps its standard. -/
structure ReconnectConfig where
  initialDelayMs : Option Nat
  maxDelayMs : Option Nat
  factor : Option Binary64
  maxRetries : Option Nat
deriving DecidableEq, Repr

structure ConnectionConfig where
  /-- What the connection is called in logs. -/
  name : Option String
  exchange : String
  /-- An address other than the exchange's own. -/
  url : Option String
  /-- The connection logs in. -/
  isPrivate : Bool
  /-- The product category of a public stream, where the exchange has such. -/
  category : Option String
  credentials : Option Credentials
  pingIntervalSec : Option Nat
  idleTimeoutSec : Option Nat
  connectTimeoutSec : Option Nat
  loginTimeoutSec : Option Nat
  unsubscribeTimeoutSec : Option Nat
  maxOutboundPerSec : Option Nat
  reconnect : Option ReconnectConfig
  /-- Additional headers of the handshake. -/
  extraHeaders : Option (List (String × String))
  /-- The channels to subscribe from the start. -/
  channels : List ChannelRequest
deriving DecidableEq

/-- What a configuration says about the program itself. -/
structure ModuleConfig where
  moduleName : Option String
  logPath : Option String
deriving DecidableEq, Repr

structure Config where
  info : Option ModuleConfig
  connections : List ConnectionConfig
deriving DecidableEq

namespace Config

def moduleName (config : Config) : Option String := config.info.bind ModuleConfig.moduleName
def logPath (config : Config) : Option String := config.info.bind ModuleConfig.logPath

end Config

open Text (quoted)
open Text.Diagnostic (record option list flag textMap)

/-- What stands for a secret in diagnostics. -/
def redacted : String := quoted "<redacted>"

def Credentials.debug (credentials : Credentials) : String :=
  record "Credentials" [("api_key", quoted credentials.apiKey), ("secret_key", redacted),
    ("passphrase", option (fun _ => redacted) credentials.passphrase)]

namespace ReconnectConfig

def policy (config : ReconnectConfig) : RetryPolicy where
  initialDelay :=
    (config.initialDelayMs.map (· * nanosPerMilli)).getD RetryPolicy.standard.initialDelay
  maxDelay := (config.maxDelayMs.map (· * nanosPerMilli)).getD RetryPolicy.standard.maxDelay
  factor := config.factor.getD RetryPolicy.standard.factor
  maxRetries := config.maxRetries

def debug (config : ReconnectConfig) : String :=
  record "ReconnectSettings" [("initial_delay_ms", option toString config.initialDelayMs),
    ("max_delay_ms", option toString config.maxDelayMs),
    ("factor", Decimal.writeOption config.factor),
    ("max_retries", option toString config.maxRetries)]

end ReconnectConfig

namespace ConnectionConfig

/-- The given name, or one made of the exchange and the visibility. -/
def label (config : ConnectionConfig) : String :=
  match config.name with
  | some name => name
  | none => config.exchange ++ (if config.isPrivate then "_private" else "_public")

/-- The credentials a private connection cannot do without. -/
def requireCredentials (config : ConnectionConfig) : Except ConfigError Credentials :=
  match config.credentials with
  | none => .error (.noCredentials config.label)
  | some credentials =>
    if credentials.apiKey = "" ∨ credentials.secretKey = "" then
      .error (.emptyCredentials config.label)
    else .ok credentials

def headers (config : ConnectionConfig) : List (String × String) := config.extraHeaders.getD []

/-- The settings of a connection. Zero turns the keep-alive, the idle timeout and the cap off. -/
def settings (config : ConnectionConfig) (label : String) : Settings :=
  let standard := Settings.standard
  let seconds (value : Option Nat) (default : Nat) := (value.map (· * nanosPerSecond)).getD default
  { label
    connectTimeout := seconds config.connectTimeoutSec standard.connectTimeout
    loginTimeout := seconds config.loginTimeoutSec standard.loginTimeout
    ping := (config.pingIntervalSec.filter (0 < ·)).map (fun s => ⟨s * nanosPerSecond, .socketPing⟩)
    idleTimeout := (config.idleTimeoutSec.filter (0 < ·)).map (· * nanosPerSecond)
    reconnect := (config.reconnect.map ReconnectConfig.policy).getD standard.reconnect
    unsubscribeTimeout := seconds config.unsubscribeTimeoutSec standard.unsubscribeTimeout
    maxOutboundPerSecond := config.maxOutboundPerSec.filter (0 < ·)
    eventCapacity := standard.eventCapacity }

def debug (config : ConnectionConfig) : String :=
  record "ConnectionConfig" [
    ("name", option quoted config.name),
    ("exchange", quoted config.exchange),
    ("url", option quoted config.url),
    ("private", flag config.isPrivate),
    ("category", option quoted config.category),
    ("credentials", option Credentials.debug config.credentials),
    ("ping_interval_sec", option toString config.pingIntervalSec),
    ("idle_timeout_sec", option toString config.idleTimeoutSec),
    ("connect_timeout_sec", option toString config.connectTimeoutSec),
    ("login_timeout_sec", option toString config.loginTimeoutSec),
    ("unsubscribe_timeout_sec", option toString config.unsubscribeTimeoutSec),
    ("max_outbound_per_sec", option toString config.maxOutboundPerSec),
    ("reconnect", option ReconnectConfig.debug config.reconnect),
    ("extra_headers", option textMap config.extraHeaders),
    ("channels", list (config.channels.map (fun channel =>
      record "ChannelSpec" [("name", quoted channel.name),
        ("args", list (channel.args.map quoted))])))]

end ConnectionConfig

end ChannelMux
