import ChannelMux.Config.Model
import ChannelMux.Json.Record

/-!
Reading a configuration from JSON text.
-/
namespace ChannelMux

open Json

def nat64Max : Nat := twoTo 64 - 1
def nat32Max : Nat := twoTo 32 - 1

namespace Config

def channel? (source : Source) : Option ChannelRequest := do
  let [name, args] ← source.fields? ["name", "args"] | none
  some ⟨← name.required Source.text?, ← args.orElse [] (Source.listOf? Source.text?)⟩

def credentials? (source : Source) : Option Credentials := do
  let [apiKey, secretKey, passphrase] ← source.fields? ["api_key", "secret_key", "passphrase"]
    | none
  some ⟨← apiKey.required Source.text?, ← secretKey.required Source.text?,
    ← passphrase.optional Source.text?⟩

def reconnect? (source : Source) : Option ReconnectConfig := do
  let [initialDelay, maxDelay, factor, maxRetries] ←
    source.fields? ["initial_delay_ms", "max_delay_ms", "factor", "max_retries"] | none
  some {
    initialDelayMs := ← initialDelay.optional (Source.natUpTo? nat64Max)
    maxDelayMs := ← maxDelay.optional (Source.natUpTo? nat64Max)
    factor := ← factor.optional Source.double?
    maxRetries := ← maxRetries.optional (Source.natUpTo? nat32Max) }

def connectionFields : List String :=
  ["name", "exchange", "url", "private", "category", "credentials", "ping_interval_sec",
    "idle_timeout_sec", "connect_timeout_sec", "login_timeout_sec", "unsubscribe_timeout_sec",
    "max_outbound_per_sec", "reconnect", "extra_headers", "channels"]

def connection? (source : Source) : Option ConnectionConfig := do
  let [name, exchange, url, visibility, category, credentials, ping, idle, connect, login,
    unsubscribe, outbound, reconnect, headers, channels] ← source.fields? connectionFields | none
  let seconds := Source.natUpTo? nat64Max
  some {
    name := ← name.optional Source.text?
    exchange := ← exchange.required Source.text?
    url := ← url.optional Source.text?
    isPrivate := ← visibility.orElse false Source.flag?
    category := ← category.optional Source.text?
    credentials := ← credentials.optional credentials?
    pingIntervalSec := ← ping.optional seconds
    idleTimeoutSec := ← idle.optional seconds
    connectTimeoutSec := ← connect.optional seconds
    loginTimeoutSec := ← login.optional seconds
    unsubscribeTimeoutSec := ← unsubscribe.optional seconds
    maxOutboundPerSec := ← outbound.optional (Source.natUpTo? nat32Max)
    reconnect := ← reconnect.optional reconnect?
    extraHeaders := ← headers.optional Source.textMap?
    channels := ← channels.orElse [] (Source.listOf? channel?) }

def info? (source : Source) : Option ModuleConfig := do
  let [moduleName, logPath] ← source.fields? ["module_name", "log_path"] | none
  some ⟨← moduleName.optional Source.text?, ← logPath.optional Source.text?⟩

def ofSource? (source : Source) : Option Config := do
  let [info, connections] ← source.fields? ["module", "connections"] | none
  some ⟨← info.optional info?, ← connections.required (Source.listOf? connection?)⟩

/-- A configuration has at least one connection. -/
def parse (text : String) : Except ConfigError Config :=
  match (Source.parse? text).bind ofSource? with
  | none => .error .malformed
  | some config => if config.connections.isEmpty then .error .noConnections else .ok config

/-- Parses the content of a file, if there is such a file. -/
def load (path : String) (content : Option ByteArray) : Except ConfigError Config :=
  match content with
  | none => .error (.reading path "No such file or directory (os error 2)")
  | some bytes =>
    match String.fromUTF8? bytes with
    | none => .error (.reading path "stream did not contain valid UTF-8")
    | some text => (parse text).mapError (.parsing path)

end Config

end ChannelMux
