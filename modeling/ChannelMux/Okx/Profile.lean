import ChannelMux.Config.Model
import ChannelMux.Okx.Codec

/-!
An OKX connection as configured: where to connect, what to log in with and how often to ping.
-/
namespace ChannelMux.Okx

def publicUrl : String := "wss://ws.okx.com:8443/ws/v5/public"
def privateUrl : String := "wss://ws.okx.com:8443/ws/v5/private"

structure Profile where
  url : String
  /-- Present on private connections. -/
  credentials : Option Credentials
  /-- Sockets idle for thirty seconds are dropped by the exchange. -/
  pingIntervalSec : Nat
deriving DecidableEq

def credentialsOf (config : ConnectionConfig) : Except ConfigError Credentials := do
  let given ← config.requireCredentials
  match given.passphrase with
  | none => .error (.noPassphrase config.label)
  | some passphrase => .ok ⟨given.apiKey, given.secretKey, passphrase⟩

/-- A public connection has no credentials even if some are configured. -/
def Profile.ofConfig (config : ConnectionConfig) : Except ConfigError Profile := do
  let login ← if config.isPrivate then (credentialsOf config).map some else .ok none
  .ok {
    url := config.url.getD (if config.isPrivate then privateUrl else publicUrl)
    credentials := login
    pingIntervalSec := config.pingIntervalSec.getD 25 }

/-- The keep-alive is a bare word. -/
def Profile.ping (profile : Profile) : Option Ping :=
  if 0 < profile.pingIntervalSec then
    some ⟨profile.pingIntervalSec * nanosPerSecond, .text "ping"⟩
  else none

open Text (quoted)
open Text.Diagnostic (record partialRecord option)

def Credentials.debug (credentials : Credentials) : String :=
  partialRecord "OkxCredentials" [("api_key", quoted credentials.apiKey)]

def Profile.debug (profile : Profile) : String :=
  record "OkxConfig" [("url", quoted profile.url),
    ("credentials", option Credentials.debug profile.credentials),
    ("ping_interval_sec", toString profile.pingIntervalSec)]

end ChannelMux.Okx
