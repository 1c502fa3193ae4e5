import ChannelMux.Config.Model
import ChannelMux.Bybit.Codec

/-!
A Bybit connection as configured: where to connect, for which product, what to log in with and how
often to ping.
-/
namespace ChannelMux.Bybit

def baseUrl : String := "wss://stream.bybit.com/v5"

structure Profile where
  url : String
  category : Category
  /-- Present on private connections. -/
  credentials : Option Credentials
  pingIntervalSec : Nat
deriving DecidableEq

/-- The configured category, linear products if there is none. -/
def categoryOf (config : ConnectionConfig) : Except ConfigError Category :=
  match config.category with
  | none => .ok .linear
  | some text =>
    match Category.parse? text with
    | some category => .ok category
    | none => .error (.unknownCategory config.label text)

def credentialsOf (config : ConnectionConfig) : Except ConfigError Credentials :=
  config.requireCredentials.map (fun given => ⟨given.apiKey, given.secretKey⟩)

/-- A public connection has no credentials even if some are configured. -/
def Profile.ofConfig (config : ConnectionConfig) : Except ConfigError Profile := do
  let category ← categoryOf config
  let login ← if config.isPrivate then (credentialsOf config).map some else .ok none
  .ok {
    url := config.url.getD (baseUrl ++
      (if config.isPrivate then "/private" else "/public/" ++ category.name))
    category
    credentials := login
    pingIntervalSec := config.pingIntervalSec.getD 20 }

def keepAlive : Json.Value :=
  .ofMembers [("req_id", .string "ping"), ("op", .string "ping")]

def Profile.ping (profile : Profile) : Option Ping :=
  if 0 < profile.pingIntervalSec then
    some ⟨profile.pingIntervalSec * nanosPerSecond, .json keepAlive⟩
  else none

open Text (quoted)
open Text.Diagnostic (record partialRecord option)

def Credentials.debug (credentials : Credentials) : String :=
  partialRecord "BybitCredentials" [("api_key", quoted credentials.apiKey)]

/-- The name of a category as a constructor. -/
def Category.debug : Category → String
  | .spot => "Spot"
  | .linear => "Linear"
  | .inverse => "Inverse"
  | .option => "Option"

def Profile.debug (profile : Profile) : String :=
  record "BybitConfig" [("url", quoted profile.url), ("category", profile.category.debug),
    ("credentials", option Credentials.debug profile.credentials),
    ("ping_interval_sec", toString profile.pingIntervalSec)]

end ChannelMux.Bybit
