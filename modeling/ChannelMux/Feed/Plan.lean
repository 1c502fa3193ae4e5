import ChannelMux.Bybit.Profile
import ChannelMux.Endpoint
import ChannelMux.Okx.Profile
import ChannelMux.Text.Lowercase

/-!
Feeds planned from configured connections: which exchange is spoken, where, how and about what.
-/
namespace ChannelMux.Feed

/-- The protocol of one of the known exchanges. -/
inductive ExchangeCodec where
  | okx (codec : OkxCodec)
  | bybit (codec : BybitCodec)

/-- The first frame of a connection that speaks this protocol, if it logs in. -/
def ExchangeCodec.login (codec : ExchangeCodec) (now : Nat) : Except Error (Option Frame) :=
  match codec with
  | okx codec => (Codec.encodeLogin codec now).map Prod.fst
  | bybit codec => (Codec.encodeLogin codec now).map Prod.fst

structure Plan where
  name : String
  settings : Settings
  endpoint : Endpoint
  codec : ExchangeCodec
  channels : List ChannelRequest

/-- Puts a plan together once the exchange has had its say. -/
def Plan.assemble (config : ConnectionConfig) (url : String) (ping : Option Ping)
    (codec : ExchangeCodec) : Except ConfigError Plan :=
  match Endpoint.ofUrl url config.headers with
  | .error cause => .error (.address cause)
  | .ok endpoint =>
    .ok {
      name := config.label
      settings := { config.settings ("mux-" ++ config.label) with ping }
      endpoint
      codec
      channels := config.channels }

/-- Plans the feed of a connection. The exchange is named in any case of letters. -/
def Plan.ofConfig (config : ConnectionConfig) : Except ConfigError Plan :=
  match Text.lowercase config.exchange with
  | "okx" => do
    let profile ← Okx.Profile.ofConfig config
    assemble config profile.url profile.ping (.okx (OkxCodec.start profile.credentials))
  | "bybit" => do
    let profile ← Bybit.Profile.ofConfig config
    assemble config profile.url profile.ping (.bybit (BybitCodec.start profile.credentials))
  | other => .error (.unknownExchange other)

end ChannelMux.Feed
