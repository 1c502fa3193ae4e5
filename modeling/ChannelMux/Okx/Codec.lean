import ChannelMux.Codec.Basic
import ChannelMux.Digest.Hmac
import ChannelMux.Market.Reading
import ChannelMux.Okx.Argument

/-!
The OKX protocol. Every request carries one channel argument and an id of its own; pushes and most
replies echo the argument. An error reply may not, so the channel of every subscribe is remembered
under its id until the exchange has answered it.
-/
namespace ChannelMux

namespace Okx

/-- What a private connection logs in with. -/
structure Credentials where
  apiKey : String
  secretKey : String
  passphrase : String
deriving DecidableEq

end Okx

/-- What an OKX connection remembers: the next request id and the subscribes not yet answered. -/
structure OkxCodec where
  credentials : Option Okx.Credentials
  nextId : Nat
  pending : List (String × ChannelKey)

namespace OkxCodec

open Json Market Okx

def start (credentials : Option Credentials) : OkxCodec := ⟨credentials, 1, []⟩

def request (codec : OkxCodec) (op : String) (argument : Argument) : Frame :=
  .text (Value.ofMembers [("id", .string (toString codec.nextId)), ("op", .string op),
    ("args", .array [argument.toValue])]).write

def encodeSubscribe (codec : OkxCodec) (request : ChannelRequest) :
    Except Error (Frame × OkxCodec) :=
  (Argument.ofRequest request).map (fun argument =>
    let key := (keyOf? argument.toValue).getD request.key
    (codec.request "subscribe" argument,
      { codec with
        nextId := codec.nextId + 1
        pending := codec.pending ++ [(toString codec.nextId, key)] }))

def encodeUnsubscribe (codec : OkxCodec) (request : ChannelRequest) :
    Except Error (Frame × OkxCodec) :=
  (Argument.ofRequest request).map (fun argument =>
    (codec.request "unsubscribe" argument, { codec with nextId := codec.nextId + 1 }))

/-- Forgets the subscribe with an id. -/
def settleId (codec : OkxCodec) (id : String) : OkxCodec :=
  { codec with pending := codec.pending.filter (fun (i, _) => i ≠ id) }

/-- Forgets every subscribe of a key. -/
def settleKey (codec : OkxCodec) (key : ChannelKey) : OkxCodec :=
  { codec with pending := codec.pending.filter (fun (_, k) => k ≠ key) }

/-- Reads an event message. An acknowledgement without an id is matched by its argument. -/
def decodeEvent (codec : OkxCodec) (event : String) (message : Value) : ControlEvent × OkxCodec :=
  let id := (message.get? "id").bind Value.string?
  let echoed := (message.get? "arg").bind keyOf?
  let code := (fieldText? message "code").getD ""
  let text := (fieldText? message "msg").getD ""
  match event with
  | "subscribe" =>
    let settled := match id, echoed with
      | some id, _ => codec.settleId id
      | none, some key => codec.settleKey key
      | none, none => codec
    ((echoed.map ControlEvent.subscribeAck).getD .heartbeat, settled)
  | "unsubscribe" => ((echoed.map ControlEvent.unsubscribeAck).getD .heartbeat, codec)
  | "login" =>
    (if code = "" ∨ code = "0" then .loginAck else .loginError (code ++ ": " ++ text), codec)
  | "error" =>
    let asked := id.bind (fun id => codec.pending.lookup id)
    let settled := match id with
      | some id => codec.settleId id
      | none => codec
    (match asked.or echoed with
      | some key => .subscribeError key (code ++ ": " ++ text)
      | none => .error (code ++ ": " ++ text), settled)
  | "notice" | "channel-conn-count-error" =>
    (.error (event ++ " " ++ code ++ ": " ++ text), codec)
  | _ => (.heartbeat, codec)

def ticker? (data : Value) : Option Ticker := do
  let item ← (← data.array?).head?
  some {
    symbol := ← textField? item "instId"
    last := (item.get? "last").bind double?
    bidPrice := (item.get? "bidPx").bind double?
    bidSize := (item.get? "bidSz").bind double?
    askPrice := (item.get? "askPx").bind double?
    askSize := (item.get? "askSz").bind double?
    timeMs := ((item.get? "ts").bind nat?).getD 0 }

def trade? (item : Value) : Option Trade := do
  some {
    symbol := ← textField? item "instId"
    id := ← fieldText? item "tradeId"
    price := ← (item.get? "px").bind double?
    size := ← (item.get? "sz").bind double?
    side := ← (textField? item "side").bind Side.parse?
    timeMs := ← (item.get? "ts").bind nat? }

/-- The text behind the last `:`. -/
def lastPart (key : ChannelKey) : String :=
  String.ofList (key.text.toList.reverse.takeWhile (· ≠ ':')).reverse

/-- A book without an instrument goes by the end of its key. -/
def book? (data : Value) (key : ChannelKey) (snapshot : Bool) : Option Book := do
  let item ← (← data.array?).head?
  some {
    symbol := (textField? item "instId").getD (lastPart key)
    snapshot
    bids := levels (item.get? "bids")
    asks := levels (item.get? "asks")
    sequence := (item.get? "seqId").bind nat?
    timeMs := ← (item.get? "ts").bind nat? }

/-- Channels that carry order books. -/
def bookChannels : List String := ["books", "books5", "bbo-tbt", "books-l2-tbt", "books50-l2-tbt"]

def payload? (key : ChannelKey) (snapshot : Bool) (data : Value) : Option Payload :=
  let channel := key.channel
  if channel = "tickers" then (ticker? data).map .ticker
  else if channel = "trades" ∨ channel = "trades-all" then
    (data.array?.bind (·.mapM trade?)).map .trades
  else if channel ∈ bookChannels then (book? data key snapshot).map .book
  else some (.raw data)

/-- Reads a message that is no event. -/
def decodePush (message : Value) : Except Error Event :=
  match message.get? "arg" with
  | none => .error (.decode "message without event or arg")
  | some argument =>
    match keyOf? argument with
    | none => .error (.decode "arg without channel")
    | some key =>
      match message.get? "data" with
      | none => .error (.decode (key.text ++ ": no data"))
      | some data =>
        let snapshot := (message.get? "action").bind Value.string? ≠ some "update"
        match payload? key snapshot data with
        | none => .error (.decode (key.text ++ ": unexpected payload shape"))
        | some payload => .ok ⟨key, payload⟩

def decodeFrame (codec : OkxCodec) (frame : Frame) : Except Error (Envelope Event × OkxCodec) :=
  match frame.text? with
  | none => .error (.decode "unexpected binary frame")
  -- the answer to the keep-alive is no JSON
  | some "pong" => .ok (.control .heartbeat, codec)
  | some text =>
    match Value.parse? text with
    | none => .error .notJson
    | some message =>
      match (message.get? "event").bind Value.string? with
      | some event =>
        let (control, codec) := codec.decodeEvent event message
        .ok (.control control, codec)
      | none => (decodePush message).map (fun event => (.data event, codec))

/-- The login signs the time in seconds. -/
def encodeLogin (codec : OkxCodec) (now : Nat) : Option Frame :=
  codec.credentials.map (fun credentials =>
    let timestamp := toString (now / 1000)
    let sign := Digest.hmacBase64 credentials.secretKey (timestamp ++ "GET/users/self/verify")
    .text (Value.ofMembers [("op", .string "login"), ("args", .array [Value.ofMembers [
      ("apiKey", .string credentials.apiKey), ("passphrase", .string credentials.passphrase),
      ("timestamp", .string timestamp), ("sign", .string sign)]])]).write)

instance : Codec OkxCodec Event where
  encodeSubscribe := encodeSubscribe
  encodeUnsubscribe := encodeUnsubscribe
  decode := decodeFrame
  channelOf _ event := some event.key
  subscriptionKey _ := Okx.subscriptionKey
  encodeLogin codec now := .ok (codec.encodeLogin now, codec)
  reset codec := { codec with pending := [] }

end OkxCodec

end ChannelMux
