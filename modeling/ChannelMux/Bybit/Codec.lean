import ChannelMux.Codec.Basic
import ChannelMux.Digest.Hmac
import ChannelMux.Market.Reading
import ChannelMux.Bybit.Symbol

/-!
The Bybit protocol. A channel is a dotted topic, which is also its key. Replies do not echo the
topic, only the request id, so every request is remembered under its id until its reply arrives.
-/
namespace ChannelMux

namespace Bybit

/-- What a private connection logs in with. -/
structure Credentials where
  apiKey : String
  secretKey : String
deriving DecidableEq

/-- A request whose reply is awaited. -/
inductive Asked where
  | subscribe (key : ChannelKey)
  | unsubscribe (key : ChannelKey)
deriving DecidableEq, Repr

/-- An argument behind a dot, or nothing if it is empty. -/
def topicPart (write : List Char → List Char) (arg : String) : List Char :=
  match Text.trimChars arg.toList with
  | [] => []
  | c :: rest => '.' :: write (c :: rest)

/-- The argument in last place is a symbol; any other is taken as it is. -/
def topicArgs : List String → List Char
  | [] => []
  | [arg] => topicPart symbolChars arg
  | arg :: next :: rest => topicPart id arg ++ topicArgs (next :: rest)

/-- The dotted topic of a request. -/
def topic (request : ChannelRequest) : String :=
  String.ofList (Text.trimChars request.name.toList ++ topicArgs request.args)

end Bybit

/-- What a Bybit connection remembers: the next request id and the requests not yet answered. -/
structure BybitCodec where
  credentials : Option Bybit.Credentials
  nextId : Nat
  pending : List (String × Bybit.Asked)

namespace BybitCodec

open Json Market Bybit

/-- A login signature is good for this many milliseconds. -/
def loginWindow : Nat := 10000

def start (credentials : Option Credentials) : BybitCodec := ⟨credentials, 1, []⟩

/-- Writes a request about one topic and remembers it. -/
def operation (codec : BybitCodec) (op : String) (asked : ChannelKey → Asked)
    (request : ChannelRequest) : Frame × BybitCodec :=
  let id := toString codec.nextId
  (.text (Value.ofMembers [("req_id", .string id), ("op", .string op),
    ("args", .array [.string (topic request)])]).write,
    { codec with
      nextId := codec.nextId + 1
      pending := codec.pending ++ [(id, asked ⟨topic request⟩)] })

def encodeSubscribe (codec : BybitCodec) (request : ChannelRequest) :
    Except Error (Frame × BybitCodec) :=
  if Text.trim request.name = "" then .error (.encode "empty topic")
  else .ok (codec.operation "subscribe" .subscribe request)

/-- Reads the reply to a request, which is awaited no longer. -/
def decodeReply (codec : BybitCodec) (op : String) (message : Value) : ControlEvent × BybitCodec :=
  let success := ((message.get? "success").bind Value.bool?).getD true
  let text := (fieldText? message "ret_msg").getD ""
  let id := fieldText? message "req_id"
  let asked := id.bind (fun id => codec.pending.lookup id)
  let settled := match id with
    | some id => { codec with pending := codec.pending.filter (fun (i, _) => i ≠ id) }
    | none => codec
  let event :=
    if op = "auth" then if success then .loginAck else .loginError text
    else match asked with
      | some (.subscribe key) => if success then .subscribeAck key else .subscribeError key text
      | some (.unsubscribe key) => .unsubscribeAck key
      | none => if op = "ping" ∨ op = "pong" ∨ success then .heartbeat else .error text
  (event, settled)

def textField? (item : Value) (name : String) : Option String := (item.get? name).bind Value.string?

def ticker? (data : Value) (timeMs : Nat) : Option Ticker := do
  some {
    symbol := ← textField? data "symbol"
    last := (data.get? "lastPrice").bind double?
    bidPrice := (data.get? "bid1Price").bind double?
    bidSize := (data.get? "bid1Size").bind double?
    askPrice := (data.get? "ask1Price").bind double?
    askSize := (data.get? "ask1Size").bind double?
    timeMs }

def trade? (item : Value) : Option Trade := do
  some {
    symbol := ← textField? item "s"
    id := ← fieldText? item "i"
    price := ← (item.get? "p").bind double?
    size := ← (item.get? "v").bind double?
    side := ← (textField? item "S").bind Side.parse?
    timeMs := ← (item.get? "T").bind nat? }

def book? (data : Value) (snapshot : Bool) (timeMs : Nat) : Option Book := do
  some {
    symbol := ← textField? data "s"
    snapshot
    bids := levels (data.get? "b")
    asks := levels (data.get? "a")
    sequence := (data.get? "u").bind nat?
    timeMs }

/-- The first part of a topic, which tells the kind of its payload. -/
def topicKind (topic : String) : String := String.ofList (topic.toList.takeWhile (· ≠ '.'))

def payload? (topic : String) (snapshot : Bool) (timeMs : Nat) (data : Value) : Option Payload :=
  match topicKind topic with
  | "orderbook" => (book? data snapshot timeMs).map .book
  | "publicTrade" => (data.array?.bind (·.mapM trade?)).map .trades
  | "tickers" => (ticker? data timeMs).map .ticker
  | _ => some (.raw data)

/-- Reads a message that is no reply. -/
def decodePush (message : Value) : Except Error Event :=
  match textField? message "topic" with
  | none => .error (.decode "message without op or topic")
  | some topic =>
    match message.get? "data" with
    | none => .error (.decode (topic ++ ": no data"))
    | some data =>
      let snapshot := textField? message "type" ≠ some "delta"
      let timeMs := ((message.get? "ts").bind nat?).getD 0
      match payload? topic snapshot timeMs data with
      | none => .error (.decode (topic ++ ": unexpected payload shape"))
      | some payload => .ok ⟨⟨topic⟩, payload⟩

def decodeFrame (codec : BybitCodec) (frame : Frame) :
    Except Error (Envelope Event × BybitCodec) :=
  match frame.text? with
  | none => .error (.decode "unexpected binary frame")
  | some text =>
    match Value.parse? text with
    | none => .error .notJson
    | some message =>
      match textField? message "op" with
      | some op =>
        let (control, codec) := codec.decodeReply op message
        .ok (.control control, codec)
      | none => (decodePush message).map (fun event => (.data event, codec))

/-- The login signs the time at which it expires and takes a request id. -/
def encodeLogin (codec : BybitCodec) (now : Nat) : Option Frame × BybitCodec :=
  match codec.credentials with
  | none => (none, codec)
  | some credentials =>
    let expires := now + loginWindow
    let signature := Digest.hmacHex credentials.secretKey ("GET/realtime" ++ toString expires)
    (some (.text (Value.ofMembers [("req_id", .string (toString codec.nextId)),
      ("op", .string "auth"), ("args", .array [.string credentials.apiKey, .number (.int expires),
        .string signature])]).write),
      { codec with nextId := codec.nextId + 1 })

instance : Codec BybitCodec Event where
  encodeSubscribe := encodeSubscribe
  encodeUnsubscribe codec request := .ok (codec.operation "unsubscribe" .unsubscribe request)
  decode := decodeFrame
  channelOf _ event := some event.key
  subscriptionKey _ request := ⟨topic request⟩
  encodeLogin codec now := .ok (codec.encodeLogin now)
  reset codec := { codec with pending := [] }

end BybitCodec

end ChannelMux
