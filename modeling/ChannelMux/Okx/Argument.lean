import ChannelMux.Error
import ChannelMux.Json.Value
import ChannelMux.Okx.Symbol

/-!
Channel arguments on OKX. A subscription is identified by an argument object, which the exchange
echoes with every push, so keys are read off the same fields on both sides.
-/
namespace ChannelMux.Okx

open Json

/-- The argument a request is sent with. -/
structure Argument where
  channel : String
  instType : Option String
  instId : Option String
  ccy : Option String
deriving DecidableEq, Repr

namespace Argument

/-- Account channels that go by instrument type, any type unless one is given. -/
def byType : List String := ["orders", "positions", "orders-algo", "algo-advance", "fills"]

/-- Channels without arguments. -/
def bare : List String := ["balance_and_position", "liquidation-warning", "account-greeks"]

def ofRequest (request : ChannelRequest) : Except Error Argument :=
  let name := request.name
  if name ∈ byType then
    .ok {
      channel := name
      instType := some (Text.upperAscii ((request.arg 0).getD "ANY"))
      instId := (request.arg 1).map instrument
      ccy := none }
  else if name = "account" then .ok ⟨name, none, none, (request.arg 0).map Text.upperAscii⟩
  else if name ∈ bare then .ok ⟨name, none, none, none⟩
  else if name = "instruments" then
    match request.arg 0 with
    | none => .error (.encode "instruments needs an instrument type")
    | some kind => .ok ⟨name, some (Text.upperAscii kind), none, none⟩
  else
    match request.arg 0 with
    | none => .error (.encode (name ++ " needs an instrument id"))
    | some symbol => .ok ⟨name, none, some (instrument symbol), none⟩

def toValue (argument : Argument) : Value :=
  let member (name : String) (text : Option String) : List (String × Value) :=
    match text with
    | some text => [(name, .string text)]
    | none => []
  .ofMembers (("channel", .string argument.channel) :: (member "instType" argument.instType
    ++ member "instId" argument.instId ++ member "ccy" argument.ccy))

end Argument

/-- The fields besides the channel that identify a subscription, in the order of the key. -/
def keyFields : List String := ["instType", "instFamily", "instId", "ccy"]

def textField? (argument : Value) (name : String) : Option String :=
  (argument.get? name).bind Value.string?

/-- The channel key of an argument object, whether requested or echoed. -/
def keyOf? (argument : Value) : Option ChannelKey :=
  (textField? argument "channel").map (fun channel =>
    ChannelKey.ofParts channel (keyFields.filterMap (textField? argument)))

/-- The key under which a request is shared. One that cannot be sent keeps its canonical key. -/
def subscriptionKey (request : ChannelRequest) : ChannelKey :=
  match Argument.ofRequest request with
  | .ok argument => (keyOf? argument.toValue).getD request.key
  | .error _ => request.key

end ChannelMux.Okx
