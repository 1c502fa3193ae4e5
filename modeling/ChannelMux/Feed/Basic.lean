import ChannelMux.Client.Basic

/-!
A feed: a list of channels that are read from one client while the feed runs. Channels are
subscribed before the client connects, so that the first connection requests all of them.
-/
namespace ChannelMux

/-- What runs on behalf of a feed. -/
structure FeedTasks where
  /-- The readers, one per channel, by their number at the client. -/
  readers : List Nat
  /-- The call that connects. -/
  connect : Nat
deriving DecidableEq, Repr

structure Feed where
  name : String
  channels : List ChannelRequest
  /-- Nothing, while the feed is stopped. -/
  tasks : Option FeedTasks
deriving DecidableEq, Repr

namespace Feed

variable {κ ν : Type} [Codec κ ν]

def ofChannels (name : String) (channels : List ChannelRequest) : Feed := ⟨name, channels, none⟩

/-- Subscribes every channel and begins to connect. A feed that runs is left alone. -/
def start (feed : Feed) (client : Client κ ν) : Feed × Client κ ν :=
  match feed.tasks with
  | some _ => (feed, client)
  | none =>
    let tasks := ⟨List.range' client.readers.length feed.channels.length, client.calls.length⟩
    ({ feed with tasks := some tasks }, (feed.channels.foldl Client.attach client).begin .connect)

/-- The readers to be let go of, one after the other, when the feed stops. -/
def readers (feed : Feed) : List Nat := (feed.tasks.map FeedTasks.readers).getD []

/-- Nobody waits for the feed's connect any more. -/
def abandonConnect (feed : Feed) (client : Client κ ν) : Client κ ν :=
  match feed.tasks with
  | none => client
  | some tasks =>
    if (client.calls[tasks.connect]?).any Call.isPending then
      client.setCall tasks.connect .abandoned
    else client

/-- The feed once its tasks are gone; what is left is to disconnect the client. -/
def stopped (feed : Feed) : Feed := { feed with tasks := none }

end Feed

end ChannelMux
