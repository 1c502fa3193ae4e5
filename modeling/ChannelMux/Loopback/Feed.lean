import ChannelMux.Feed.Basic
import ChannelMux.Loopback.Basic

/-!
A feed on a transport in memory. While a feed stops, the manager goes on between one reader and the
next.
-/
namespace ChannelMux.Loopback

variable {κ ν : Type} [Codec κ ν]

def startFeed (w : Loopback κ ν) (feed : Feed) : Feed × Loopback κ ν :=
  let (feed, client) := feed.start w.client
  let w := { w with client }.wakeNudged
  (feed, w.wakeCalls (fun call => call matches .connect))

def detach (w : Loopback κ ν) (n : Nat) : Loopback κ ν :=
  { w with client := w.client.detach n }.wakeNudged.settle

def stopFeed (w : Loopback κ ν) (feed : Feed) : Feed × Loopback κ ν :=
  let w := feed.readers.foldl detach w
  let w := { w with client := feed.abandonConnect w.client }
  (feed.stopped, (w.call .disconnect).2)

end ChannelMux.Loopback
