import ChannelMux.Codec.Plain
import ChannelMux.Loopback.Feed
import ChannelMux.Main
import ChannelMux.Proofs.Bybit.Replies
import ChannelMux.Proofs.Channel.Spelling
import ChannelMux.Proofs.Client.Course
import ChannelMux.Proofs.Client.Polling
import ChannelMux.Proofs.Connection.Idleness
import ChannelMux.Proofs.Connection.Intake
import ChannelMux.Proofs.Connection.Login
import ChannelMux.Proofs.Connection.Replay
import ChannelMux.Proofs.Connection.Retries
import ChannelMux.Proofs.Connection.Spacing
import ChannelMux.Proofs.Connection.WakeUps
import ChannelMux.Proofs.Feed.FirstReplay
import ChannelMux.Proofs.Feed.Secrecy
import ChannelMux.Proofs.Okx.Instruments
import ChannelMux.Proofs.Okx.Pending
import ChannelMux.Proofs.Registry.Cancelling
import ChannelMux.Proofs.Registry.Claiming
import ChannelMux.Proofs.Registry.Commuting
import ChannelMux.Proofs.Registry.Isolation
import ChannelMux.Proofs.Registry.Outstanding
import ChannelMux.Proofs.Router.Dropped
import ChannelMux.Proofs.Wire.Coverage
import ChannelMux.Proofs.Wire.Leak
