import Fetchit.Bridge.Integrity
import Fetchit.Chat.Confinement
import Fetchit.Chat.Outsider
import Fetchit.Lan.Addressee
import Fetchit.Transport.AckOrder
import Fetchit.Relay.Reclaim
import Fetchit.Relay.Freshness
import Fetchit.Relay.Supersession
import Fetchit.Relay.Refresh
import Fetchit.Relay.LogClient
import Fetchit.Chat.DeviceList
import Fetchit.Chat.CatchUp
import Fetchit.Chat.Unread
import Fetchit.Chat.SpentInvite
import Fetchit.Chat.StrandedInvite
import Fetchit.Chat.Confirmation
import Fetchit.Relay.Broadcast
import Fetchit.Relay.Delivery
import Fetchit.Trust.Canonical
import Fetchit.Trust.Consumer
import Fetchit.Chat.FediPull
import Fetchit.Bridge.Isolation
import Fetchit.Bridge.Attribution
import Fetchit.Bridge.Names
import Fetchit.Chat.KeyBinding
import Fetchit.Chat.ContactRecord
import Fetchit.Chat.HintFreshness
import Fetchit.Transport.DroppedRelays
import Fetchit.Chat.Watchdog
import Fetchit.Outbox.SendStates
import Fetchit.Outbox.DoubleSend
import Fetchit.Outbox.LiveBubbles
import Fetchit.Outbox.StalledClaims
import Fetchit.Outbox.RunLoop
import Fetchit.Outbox.Resends
import Fetchit.Vault.Resume
import Fetchit.Relay.TransitAgreement
import Fetchit.Relay.Replay
import Fetchit.Relay.Custody
import Fetchit.Relay.Answers
import Fetchit.Core.Rendering
import Fetchit.Desktop.Reader
import Fetchit.Relay.Presence
import Fetchit.Relay.Auth
import Fetchit.Fedi.SigningInputs
import Fetchit.Chat.PublishClock
import Fetchit.Chat.FollowFedi
import Fetchit.Bridge.FollowDamping
import Fetchit.Chat.GroupReceive
import Fetchit.Proto.EnvelopeCodec
import Fetchit.Proto.Capabilities
import Fetchit.Relay.ProfileLookup
import Fetchit.Relay.DateSkew
import Fetchit.Chat.FediUnread
