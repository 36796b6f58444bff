import MasqMobile.Receipt.CatchUp
import MasqMobile.Settlement.Commitment
import MasqMobile.Settlement.Lossless
import MasqMobile.Settlement.Manifest
import MasqMobile.Settlement.Paging
import MasqMobile.Settlement.WalletSignatures
import MasqMobile.Receivables.Bans
import MasqMobile.Receivables.Credited
import MasqMobile.Receivables.WeiColumns
import MasqMobile.Payments.Crashes
import MasqMobile.Payments.Exclusion
import MasqMobile.Payments.Replies
import MasqMobile.Payments.RetryAmounts
import MasqMobile.Payments.Thresholds
import MasqMobile.Session.Refusals
import MasqMobile.Delivery.Outbox
import MasqMobile.Delivery.ReplayWindow
import MasqMobile.Delivery.SequencedPacket
import MasqMobile.Delivery.TlsFramer
import MasqMobile.Metering.RoutingAgreement
import MasqMobile.Config.PasswordChange
import MasqMobile.Neighborhood.ExitCountries
import MasqMobile.Neighborhood.Network
import MasqMobile.Neighborhood.NoPanic
import MasqMobile.Neighborhood.OwnRecord
import MasqMobile.Automap.Pcp
import MasqMobile.Mobile.Arbiters
import MasqMobile.Mobile.Controller
import MasqMobile.Mobile.Engine
import MasqMobile.Mobile.Proxy
import MasqMobile.Mobile.Tunnel
