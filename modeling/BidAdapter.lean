import BidAdapter.Main
import BidAdapter.Service.Http
import BidAdapter.Service.MockExchange
import BidAdapter.Service.Session
import BidAdapter.Proofs.Traversal
import BidAdapter.Proofs.Slot.OutgoingImp
import BidAdapter.Proofs.Dispatch
import BidAdapter.Proofs.Accounting
import BidAdapter.Proofs.BodyRoundTrip
import BidAdapter.Proofs.PassThrough
import BidAdapter.Proofs.Auction
import BidAdapter.Proofs.Slot.Media
import BidAdapter.Proofs.MediumCode
import BidAdapter.Proofs.MockExchange
import BidAdapter.Proofs.ExchangeRoundTrip
import BidAdapter.Proofs.LogRecord
import BidAdapter.Proofs.Outgoing.RebuiltAgain
import BidAdapter.Proofs.Outgoing.Settings
import BidAdapter.Proofs.Outgoing.AlternateCodes
import BidAdapter.Proofs.Slot.Banner
import BidAdapter.Proofs.Offer
import BidAdapter.Proofs.Slot.AdUnit
import BidAdapter.Proofs.Slot.Targeting
import BidAdapter.Proofs.Slot.DisplayManager
import BidAdapter.Proofs.Slot.NullMembers
import BidAdapter.Proofs.Slot.Floor
import BidAdapter.Proofs.Params.Wrapper
import BidAdapter.Proofs.Params.RequestParams
import BidAdapter.Proofs.Json.Acceptance
import BidAdapter.Proofs.Params.ImpExt
import BidAdapter.Proofs.Params.ImpExtRoundTrip
