import MobileCoin.RangeProofs.Resize
import MobileCoin.RangeProofs.Aggregate
import MobileCoin.Mobilecoind.HashMap
import MobileCoin.Mobilecoind.Conversions
import MobileCoin.Mobilecoind.Proposal
import MobileCoin.Mobilecoind.RoundTrip
import MobileCoin.Mobilecoind.Valid
import MobileCoin.Mobilecoind.Daemon
