import GeoRouter.Router.Receive
import GeoRouter.Main
import GeoRouter.Proofs.Octets
import GeoRouter.Proofs.Parsing
import GeoRouter.Proofs.RoundTrip
import GeoRouter.Proofs.Canonical
import GeoRouter.Proofs.Framing
import GeoRouter.Proofs.Freshness
import GeoRouter.Proofs.Learning
import GeoRouter.Proofs.Reception
import GeoRouter.Proofs.Exits
import GeoRouter.Proofs.Teaching
import GeoRouter.Proofs.Forwarding
import GeoRouter.Proofs.HopBudget
import GeoRouter.Proofs.Origination
import GeoRouter.Proofs.Host
import GeoRouter.Proofs.Delivery
import GeoRouter.Proofs.Run
import GeoRouter.Proofs.AtMostOnce
import GeoRouter.Proofs.Rejection
import GeoRouter.Proofs.Turns
import GeoRouter.Proofs.Numbering
import GeoRouter.Proofs.HalfRange
import GeoRouter.Proofs.Accounting
import GeoRouter.Proofs.Language
import GeoRouter.Proofs.DetectionKey
import GeoRouter.Proofs.Consumption
import GeoRouter.Proofs.Residue
import GeoRouter.Proofs.Order
import GeoRouter.Proofs.Stations
import GeoRouter.Proofs.Carriers
import GeoRouter.Proofs.Memo
import GeoRouter.Proofs.Collision
import GeoRouter.Proofs.Residence
import GeoRouter.Proofs.Uniqueness
import GeoRouter.Proofs.Tickets
import GeoRouter.Proofs.Sweeps
import GeoRouter.Proofs.Greedy
import GeoRouter.Proofs.Progress
import GeoRouter.Proofs.Meeting
import GeoRouter.Proofs.Line
import GeoRouter.Proofs.Preference
import GeoRouter.Proofs.Unheard
import GeoRouter.Proofs.Confinement
import GeoRouter.Proofs.Commuting
import GeoRouter.Proofs.Views
import GeoRouter.Proofs.Relocation
import GeoRouter.Proofs.Reuse
import GeoRouter.Proofs.Preparation
import GeoRouter.Proofs.Bag
import GeoRouter.Proofs.Detection
import GeoRouter.Proofs.Bindings
import GeoRouter.Proofs.Renewal
import GeoRouter.Proofs.Layout
import GeoRouter.Proofs.Spelling
import GeoRouter.Proofs.Lifetimes
import GeoRouter.Proofs.Parameters
import GeoRouter.Proofs.Seeds
import GeoRouter.Proofs.Offers
