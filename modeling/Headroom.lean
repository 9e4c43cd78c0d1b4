import Headroom.Text.Quoted
import Headroom.Text.Seconds
import Headroom.Text.Split
import Headroom.Amount
import Headroom.Dict
import Headroom.Json.Parser
import Headroom.Json.Printer
import Headroom.Workload
import Headroom.Topology.Sync
import Headroom.Placement
import Headroom.Provider.Memory
import Headroom.Provider.Api
import Headroom.Estimate
import Headroom.Wire.Workload
import Headroom.Wire.Report
import Headroom.Manifest.Reader
import Headroom.CommandLine.Run
import Headroom.Main
import Headroom.Proofs.Placement.Harmony
import Headroom.Proofs.Placement.Capacity
import Headroom.Proofs.Placement.Uniform
import Headroom.Proofs.Placement.Books
import Headroom.Proofs.Placement.Order
import Headroom.Proofs.Snapshot.Build
import Headroom.Proofs.Inquiry
import Headroom.Proofs.Topology.Sync
import Headroom.Proofs.Provider.Watch
import Headroom.Proofs.Admission.Newcomer
import Headroom.Proofs.Placement.Growth
import Headroom.Proofs.Placement.Exchange
import Headroom.Proofs.Placement.Interchange
import Headroom.Proofs.Placement.Slack
import Headroom.Proofs.Placement.Easing
import Headroom.Proofs.Placement.Verdict
import Headroom.Proofs.Placement.Refusal
import Headroom.Proofs.Placement.Indifference
import Headroom.Proofs.Resource.Sum
import Headroom.Proofs.Manifest.Requests
import Headroom.Proofs.Snapshot.Listing
import Headroom.Proofs.Snapshot.Remainder
import Headroom.Proofs.Estimate.Question
import Headroom.Proofs.Estimate.Delay
import Headroom.Proofs.Estimate.Clock
import Headroom.Proofs.Quantity.Numeral
import Headroom.Proofs.Quantity.Grammar
import Headroom.Proofs.Quantity.Conversion
import Headroom.Proofs.Quantity.OfAmount
import Headroom.Proofs.Wire.Basic
import Headroom.Proofs.Wire.RoundTrip
import Headroom.Proofs.Manifest.EffectiveRequests
import Headroom.Proofs.CommandLine.Toleration
import Headroom.Proofs.Placement.FirstFit
import Headroom.Proofs.Resource.Text
