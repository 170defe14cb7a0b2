import IdentityClaims.Calendar.Parts
import IdentityClaims.ClaimSet.InForce
import IdentityClaims.ClaimSet.Lookup
import IdentityClaims.ClaimSet.Revise
import IdentityClaims.ClaimSet.Text
import IdentityClaims.Json.Options
import IdentityClaims.Localized.Display
import IdentityClaims.Logging.Sink
import IdentityClaims.Proofs.Decoding.Order
import IdentityClaims.Proofs.Decoding.Refusal
import IdentityClaims.Proofs.Encoding.Collision
import IdentityClaims.Proofs.Encoding.Exact
import IdentityClaims.Proofs.RoundTrip.Canonical
import IdentityClaims.Proofs.RoundTrip.FlatMap
import IdentityClaims.Proofs.RoundTrip.Payload
import IdentityClaims.Proofs.RoundTrip.Text
import IdentityClaims.Json.Direct
import IdentityClaims.Proofs.Json.Direct
import IdentityClaims.Proofs.Decoding.Members
import IdentityClaims.Proofs.Json.LongInteger
import IdentityClaims.Proofs.Json.DigitRun
import IdentityClaims.Proofs.Decoding.Escape
import IdentityClaims.Proofs.Values.Portable
import IdentityClaims.Proofs.Encoding.Escape
import IdentityClaims.Proofs.Config.NewThread
import IdentityClaims.Proofs.Config.OverrideLaws
import IdentityClaims.Proofs.Decoding.Loosening
import IdentityClaims.Proofs.Logging.Outline
import IdentityClaims.Proofs.Revising.History
import IdentityClaims.Proofs.Config.ModeOverlay
import IdentityClaims.Proofs.Config.Placeholders
import IdentityClaims.Proofs.Encoding.ReadBack
import IdentityClaims.Proofs.Calendar.Date
import IdentityClaims.Proofs.Calendar.Universal
import IdentityClaims.Proofs.Calendar.Rounding
import IdentityClaims.Proofs.Calendar.WholeSeconds
import IdentityClaims.Proofs.Localized.FirstWins
import IdentityClaims.Proofs.Text.FlatKeys
import IdentityClaims.Proofs.Text.Subtags
import IdentityClaims.Proofs.Decoding.TagStructure
import IdentityClaims.Proofs.Config.NestedBraces
import IdentityClaims.Proofs.Config.LoadFailures
import IdentityClaims.Proofs.Values.Paths
