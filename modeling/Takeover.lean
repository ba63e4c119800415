import Takeover.Data
import Takeover.Scenario.Report
import Takeover.Proofs.Recovering
import Takeover.Proofs.Abandoned
import Takeover.Proofs.Waiting
import Takeover.Proofs.Taking
import Takeover.Proofs.Delivery
import Takeover.Proofs.Life.Passing
import Takeover.Proofs.Life.Stages
import Takeover.Proofs.Life.Lived
import Takeover.Proofs.Barriers
import Takeover.Proofs.Isolation.Likeness
import Takeover.Proofs.Isolation.Starts
import Takeover.Proofs.Isolation.Runs
import Takeover.Proofs.Redelivery.Claims
import Takeover.Proofs.Redelivery.Ledgers
import Takeover.Proofs.Redelivery.Proceeding
import Takeover.Proofs.Redelivery.Stores
import Takeover.Proofs.Redelivery.Abreast
import Takeover.Proofs.Redelivery.Operations
import Takeover.Proofs.Redelivery.Runs
import Takeover.Proofs.Redelivery.Harmless
import Takeover.Proofs.Attribution.Acts
import Takeover.Proofs.Attribution.Stages
import Takeover.Proofs.Attribution.Attributable
import Takeover.Proofs.Attribution.Resources
import Takeover.Proofs.Attribution.Quiescent
import Takeover.Proofs.Sweeping.Touches
import Takeover.Proofs.Sweeping.Kept
import Takeover.Proofs.Sweeping.Uncancelled
import Takeover.Proofs.Replaying
import Takeover.Proofs.Concluding
import Takeover.Proofs.Bookkeeping
import Takeover.Proofs.Sweeping.Orders
import Takeover.Proofs.Dealings.Failures
import Takeover.Proofs.Dealings.Returns
import Takeover.Proofs.Dealings.Faults
import Takeover.Proofs.Readiness.Runs
import Takeover.Proofs.Registry.Receivers
import Takeover.Proofs.Watching.Watches
import Takeover.Proofs.Farewells.Runs
import Takeover.Proofs.Outcomes.Runs
import Takeover.Proofs.Identity.Listings
import Takeover.Proofs.Exchange
