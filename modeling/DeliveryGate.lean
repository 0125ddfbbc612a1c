import DeliveryGate.Main
import DeliveryGate.Proofs.Evaluation.Recorder
import DeliveryGate.Proofs.Walk.Deferral
import DeliveryGate.Proofs.Walk.Failure
import DeliveryGate.Proofs.Walk.Verdict
import DeliveryGate.Scenario.Session
import DeliveryGate.Text.Hex
import DeliveryGate.Proofs.Evaluation.Backed
import DeliveryGate.Proofs.Evaluation.Isolation
import DeliveryGate.Proofs.Store.CacheRun
import DeliveryGate.Proofs.Store.Freshness
import DeliveryGate.Proofs.Store.Capacity
import DeliveryGate.Proofs.Evaluation.Transparency
import DeliveryGate.Proofs.Evaluation.Requests
import DeliveryGate.Proofs.Store.Interleaving
import DeliveryGate.Proofs.Evaluation.CallCount
import DeliveryGate.Proofs.Evaluation.OneSubscriber
import DeliveryGate.Proofs.Evaluation.Audit
import DeliveryGate.Proofs.Store.FetchRate
import DeliveryGate.Proofs.Json.Order
import DeliveryGate.Proofs.Time.Calendar
import DeliveryGate.Proofs.Time.Timestamp
import DeliveryGate.Proofs.Fixture.RoundTrip
import DeliveryGate.Proofs.Evaluation.Summary
import DeliveryGate.Proofs.Time.Elapsed
import DeliveryGate.Proofs.Evaluation.Presence
import DeliveryGate.Proofs.Store.Insertion
import DeliveryGate.Proofs.Evaluation.EarlierStep
import DeliveryGate.Proofs.Filter.Ordering
import DeliveryGate.Proofs.Filter.Lists
import DeliveryGate.Proofs.Filter.Membership
import DeliveryGate.Proofs.Filter.Numbers
import DeliveryGate.Proofs.Wire.Spelling
import DeliveryGate.Proofs.Filter.Positions
import DeliveryGate.Proofs.Evaluation.Labels
import DeliveryGate.Proofs.Store.Log
import DeliveryGate.Proofs.Settings.Grammar
