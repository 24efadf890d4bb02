import MarketBridge.Config.Text
import MarketBridge.Document.Read
import MarketBridge.Document.Write
import MarketBridge.Session.Run
import MarketBridge.Standin
import MarketBridge.Proofs.Journal.Lockstep
import MarketBridge.Proofs.Session.Native
import MarketBridge.Proofs.Session.Slots
import MarketBridge.Proofs.Session.Twin
import MarketBridge.Proofs.Session.Agreement
import MarketBridge.Proofs.Reference.Binding
import MarketBridge.Proofs.Ring.Order
import MarketBridge.Proofs.Reference.Ring
import MarketBridge.Proofs.Reference.Opened
import MarketBridge.Proofs.Reference.History
import MarketBridge.Proofs.Drain
import MarketBridge.Proofs.Reference.Emission
import MarketBridge.Proofs.Reference.Delivery
import MarketBridge.Proofs.Journal.Crossing
import MarketBridge.Proofs.Validation
import MarketBridge.Proofs.Boundary
import MarketBridge.Proofs.Selector
import MarketBridge.Proofs.Session.Prescribed
import MarketBridge.Proofs.Journal.Keeps
import MarketBridge.Proofs.Session.Perform
import MarketBridge.Proofs.Session.Release
import MarketBridge.Proofs.Journal.Shown
import MarketBridge.Proofs.Selector.Precedence
import MarketBridge.Proofs.Session.Paired
import MarketBridge.Proofs.Session.Thinned
import MarketBridge.Proofs.Session.Through
import MarketBridge.Proofs.Reference.Calls
import MarketBridge.Proofs.Reference.Untouched
import MarketBridge.Proofs.Reference.Thinned
import MarketBridge.Proofs.Resolution
import MarketBridge.Proofs.Session.Called
import MarketBridge.Proofs.Session.Lacking
import MarketBridge.Proofs.Session.Extended
import MarketBridge.Proofs.Reference.Degraded
import MarketBridge.Proofs.Ring.Live
import MarketBridge.Proofs.Drain.Account
import MarketBridge.Proofs.Length
import MarketBridge.Proofs.Drain.Policy
import MarketBridge.Proofs.Session.Policy
import MarketBridge.Proofs.Reference.Policy
import MarketBridge.Proofs.Registration
import MarketBridge.Proofs.Ring.Overflow
import MarketBridge.Proofs.Environment
import MarketBridge.Proofs.Session.Placed
import MarketBridge.Proofs.Session.Closed
import MarketBridge.Proofs.Spelling
import MarketBridge.Proofs.Loading
import MarketBridge.Proofs.Ring.Access
import MarketBridge.Proofs.Reference.Newest
import MarketBridge.Proofs.Drain.Warnings
import MarketBridge.Proofs.Document
import MarketBridge.Proofs.Handle
