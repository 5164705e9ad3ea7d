import PointerShare.Main
import PointerShare.Wire
import PointerShare.Proofs.Stopping
import PointerShare.Proofs.Ownership
import PointerShare.Proofs.Closing
import PointerShare.Proofs.Conservation
import PointerShare.Proofs.Outsiders
import PointerShare.Proofs.SessionLink
import PointerShare.Proofs.Pair
import PointerShare.Proofs.Ledger
import PointerShare.Proofs.Preparing
import PointerShare.Proofs.Asides
import PointerShare.Proofs.Teardown
import PointerShare.Proofs.Announcing
import PointerShare.Proofs.LettingGo
import PointerShare.Proofs.StopList
import PointerShare.Proofs.Footprint
import PointerShare.Proofs.Disabling
import PointerShare.Proofs.MailOrder
import PointerShare.Proofs.Silence
import PointerShare.Proofs.Draining
import PointerShare.Proofs.Hosting
import PointerShare.Proofs.Failing
import PointerShare.Proofs.InTime
import PointerShare.Proofs.HandingOn
import PointerShare.Proofs.Answers
import PointerShare.Proofs.Budget
import PointerShare.Proofs.Refusing
import PointerShare.Proofs.LeftBehind
import PointerShare.Proofs.Subscription
import PointerShare.Proofs.Issuing
import PointerShare.Proofs.Filtering
import PointerShare.Proofs.Relaying
import PointerShare.Proofs.Deliveries
import PointerShare.Proofs.Observers
import PointerShare.Proofs.Serving
import PointerShare.Proofs.Doubles
import PointerShare.Proofs.Numerals
import PointerShare.Proofs.OnTheWire
