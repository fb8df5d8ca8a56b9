import HidPointer.AsyncRead
import HidPointer.Device.Display
import HidPointer.EventBus
import HidPointer.Program
import HidPointer.Main
import HidPointer.Shape.Config
import HidPointer.Shape.Event
import HidPointer.Throttle
import HidPointer.Proofs.CanonicalForm
import HidPointer.Proofs.ConfigOverlay
import HidPointer.Proofs.Conservation
import HidPointer.Proofs.DescriptorLanguage
import HidPointer.Proofs.Epochs
import HidPointer.Proofs.EventOrder
import HidPointer.Proofs.FailedRequests
import HidPointer.Proofs.Flattening
import HidPointer.Proofs.FutureReads
import HidPointer.Proofs.Invariant
import HidPointer.Proofs.JsonShapes
import HidPointer.Proofs.LargerBuffers
import HidPointer.Proofs.OverflowPolicies
import HidPointer.Proofs.ReentrantWork
import HidPointer.Proofs.Rendezvous
import HidPointer.Proofs.ReplayProtocol
import HidPointer.Proofs.Reset
import HidPointer.Proofs.RoomForReports
import HidPointer.Proofs.Submissions
import HidPointer.Proofs.ThrottledMessages
import HidPointer.Proofs.Twins
import HidPointer.Proofs.Withdrawal
