import NativeBridge.Session.Play
import NativeBridge.Proofs.ArgumentMarshalling
import NativeBridge.Proofs.ArgumentRuns
import NativeBridge.Proofs.ArgumentUpdates
import NativeBridge.Proofs.BoxedCopies
import NativeBridge.Proofs.CallbackClosures
import NativeBridge.Proofs.ContextGate
import NativeBridge.Proofs.CountArithmetic
import NativeBridge.Proofs.DeliveryOrder
import NativeBridge.Proofs.Emissions
import NativeBridge.Proofs.ErrorMirror
import NativeBridge.Proofs.ErrorSlots
import NativeBridge.Proofs.ExactReleases
import NativeBridge.Proofs.Exposures
import NativeBridge.Proofs.FailureContainment
import NativeBridge.Proofs.FlagSets
import NativeBridge.Proofs.HierarchyWalks
import NativeBridge.Proofs.IntegerFundamentals
import NativeBridge.Proofs.ReferenceCounts
import NativeBridge.Proofs.RoundTrips
import NativeBridge.Proofs.SignalMarshallers
import NativeBridge.Proofs.Signatures
import NativeBridge.Proofs.SinkRuns
import NativeBridge.Proofs.StrategyAgreement
import NativeBridge.Proofs.Subtyping
import NativeBridge.Proofs.SweepRounds
import NativeBridge.Proofs.SynonymTransparency
import NativeBridge.Proofs.Uninstalling
