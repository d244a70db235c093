import DispatchGen.Credentials
import DispatchGen.Exports
import DispatchGen.Main
import DispatchGen.Proofs.BoundNames
import DispatchGen.Proofs.Destinations
import DispatchGen.Proofs.Dispatch
import DispatchGen.Proofs.Independence
import DispatchGen.Proofs.SplitRuns
import DispatchGen.Receiver
import DispatchGen.Proofs.Fields
import DispatchGen.Proofs.FileOrder
import DispatchGen.Proofs.RequestFields
import DispatchGen.Proofs.ResponseReader
import DispatchGen.Proofs.NormalPaths
import DispatchGen.Proofs.RoundTrip
import DispatchGen.Proofs.StoreFrames
import DispatchGen.Proofs.OutputDirectory
import DispatchGen.Proofs.Deliveries
import DispatchGen.Proofs.CodeNames
import DispatchGen.Proofs.CredentialScopes
import DispatchGen.Proofs.Survey
import DispatchGen.Proofs.RenderedNames
import DispatchGen.Proofs.SettingEntries
import DispatchGen.Proofs.OrderSettings
import DispatchGen.Proofs.SignatureWalk
import DispatchGen.Proofs.Placement
import DispatchGen.Proofs.WordBoundaries
import DispatchGen.Proofs.SharedReceivers
import DispatchGen.Proofs.PrivateNames
import DispatchGen.Proofs.ImportLines
