import Typecase.Cache.Lemmas
import Typecase.Factory.FontData
import Typecase.Factory.Handle
import Typecase.Files.Store.Lemmas
import Typecase.Files.Stream.Lemmas
import Typecase.Font.Layout
import Typecase.Proofs.Cache.Agree
import Typecase.Proofs.Cache.Counters
import Typecase.Proofs.Cache.History
import Typecase.Proofs.Cache.Larger
import Typecase.Proofs.Cache.Recency
import Typecase.Proofs.Cache.Size
import Typecase.Proofs.Family.BestMatch
import Typecase.Proofs.Fault.Root
import Typecase.Proofs.Files.Destination
import Typecase.Proofs.Files.LastPiece
import Typecase.Proofs.Files.Script
import Typecase.Proofs.Files.Sight
import Typecase.Proofs.Font.Directory
import Typecase.Proofs.Font.Faces
import Typecase.Proofs.Resolver.Attribution
import Typecase.Proofs.Resolver.Deletion
import Typecase.Proofs.Resolver.FirstFace
import Typecase.Proofs.Resolver.History
import Typecase.Proofs.Resolver.Leftovers
import Typecase.Proofs.Resolver.Lockstep
import Typecase.Proofs.Resolver.Offers
import Typecase.Proofs.Resolver.Plan
import Typecase.Proofs.Resolver.Staged
import Typecase.Proofs.Resolver.Strategies
import Typecase.Proofs.Resolver.Transparency
import Typecase.Proofs.Resolver.Visit
import Typecase.Proofs.Resolver.WorkingSet
import Typecase.Proofs.Staging.Copy
import Typecase.Proofs.Staging.Errand
import Typecase.Proofs.Staging.FirstFree
import Typecase.Proofs.Staging.Interference
import Typecase.Proofs.Staging.Owned
import Typecase.Proofs.Staging.Ownership
import Typecase.Proofs.Staging.Pool
import Typecase.Proofs.Staging.Snapshot
import Typecase.Proofs.Staging.TempFile
import Typecase.Proofs.Staging.TempName
import Typecase.Proofs.Text.Trailing
import Typecase.Resolver.Demand
import Typecase.Resolver.Lemmas
import Typecase.Resolver.Request
import Typecase.Scene.Lemmas
import Typecase.Staging.Chore
import Typecase.Staging.Mapping
import Typecase.Proofs.Text.Uid
import Typecase.Proofs.Settings.Dial
import Typecase.Proofs.Resolver.Buffer
