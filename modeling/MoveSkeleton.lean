import MoveSkeleton.CommandLine.Run
import MoveSkeleton.Dotenv
import MoveSkeleton.Interface.Source
import MoveSkeleton.Main
import MoveSkeleton.Node.Record
import MoveSkeleton.Package.Manifest
import MoveSkeleton.Proofs.CommandLine.Ending
import MoveSkeleton.Proofs.Dotenv.Quoting
import MoveSkeleton.Proofs.Interface.Legibility
import MoveSkeleton.Proofs.Node.Resources
import MoveSkeleton.Proofs.Package.Legibility
import MoveSkeleton.Proofs.Package.Table
import MoveSkeleton.Proofs.Resolution.Chain
import MoveSkeleton.Proofs.Resolution.Isolation
import MoveSkeleton.Proofs.Resolution.Preorder
import MoveSkeleton.Proofs.Resolution.Reachability
import MoveSkeleton.Proofs.Resolution.Soft
import MoveSkeleton.Proofs.Resolution.Turns
import MoveSkeleton.Proofs.Skeleton.Aftermath
import MoveSkeleton.Proofs.Skeleton.Completeness
import MoveSkeleton.Proofs.Skeleton.Delivery
import MoveSkeleton.Proofs.Skeleton.Framework
import MoveSkeleton.Proofs.Skeleton.Lookup
import MoveSkeleton.Proofs.Skeleton.Neighbours
import MoveSkeleton.Proofs.Skeleton.Renewal
import MoveSkeleton.Proofs.Skeleton.Siblings
import MoveSkeleton.Proofs.Skeleton.Soundness
import MoveSkeleton.Proofs.Skeleton.Unread
import MoveSkeleton.Proofs.Token
import MoveSkeleton.Resolution.Walk
import MoveSkeleton.Skeleton
import MoveSkeleton.Token
