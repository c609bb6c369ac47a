import Federation.Api.Answer
import Federation.Origin.Scripted
import Federation.Proofs.Resolver.Soundness
import Federation.Service.Files
import Federation.Settings.Environment
import Federation.Proofs.Resolver.Fetching
import Federation.Proofs.Resolver.Supersession
import Federation.Proofs.Resolver.Settled
import Federation.Proofs.Resolver.Validity
import Federation.Proofs.Time.Range
import Federation.Proofs.Filter.Signatures
import Federation.Proofs.Resolver.Absence
import Federation.Proofs.Metadata.Bounds
import Federation.Proofs.Resolver.Narrowing
import Federation.Proofs.Resolver.Matching
import Federation.Proofs.Resolver.Restocking
import Federation.Proofs.Resolver.Refreshing
import Federation.Proofs.Resolver.Destroying
import Federation.Proofs.Resolver.History
import Federation.Proofs.Artifact.Entries
import Federation.Proofs.Artifact.Ledger
import Federation.Proofs.Artifact.Maps
import Federation.Proofs.Artifact.Clients
import Federation.Proofs.Artifact.Losses
import Federation.Proofs.Resolver.Transparency
import Federation.Proofs.Resolver.Sharing
import Federation.Proofs.Resolver.Repeating
import Federation.Proofs.Filter.Lone
import Federation.Proofs.Cache.Working
import Federation.Proofs.Resolver.Offering
import Federation.Proofs.Resolver.Tidying
import Federation.Proofs.Cache.Writing
import Federation.Proofs.Resolver.Agreement
import Federation.Proofs.Resolver.WritingThrough
import Federation.Proofs.Resolver.Returning
import Federation.Proofs.Cache.Catalogue
import Federation.Proofs.Time.Leaps
import Federation.Proofs.Filter.Validity
import Federation.Proofs.Filter.Members
import Federation.Proofs.Service.WarmStart
import Federation.Proofs.Origin.Pulling
import Federation.Proofs.Origin.Scheduling
import Federation.Proofs.Resolver.Clearing
import Federation.Proofs.Resolver.Failing
import Federation.Proofs.Store.Stepping
import Federation.Proofs.Store.Interleaving
import Federation.Proofs.Filter.Pruning
import Federation.Proofs.Service.Usable
import Federation.Proofs.Resolver.Sparing
import Federation.Proofs.Api.Disclosure
import Federation.Proofs.Metrics.Recording
import Federation.Proofs.Resolver.Reporting
import Federation.Proofs.Metrics.Counting
import Federation.Proofs.Resolver.Gauging
import Federation.Proofs.Store.Evicting
import Federation.Proofs.Filter.Annotating
import Federation.Proofs.Origin.Addressing
import Federation.Proofs.Filter.Form
import Federation.Proofs.Cache.Listing
import Federation.Proofs.Resolver.Emptying
