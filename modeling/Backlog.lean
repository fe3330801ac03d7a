import Backlog.Main
import Backlog.Service
import Backlog.Store.Operation
import Backlog.Filter.Inquiry
import Backlog.Proofs.Filter.Acceptance
import Backlog.Proofs.Filter.Confinement
import Backlog.Proofs.Filter.Exchange
import Backlog.Proofs.Filter.Inquiry
import Backlog.Proofs.Filter.Meaning
import Backlog.Proofs.Filter.Memoryless
import Backlog.Proofs.Filter.Reading
import Backlog.Proofs.Filter.Scope
import Backlog.Proofs.Filter.Soundness
import Backlog.Proofs.Filter.Writer
import Backlog.Proofs.Hierarchy.Ancestry
import Backlog.Proofs.Hierarchy.Inclusion
import Backlog.Proofs.Json.Canonical
import Backlog.Proofs.Json.RoundTrip
import Backlog.Proofs.Outcome
import Backlog.Proofs.Page.Address
import Backlog.Proofs.Page.Turning
import Backlog.Proofs.Predicate.Matching
import Backlog.Proofs.Search.Failure
import Backlog.Proofs.Search.Negation
import Backlog.Proofs.Search.Selection
import Backlog.Proofs.Search.Walk
import Backlog.Proofs.Store.Order
import Backlog.Proofs.Filter.Algebra
import Backlog.Proofs.Store.Parents
import Backlog.Proofs.Hierarchy.Trail
import Backlog.Proofs.Store.History
import Backlog.Proofs.Hierarchy.Obstruction
import Backlog.Proofs.Search.Reordering
import Backlog.Proofs.Search.Parentage
import Backlog.Proofs.Store.Replay
import Backlog.Proofs.Timestamp.RoundTrip
import Backlog.Proofs.Dataset.RoundTrip
import Backlog.Proofs.Dataset.Normal
import Backlog.Proofs.CommandLine.Arguments
import Backlog.Proofs.CommandLine.Verdict
import Backlog.Proofs.Response.RoundTrip
import Backlog.Proofs.Service.Concord
import Backlog.Proofs.Filter.Retrieval
import Backlog.Proofs.Filter.Spelling
import Backlog.Proofs.Store.Namesakes
import Backlog.Proofs.Store.Numbers
import Backlog.Proofs.Search.Rearrangement
import Backlog.Proofs.Text.Percent
import Backlog.Proofs.Filter.Denotation
import Backlog.Proofs.Search.Exchange
import Backlog.Proofs.Search.Update
import Backlog.Proofs.Page.Retreat
import Backlog.Proofs.Search.Confining
import Backlog.Proofs.Search.Grouping
import Backlog.Proofs.Filter.StoredForm
import Backlog.Proofs.Predicate.Kleene
import Backlog.Proofs.Filter.Undeclared
import Backlog.Proofs.Service.Links
import Backlog.Proofs.Json.Levels
import Backlog.Proofs.Json.Sorting
import Backlog.Proofs.Filter.Surrounding
import Backlog.Proofs.Filter.Joining
