import DocWire.Proofs.Work
import DocWire.Scenario.Run
import DocWire.Proofs.World.Counts
import DocWire.Proofs.Text.Names
import DocWire.Proofs.Binding.Wrapping
import DocWire.Proofs.Binding.Holders
import DocWire.Proofs.Command.Payload
import DocWire.Proofs.Connection.Exchange
import DocWire.Proofs.Command.Run
import DocWire.Proofs.Operation.Posting
import DocWire.Proofs.Connection.History
import DocWire.Proofs.Connection.Answers
import DocWire.Proofs.Connection.Standing
import DocWire.Proofs.Connection.Turns
import DocWire.Proofs.Wire.Blame
import DocWire.Proofs.Wire.Cuts
import DocWire.Proofs.Wire.Reading
import DocWire.Proofs.Wire.Leaves
import DocWire.Proofs.Wire.Grammar
import DocWire.Proofs.Document.Whole
import DocWire.Proofs.Executor.Basic
import DocWire.Proofs.Executor.Refusal
import DocWire.Proofs.Executor.Unanswered
import DocWire.Proofs.Executor.Mismatch
import DocWire.Proofs.Cursor.Fetch
import DocWire.Proofs.Cursor.Gone
import DocWire.Proofs.Executor.Stepwise
import DocWire.Proofs.Binding.Borrowing
import DocWire.Proofs.Operation.Lease
import DocWire.Proofs.Wire.Trapping
import DocWire.Proofs.Document.Fields
import DocWire.Proofs.Command.Framing
import DocWire.Proofs.Cluster.Eligibility
import DocWire.Proofs.Document.Record
import DocWire.Proofs.Document.Elements
import DocWire.Proofs.Write.Mandate
import DocWire.Proofs.Write.Outcome
import DocWire.Proofs.Document.Written
import DocWire.Proofs.Session.Closing
import DocWire.Proofs.Session.Recycling
import DocWire.Proofs.Session.Ledger
import DocWire.Proofs.Command.Bearing
import DocWire.Proofs.Session.Clock
import DocWire.Proofs.Executor.Closing
import DocWire.Proofs.Operation.Silence
import DocWire.Proofs.Command.Telling
import DocWire.Proofs.Session.Course
import DocWire.Proofs.Session.Usage
import DocWire.Proofs.Binding.Accounts
import DocWire.Proofs.Cursor.Dialects
import DocWire.Proofs.Operation.Concern
import DocWire.Proofs.Document.Restored
import DocWire.Proofs.Document.Size
import DocWire.Proofs.Document.Names
import DocWire.Proofs.Command.Batch
import DocWire.Proofs.Command.Embedding
import DocWire.Proofs.Operation.Resending
import DocWire.Proofs.Write.Sharing
import DocWire.Proofs.Command.Lookahead
import DocWire.Proofs.Wire.Grounds
import DocWire.Proofs.Cursor.Kill
import DocWire.Proofs.Write.Updates
import DocWire.Proofs.Write.TimeLimit
import DocWire.Proofs.References.Callers
import DocWire.Proofs.Cluster.Publications
import DocWire.Proofs.Cluster.Selections
import DocWire.Proofs.Executor.Target
