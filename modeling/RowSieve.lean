import RowSieve.Session.Run
import RowSieve.Sieve.Condition
import RowSieve.Proofs.Text.Utf8
import RowSieve.Proofs.Path.Splitting
import RowSieve.Proofs.Batch.Selection
import RowSieve.Proofs.Batch.Thinning
import RowSieve.Proofs.Reader.Visible
import RowSieve.Proofs.Batch.Rows
import RowSieve.Proofs.Sieve.Verdict
import RowSieve.Proofs.Sieve.Composition
import RowSieve.Proofs.Sieve.Cutting
import RowSieve.Proofs.Sieve.EntryPoints
import RowSieve.Proofs.Reader.Address
import RowSieve.Proofs.Reader.Flattening
import RowSieve.Proofs.Reader.Accounting
import RowSieve.Proofs.Reader.Answers
import RowSieve.Proofs.Reader.Decision
import RowSieve.Proofs.Sieve.Evaluation
import RowSieve.Proofs.Sieve.Noninterference
import RowSieve.Proofs.Session.Effect
import RowSieve.Proofs.Sieve.Nesting
import RowSieve.Proofs.Sieve.Log
import RowSieve.Proofs.Sieve.Drafting
import RowSieve.Proofs.Sieve.Reach
import RowSieve.Proofs.Snapshot.Loading
import RowSieve.Proofs.Snapshot.Retelling
import RowSieve.Proofs.Snapshot.Texts
import RowSieve.Proofs.Session.Ownership
import RowSieve.Proofs.Session.Framing
import RowSieve.Proofs.Session.Transparency
import RowSieve.Proofs.Session.Snapshots
import RowSieve.Proofs.Session.References
import RowSieve.Proofs.Session.Duplicates
import RowSieve.Proofs.Session.Independence
import RowSieve.Proofs.Session.Counting
import RowSieve.Proofs.Session.Delimiters
import RowSieve.Proofs.Reader.Lookups
import RowSieve.Proofs.Session.Integrity
