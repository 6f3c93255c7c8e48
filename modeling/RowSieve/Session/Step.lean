import RowSieve.Session.State
import RowSieve.Sieve.Basic

/-!
# Steps and answers

What can be asked of a session, and what it answers.
-/

namespace RowSieve

inductive ReaderGroup
  | source (source : Nat)
  | bound (bound : Nat)

/-- What is asked of one value of a snapshot. -/
inductive Question
  | payload (accessor : Accessor)
  | text
  | value
  | type

/-- Something asked of a session.  Sources, sieves, bound sieves and snapshots are named by their
numbers, readers by their place in a source. -/
inductive Step
  /-- Make a source of the leaves of a batch. -/
  | openBatch (batch : Batch)
  | openColumns (columns : List (ColumnPath × Column))
  | openSettables (readers : List (ColumnPath × PhysicalType × Value))
  /-- Make a source of copies of a source's columns, each with a cursor of its own. -/
  | duplicate (source : Nat)
  | share (source : Nat)
  | pick (readers : List (Nat × Nat))
  | set (source reader : Nat) (value : Value)
  /-- Move one cursor of a source, or all of them. -/
  | seek (source row : Nat) (reader : Option Nat)
  | cursors (source : Nat)
  | nulls (source : Nat)
  /-- Ask a reader for its value by an accessor. -/
  | read (source reader : Nat) (accessor : Accessor)
  /-- Ask a reader for its value under a type. -/
  | readValue (source reader : Nat) (type : PhysicalType)
  /-- Make a sieve of dotted paths and a predicate. -/
  | ofColumns (paths : List String) (predicate : Predicate)
  | build (calls : List Draft.Call)
  /-- Make a sieve of another by changing its delimiter. -/
  | withDelimiter (sieve : Nat) (delimiter : Char)
  /-- Tell how often the predicate of a sieve was applied. -/
  | applications (sieve : Nat)
  | showSieve (sieve : Nat)
  | showBound (bound : Nat)
  /-- Bind a sieve to the readers of a source. -/
  | bind (sieve source : Nat)
  /-- Ask whether the row at which the readers stand matches. -/
  | isMatch (bound : Nat)
  | evaluate (source bound : Nat)
  /-- Sift the batch of a source for the mask. -/
  | matchMask (source sieve : Nat)
  /-- Sift the batch of a source for the matching rows. -/
  | matchingRows (source sieve : Nat)
  /-- Sift the batch of a source for the batch of the matching rows. -/
  | sift (source sieve : Nat)
  /-- Load a snapshot, under the given types or under the declared ones. -/
  | load (group : ReaderGroup) (types : Option (List PhysicalType))
  | get (snapshot index : Nat) (question : Question)
  | values (snapshot : Nat)
  | compare (left right : Nat)

/-- What a session answers to a step. -/
inductive Answer
  | done
  | source (number : Nat) (readers : List (ColumnPath × PhysicalType))
  | batchSource (number : Nat) (readers : List (ColumnPath × PhysicalType)) (rows : Nat)
  /-- The rows at which cursors stand, and the numbers of rows of their columns. -/
  | cursors (rows lengths : List Nat)
  | nulls (nulls : List Bool)
  | payload (accessor : Accessor) (payload : accessor.Payload)
  | value (value : Value)
  | type (type : PhysicalType)
  | text (text : String)
  | sieve (number : Nat) (paths : List String) (delimiter : Char)
  | applications (applications : Nat)
  | shown (text : String)
  /-- The places in the source of the readers that a sieve was bound to. -/
  | bound (number : Nat) (places : List Nat)
  | verdict (verdict : Bool) (applications : Nat)
  | evaluated (mask : Mask) (applications : Nat)
  | mask (mask : Mask)
  | rows (rows : List Nat)
  | batch (batch : Batch)
  | snapshot (number : Nat) (values : List Value)
  | values (values : List Value)
  | equal (equal : Bool)

inductive Refusal
  /-- The step names something that does not exist. -/
  | noSuchSlot
  /-- The step was tried and failed. -/
  | failed (failure : Failure)
  deriving DecidableEq

end RowSieve
