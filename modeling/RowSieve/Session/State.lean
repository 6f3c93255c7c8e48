import RowSieve.Reader.LeafColumn
import RowSieve.Reader.Shelf
import RowSieve.Snapshot

/-!
# Sessions

What has been made so far: sources of readers, sieves, bound sieves and snapshots, each numbered in
order of creation.  All readers stand on one shelf, and sources and bound sieves hold links to them,
so a source made of another one's readers sees every move of their cursors.  Sieves that were made
from one another count the applications of their predicate together.
-/

namespace RowSieve

inductive Origin
  | batch (batch : Batch)
  | columns
  /-- Set from outside. -/
  | settable
  /-- Taken from other sources. -/
  | shared

/-- Readers that belong together. -/
structure Source where
  links : List Link
  origin : Origin

namespace Source

def handles (source : Source) : List Handle :=
  source.links.map Link.handle

/-- The readers with a cursor that the source made itself. -/
def ownColumns (source : Source) : List Handle :=
  match source.origin with
  | .batch _ | .columns => source.handles
  | .settable | .shared => []

def ownSettables (source : Source) : List Handle :=
  match source.origin with
  | .settable => source.handles
  | .batch _ | .columns | .shared => []

def batch? (source : Source) : Option Batch :=
  match source.origin with
  | .batch batch => some batch
  | .columns | .settable | .shared => none

end Source

/-- Something whose applications of a predicate are counted under a counter. -/
structure Counted (α : Type) where
  content : α
  counter : Nat

/-- All that has been made so far. -/
structure Session where
  shelf : Shelf
  sources : List Source
  sieves : List (Counted Sieve)
  bounds : List (Counted (BoundSieve Link))
  snapshots : List Snapshot
  counters : List Nat

namespace Session

def empty : Session where
  shelf := []
  sources := []
  sieves := []
  bounds := []
  snapshots := []
  counters := []

def applications (session : Session) (counter : Nat) : Nat :=
  session.counters[counter]?.getD 0

def count (session : Session) (counter applications : Nat) : Session :=
  { session with counters := session.counters.modify counter (· + applications) }

/-- The session with one more source, of readers that are put on the shelf for it. -/
def addReaders (session : Session) (readers : List Reader) (origin : Origin) : Session :=
  { session with
    shelf := session.shelf ++ readers
    sources := session.sources ++
      [⟨(session.shelf.nextHandles readers.length).map .direct, origin⟩] }

/-- The session with one more source, of readers that are on the shelf already. -/
def addShared (session : Session) (links : List Link) : Session :=
  { session with sources := session.sources ++ [⟨links, .shared⟩] }

/-- The session with one more sieve, counted under a counter of its own. -/
def addSieve (session : Session) (sieve : Sieve) : Session :=
  { session with
    sieves := session.sieves ++ [⟨sieve, session.counters.length⟩]
    counters := session.counters ++ [0] }

/-- The session with one more sieve, counted together with the one it was made from. -/
def addDerived (session : Session) (sieve : Sieve) (counter : Nat) : Session :=
  { session with sieves := session.sieves ++ [⟨sieve, counter⟩] }

def addBound (session : Session) (bound : BoundSieve Link) (counter : Nat) : Session :=
  { session with bounds := session.bounds ++ [⟨bound, counter⟩] }

def addSnapshot (session : Session) (snapshot : Snapshot) : Session :=
  { session with snapshots := session.snapshots ++ [snapshot] }

/-- The links to chosen readers, each given by its source and its place there. -/
def pickLinks (session : Session) : List (Nat × Nat) → Option (List Link)
  | [] => some []
  | (source, place) :: rest =>
      match session.sources[source]?.bind fun source => source.links[place]? with
      | none => none
      | some link => (session.pickLinks rest).map (link :: ·)

end Session

end RowSieve
