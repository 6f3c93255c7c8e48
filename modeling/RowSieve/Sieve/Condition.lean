import RowSieve.Sieve.Basic
import RowSieve.Snapshot

/-!
# Conditions

A small language of predicates.  A test that names a reader beyond the last, or that meets a
failure, is false.
-/

namespace RowSieve

/-- A predicate written out. -/
inductive Condition
  | always
  | never
  | both (left right : Condition)
  | either (left right : Condition)
  | not (condition : Condition)
  /-- There are exactly `readers` readers. -/
  | count (readers : Nat)
  | isNull (reader : Nat)
  /-- The reader, read as the value's type, shows an equal value. -/
  | equals (reader : Nat) (value : Value)
  /-- The reader, read as the value's type, shows a smaller value. -/
  | precedes (reader : Nat) (value : Value)
  /-- The reader, read as the value's type, shows a greater value. -/
  | follows (reader : Nat) (value : Value)
  | startsWith (reader : Nat) (bytes : Bytes)
  /-- The reader's accessor fails in the given way. -/
  | fails (reader : Nat) (accessor : Accessor) (kind : Failure.Kind)
  /-- Whether the readers can be loaded as the types they declare. -/
  | loads (expected : Bool)
  | loadsText (reader : Nat) (text : String)
  | loadsValue (reader : Nat) (value : Value)

namespace Condition

def all (conditions : List Condition) : Condition :=
  conditions.foldr .both .always

def any (conditions : List Condition) : Condition :=
  conditions.foldr .either .never

/-- Whether the reader, read as a type, shows a value that passes a test. -/
def shows (readings : List (Reading Failure.Kind)) (reader : Nat) (type : PhysicalType)
    (test : Value → Bool) : Bool :=
  match readings[reader]? with
  | none => false
  | some reading =>
      match reading.read type with
      | .ok value => test value
      | .error _ => false

/-- Whether the snapshot of the readers exists and passes a test. -/
def snapshotPasses (readings : List (Reading Failure.Kind)) (test : Snapshot → Bool) : Bool :=
  match Snapshot.loadDeclared readings with
  | .ok snapshot => test snapshot
  | .error _ => false

/-- Whether the condition holds of what the readers show. -/
def holds (readings : List (Reading Failure.Kind)) : Condition → Bool
  | .always => true
  | .never => false
  | .both left right => left.holds readings && right.holds readings
  | .either left right => left.holds readings || right.holds readings
  | .not condition => !condition.holds readings
  | .count readers => readings.length == readers
  | .isNull reader =>
      match readings[reader]? with
      | none => false
      | some reading => reading.isNull
  | .equals reader value =>
      shows readings reader value.physicalType fun shown => shown.equals value
  | .precedes reader value =>
      shows readings reader value.physicalType fun shown => shown.precedes value
  | .follows reader value =>
      shows readings reader value.physicalType fun shown => value.precedes shown
  | .startsWith reader bytes =>
      match readings[reader]? with
      | none => false
      | some reading =>
          match reading.get .binary with
          | .ok shown => bytes.isPrefixOf shown
          | .error _ => false
  | .fails reader accessor kind =>
      match readings[reader]? with
      | none => false
      | some reading =>
          match reading.get accessor with
          | .ok _ => false
          | .error failure => failure == kind
  | .loads expected => snapshotPasses readings (fun _ => true) == expected
  | .loadsText reader text =>
      snapshotPasses readings fun snapshot =>
        match snapshot.getText reader with
        | .ok shown => shown == text
        | .error _ => false
  | .loadsValue reader value =>
      snapshotPasses readings fun snapshot =>
        match snapshot.value reader with
        | .ok shown => shown.equals value
        | .error _ => false

def predicate (condition : Condition) : Predicate :=
  fun readings => condition.holds readings

end Condition

end RowSieve
