import RowSieve.Column.LeafType
import RowSieve.Failure
import RowSieve.Reading

/-!
# Traced results

A result together with what happened on the way to it: the events logged, and what predicates were
shown each time one was applied, both in order.
-/

namespace RowSieve

/-!
## Log events

What is logged while columns are read, sieves are bound and batches are evaluated.
-/

/-- Something worth a line in the log. -/
inductive Event
  /-- A leaf of a batch has no physical type and is left out. -/
  | columnSkipped (path : ColumnPath) (type : LeafType)
  /-- No column among the `available` ones lies at a requested path. -/
  | columnUnresolved (path : String) (available : Nat)
  /-- A sieve was bound to `columns` of the `available` columns. -/
  | sieveBound (columns available : Nat)
  /-- A predicate was asked about all `rows` rows of a batch and `matched` of them matched. -/
  | batchEvaluated (rows matched : Nat)
  deriving DecidableEq

namespace Event

/-- How urgent an event is. -/
inductive Level
  | trace
  | debug
  | warn
  deriving DecidableEq

/-- What an event tells under one of its names. -/
inductive Detail
  | text (text : String)
  | count (count : Nat)
  deriving DecidableEq

def Level.name : Level → String
  | .trace => "TRACE"
  | .debug => "DEBUG"
  | .warn => "WARN"

/-- How urgent the event is: what the caller asked for and did not get is a warning. -/
def level : Event → Level
  | .columnSkipped _ _ => .trace
  | .columnUnresolved _ _ => .warn
  | .sieveBound _ _ | .batchEvaluated _ _ => .debug

/-- The part of the library that logs the event. -/
def component : Event → String
  | .columnSkipped _ _ => "reader"
  | .columnUnresolved _ _ | .sieveBound _ _ => "bind"
  | .batchEvaluated _ _ => "scan"

def name : Event → String
  | .columnSkipped _ _ => "column_skipped"
  | .columnUnresolved _ _ => "column_unresolved"
  | .sieveBound _ _ => "filter_bound"
  | .batchEvaluated _ _ => "batch_evaluated"

def details : Event → List (String × Detail)
  | .columnSkipped path type => [("path", .text path.dotted), ("data_type", .text type.text)]
  | .columnUnresolved path available => [("path", .text path), ("available", .count available)]
  | .sieveBound columns available => [("columns", .count columns), ("available", .count available)]
  | .batchEvaluated rows matched => [("rows", .count rows), ("matched", .count matched)]

end Event

/-!
## Results and what led to them
-/

/-- A result and what happened on the way. -/
structure Traced (α : Type) where
  result : α
  events : List Event
  /-- What a predicate was shown, application by application. -/
  shown : List (List (Reading Failure.Kind))

namespace Traced

variable {α β : Type}

def pure (result : α) : Traced α :=
  ⟨result, [], []⟩

def bind (first : Traced α) (next : α → Traced β) : Traced β :=
  let second := next first.result
  ⟨second.result, first.events ++ second.events, first.shown ++ second.shown⟩

instance : Monad Traced where
  pure := pure
  bind := bind

def log (event : Event) : Traced Unit :=
  ⟨(), [event], []⟩

def logAll (events : List Event) : Traced Unit :=
  ⟨(), events, []⟩

/-- The predicate is applied once, to the given readings. -/
def applied (predicate : List (Reading Failure.Kind) → Bool)
    (readings : List (Reading Failure.Kind)) : Traced Bool :=
  ⟨predicate readings, [], [readings]⟩

/-- How often a predicate was applied. -/
def applications (traced : Traced α) : Nat :=
  traced.shown.length

@[simp] theorem result_pure (result : α) : (Pure.pure result : Traced α).result = result := rfl

@[simp] theorem events_pure (result : α) : (Pure.pure result : Traced α).events = [] := rfl

@[simp] theorem shown_pure (result : α) : (Pure.pure result : Traced α).shown = [] := rfl

@[simp] theorem result_bind (first : Traced α) (next : α → Traced β) :
    (first >>= next).result = (next first.result).result := rfl

@[simp] theorem events_bind (first : Traced α) (next : α → Traced β) :
    (first >>= next).events = first.events ++ (next first.result).events := rfl

@[simp] theorem shown_bind (first : Traced α) (next : α → Traced β) :
    (first >>= next).shown = first.shown ++ (next first.result).shown := rfl

@[simp] theorem applications_bind (first : Traced α) (next : α → Traced β) :
    (first >>= next).applications =
      first.applications + (next first.result).applications :=
  List.length_append

end Traced

end RowSieve
