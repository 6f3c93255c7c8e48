import RowSieve.Reader.LeafColumn
import RowSieve.Sieve.Basic

/-!
# Readers on a shelf

Readers stand on a shelf and are referred to by their position there, their handle; whoever holds
the same handle shares the same cursor.
-/

namespace RowSieve

/-!
## Readers

A reader either is a leaf column with a cursor or holds a value that is set from outside.
-/

/-- A column at its current row. -/
inductive Reader
  | leaf (column : LeafColumn) (row : Nat)
  /-- A reader whose current value is set from outside, of whatever type. -/
  | settable (path : ColumnPath) (declared : PhysicalType) (current : Value)

namespace Reader

def path : Reader → ColumnPath
  | .leaf column _ => column.path
  | .settable path _ _ => path

def declared : Reader → PhysicalType
  | .leaf column _ => column.declared
  | .settable _ declared _ => declared

/-- What the column shows now.  A settable reader is never null, and its accessors go by the type
of the current value. -/
def reading : Reader → Reading Failure
  | .leaf column row => column.readingAt row
  | .settable path declared current =>
      { path := path
        declared := declared
        isNull := false
        get := fun accessor =>
          match accessor.payload? current with
          | some payload => .ok payload
          | none => .error (.readerTypeMismatch path accessor.requested declared) }

/-- The reader with its cursor at `row`; a settable reader has no cursor. -/
def seek (row : Nat) : Reader → Reader
  | .leaf column _ => .leaf column row
  | reader => reader

/-- The reader with another current value; a leaf column keeps its values. -/
def set (value : Value) : Reader → Reader
  | .settable path declared _ => .settable path declared value
  | reader => reader

/-- Where the cursor stands, and the number of rows of the column. -/
def cursor? : Reader → Option (Nat × Nat)
  | .leaf column row => some (row, column.rows)
  | .settable _ _ _ => none

@[simp] theorem path_reading (reader : Reader) : reader.reading.path = reader.path := by
  cases reader <;> rfl

end Reader

/-- The place of a reader on its shelf. -/
abbrev Handle := Nat

abbrev Shelf := List Reader

namespace Shelf

/-- The shelf with fresh readers of the given columns, all at row 0. -/
def ofColumns (columns : List LeafColumn) : Shelf :=
  columns.map fun column => .leaf column 0

/-- The handles that `added` more readers get when they are put on the shelf. -/
def nextHandles (shelf : Shelf) (added : Nat) : List Handle :=
  (List.range added).map (shelf.length + ·)

def pathOf (shelf : Shelf) (handle : Handle) : ColumnPath :=
  match shelf[handle]? with
  | some reader => reader.path
  | none => []

def readings (shelf : Shelf) (handles : List Handle) : List (Reading Failure) :=
  handles.filterMap fun handle => shelf[handle]?.map Reader.reading

/-- What the readers behind the handles show to a predicate. -/
def views (shelf : Shelf) (handles : List Handle) : List (Reading Failure.Kind) :=
  (shelf.readings handles).map (Reading.mapFailure Failure.kind)

/-- The shelf with the cursors behind the handles at `row`. -/
def seek (handles : List Handle) (row : Nat) (shelf : Shelf) : Shelf :=
  shelf.mapIdx fun handle reader => if handle ∈ handles then reader.seek row else reader

/-- The shelf with another current value behind a handle. -/
def set (handle : Handle) (value : Value) (shelf : Shelf) : Shelf :=
  shelf.modify handle (Reader.set value)

@[simp] theorem length_seek (handles : List Handle) (row : Nat) (shelf : Shelf) :
    (shelf.seek handles row).length = shelf.length := by
  simp [seek]

theorem getElem?_seek (handles : List Handle) (row : Nat) (shelf : Shelf) (handle : Handle) :
    (shelf.seek handles row)[handle]? =
      shelf[handle]?.map fun reader =>
        if handle ∈ handles then reader.seek row else reader := by
  simp [seek]

/-- Of two moves of the same cursors only the last counts. -/
theorem seek_seek (handles : List Handle) (earlier later : Nat) (shelf : Shelf) :
    (shelf.seek handles earlier).seek handles later = shelf.seek handles later := by
  apply List.ext_getElem?
  intro handle
  simp only [getElem?_seek, Option.map_map]
  congr 1
  funext reader
  by_cases own : handle ∈ handles
  · cases reader <;> simp [own, Reader.seek]
  · simp [own]

theorem getElem?_set (handle other : Handle) (value : Value) (shelf : Shelf) :
    (shelf.set handle value)[other]? =
      shelf[other]?.map fun reader => if handle = other then reader.set value else reader := by
  simp only [set, List.getElem?_modify]
  by_cases same : handle = other <;> simp [same]

end Shelf

/-!
## Links

Readers are reached by links: directly, or by a reference to what another link reaches.  A reference
has no cursor and no values of its own.  It passes every question on, so whoever asks it moves with
the reader behind it.
-/

/-- What a reference shows to whoever asks it: each question is passed on to what it refers to. -/
def Reading.passedOn {ε : Type} (reading : Reading ε) : Reading ε where
  path := reading.path
  declared := reading.declared
  isNull := reading.isNull
  get
    | .integer => reading.get .integer
    | .long => reading.get .long
    | .boolean => reading.get .boolean
    | .binary => reading.get .binary
    | .float => reading.get .float
    | .double => reading.get .double

inductive Link
  | direct (handle : Handle)
  | reference (link : Link)

namespace Link

/-- The reader at the end of the link. -/
def handle : Link → Handle
  | .direct handle => handle
  | .reference link => link.handle

/-- What the reader at the end shows to whoever asks at the beginning. -/
def through {ε : Type} : Link → Reading ε → Reading ε
  | .direct _, reading => reading
  | .reference link, reading => (link.through reading).passedOn

end Link

namespace Shelf

def linked? (shelf : Shelf) (link : Link) : Option (Reading Failure) :=
  shelf[link.handle]?.map fun reader => link.through reader.reading

def linkedPath (shelf : Shelf) (link : Link) : ColumnPath :=
  match shelf.linked? link with
  | some reading => reading.path
  | none => []

def linkedReadings (shelf : Shelf) (links : List Link) : List (Reading Failure) :=
  links.filterMap shelf.linked?

end Shelf

namespace BoundSieve

/-- The sieve as one that is bound to the readers behind its links; the predicate looks at them
through the links. -/
def behindLinks (bound : BoundSieve Link) : BoundSieve Handle where
  readers := bound.readers.map Link.handle
  predicate readings := bound.predicate (List.zipWith Link.through bound.readers readings)

end BoundSieve

end RowSieve
