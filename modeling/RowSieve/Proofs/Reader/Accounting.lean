import Mathlib.Data.List.Nodup
import RowSieve.Proofs.Path.Splitting
import RowSieve.Proofs.Reader.Flattening

/-!
# Every leaf is accounted for

A batch gets a reader for each leaf that can be read, and a line of the log for each of the others.
By position the two are told apart exactly: a leaf is met once among the readers or once in the log,
and a struct in neither.
-/

namespace RowSieve

/-!
## What lies at an address
-/

/-- The array that a column holds at an address: itself, or one in the field at the first place. -/
def Column.arrayAt? : Address → Column → Option Column
  | [], column => some column
  | _ :: _, .leaf _ => none
  | place :: deeper, .struct _ _ fields =>
      fields.toList[place]?.bind fun field => field.2.arrayAt? deeper

theorem Column.arrayAt?_eq_leaf_iff
    {validity : Validity} {rows : Nat} {columns : Columns} {address : Address} {array : Leaf} :
    (Column.struct validity rows columns).arrayAt? address = some (.leaf array) ↔
      ∃ route, columns.routeTo? address = some route ∧ route.leaf = array := by
  induction address generalizing validity rows columns with
  | nil => simp [arrayAt?, Columns.routeTo?_nil]
  | cons place deeper ih =>
      rw [arrayAt?, Columns.routeTo?_cons]
      rcases columns.toList[place]? with _ | ⟨name, found | ⟨own, ownRows, fields⟩⟩
      · simp
      · cases deeper <;> simp [arrayAt?]
      · rw [Option.bind_some, ih]
        simp only [Option.map_eq_some_iff]
        constructor
        · intro hroute
          rcases hroute with ⟨route, hroute, hleaf⟩
          exact ⟨route.below name own, ⟨route, hroute, rfl⟩, hleaf⟩
        · intro hroute
          rcases hroute with ⟨_, ⟨route, hroute, hmade⟩, hleaf⟩
          refine ⟨route, hroute, ?_⟩
          rw [← hleaf, ← hmade]
          rfl

/-- The array at an address in a batch; the batch itself is at the empty one. -/
def Batch.arrayAt? (batch : Batch) (address : Address) : Option Column :=
  (Column.struct .all batch.rows batch.columns).arrayAt? address

/-!
## The leaves without a reader

The addresses of leaves with a reader and of leaves without one are, put together, all addresses of
leaves.
-/

namespace Columns

/-- The addresses of the leaves that cannot be read. -/
def skippedAddresses (columns : Columns) : List Address :=
  ((columns.routesFrom 0).filter fun found => ¬ found.2.Readable).map Prod.fst

theorem pairwise_skippedAddresses (columns : Columns) :
    columns.skippedAddresses.Pairwise (· < ·) :=
  pairwise_filter_routesFrom

theorem mem_skippedAddresses {columns : Columns} {address : Address} :
    address ∈ columns.skippedAddresses ↔
      ∃ route, columns.routeTo? address = some route ∧ ¬ route.Readable := by
  rw [skippedAddresses, mem_filter_routesFrom]
  simp only [decide_eq_true_eq]

theorem perm_addresses (columns : Columns) :
    (columns.readableAddresses ++ columns.skippedAddresses).Perm
      ((columns.routesFrom 0).map Prod.fst) := by
  have hskipped : columns.skippedAddresses =
      ((columns.routesFrom 0).filter fun found => !decide found.2.Readable).map Prod.fst := by
    simp only [skippedAddresses, decide_not]
  rw [readableAddresses, hskipped, ← List.map_append]
  exact (List.filter_append_perm _ _).map _

theorem count_addresses
    {columns : Columns} {address : Address} {route : Route}
    (hroute : columns.routeTo? address = some route) :
    columns.readableAddresses.count address + columns.skippedAddresses.count address = 1 := by
  have hmem : address ∈ (columns.routesFrom 0).map Prod.fst :=
    List.mem_map.mpr ⟨(address, route), mem_routesFrom_zero.mpr hroute, rfl⟩
  have hnodup : ((columns.routesFrom 0).map Prod.fst).Nodup := by
    apply (pairwise_routesFrom columns 0).imp
    intro earlier later horder hsame
    rw [hsame] at horder
    exact List.lt_irrefl later horder
  rw [← List.count_append, (perm_addresses columns).count_eq address]
  exact List.count_eq_one_of_mem hnodup hmem

end Columns

/-!
## The log of flattening
-/

/-- What a line of the log tells: the name of the event, and its details. -/
def Event.line (event : Event) : String × List (String × Event.Detail) :=
  (event.name, event.details)

/-- The line for a leaf without a reader: its names with dots between them, and its type. -/
def Route.skippedLine (route : Route) : String × List (String × Event.Detail) :=
  ("column_skipped",
    [("path", .text (".".intercalate route.names)), ("data_type", .text route.leaf.type.text)])

theorem PlacedLeaf.skipped?_eq_some_iff {leaf : PlacedLeaf} {event : Event} :
    leaf.skipped? = some event ↔
      leaf.array.type.physicalType? = none ∧
        event = .columnSkipped leaf.path leaf.array.type := by
  rw [skipped?]
  cases leaf.array.type.physicalType? with
  | none => simp [eq_comm]
  | some declared => simp

namespace Route

/-- The event that a batch logs for the leaf, if it cannot be read. -/
def skipped? (route : Route) : Option Event :=
  (route.placed [] .all).skipped?

theorem isSome_skipped? (route : Route) : route.skipped?.isSome = true ↔ ¬ route.Readable := by
  rw [Option.isSome_iff_ne_none, ← isSome_column?]
  exact not_congr (PlacedLeaf.skipped?_eq_none_iff _)

theorem line_of_skipped? {route : Route} {event : Event} (hevent : route.skipped? = some event) :
    route.leaf.type.physicalType? = none ∧ event.line = route.skippedLine := by
  rcases PlacedLeaf.skipped?_eq_some_iff.mp hevent with ⟨hnone, hmade⟩
  refine ⟨hnone, ?_⟩
  rw [hmade, skippedLine, ← ColumnPath.dotted_eq_intercalate]
  rfl

end Route

namespace Batch

theorem skippedEvents_eq_filterMap (batch : Batch) :
    batch.skippedEvents =
      (batch.columns.routesFrom 0).filterMap fun found => found.2.skipped? := by
  rw [skippedEvents, Columns.leaves_eq_map, List.filterMap_map]
  rfl

/-- The readers on a shelf and the lines of a log account for the leaves of a batch: the leaves at
the exposed addresses have a reader each, those at the skipped addresses a line each, in depth-first
order, and there is no other leaf. -/
structure Accounts (batch : Batch) (exposed skipped : List Address) (shelf : Shelf)
    (lines : List (String × List (String × Event.Detail))) : Prop where
  exposed_depth_first : exposed.Pairwise (· < ·)
  skipped_depth_first : skipped.Pairwise (· < ·)
  leaf_once : ∀ address array, batch.arrayAt? address = some (.leaf array) →
    exposed.count address + skipped.count address = 1
  struct_never : ∀ address validity rows fields,
    batch.arrayAt? address = some (.struct validity rows fields) →
    address ∉ exposed ∧ address ∉ skipped
  readers : List.Forall₂
    (fun address reader => ∃ route : Route, batch.columns.routeTo? address = some route ∧
      reader.StandsFor route 0 route.leaf.rows)
    exposed shelf
  lines : List.Forall₂
    (fun address line => ∃ route : Route, batch.columns.routeTo? address = some route ∧
      route.leaf.type.physicalType? = none ∧ line = route.skippedLine)
    skipped lines

/-- Every leaf has either a reader or a line of the log, and never both. -/
theorem accounts (batch : Batch) :
    batch.Accounts batch.columns.readableAddresses batch.columns.skippedAddresses
      (Shelf.ofColumns batch.leafColumns) (batch.skippedEvents.map Event.line) where
  exposed_depth_first := Columns.pairwise_readableAddresses batch.columns
  skipped_depth_first := Columns.pairwise_skippedAddresses batch.columns
  leaf_once := by
    intro address array hleaf
    rcases Column.arrayAt?_eq_leaf_iff.mp hleaf with ⟨route, hroute, _⟩
    exact Columns.count_addresses hroute
  struct_never := by
    intro address validity rows fields hstruct
    have hnone : ∀ route, batch.columns.routeTo? address ≠ some route := by
      intro route hroute
      have hleaf : batch.arrayAt? address = some (.leaf route.leaf) :=
        Column.arrayAt?_eq_leaf_iff.mpr ⟨route, hroute, rfl⟩
      rw [hstruct] at hleaf
      cases hleaf
    constructor
    · intro hmem
      rcases Columns.mem_readableAddresses.mp hmem with ⟨route, hroute, _⟩
      exact hnone route hroute
    · intro hmem
      rcases Columns.mem_skippedAddresses.mp hmem with ⟨route, hroute, _⟩
      exact hnone route hroute
  readers := by
    rw [Columns.readableAddresses, Shelf.ofColumns, List.forall₂_map_left_iff,
      List.forall₂_map_right_iff]
    apply (forall₂_leafColumns batch).imp
    intro found column hmade
    rcases found with ⟨address, route⟩
    rcases hmade with ⟨hfound, hcolumn⟩
    exact ⟨route, Columns.mem_routesFrom_zero.mp hfound, LeafColumn.standsFor hcolumn 0⟩
  lines := by
    rw [Columns.skippedAddresses, skippedEvents_eq_filterMap, List.forall₂_map_left_iff,
      List.forall₂_map_right_iff]
    apply forall₂_filterMap
    · intro found
      rcases found with ⟨address, route⟩
      rw [Bool.eq_iff_iff, decide_eq_true_eq, Route.isSome_skipped?]
    · intro found hfound event hevent
      rcases found with ⟨address, route⟩
      exact ⟨route, Columns.mem_routesFrom_zero.mp hfound, Route.line_of_skipped? hevent⟩

end Batch
end RowSieve
