import RowSieve.Batch
import RowSieve.ColumnPath

/-!
# Addresses of leaves

A leaf can be pointed at by position alone: the place of its top column, then the place of a field
in each struct on the way down.  Names play no part in this, so they may repeat, be empty or hold
dots.  What lies on the way, the names and the validities of the structs, is the route to the leaf.
-/

namespace RowSieve

/-!
## Routes

Addresses are compared as lists of numbers, which is depth-first order, as no leaf lies on the way
to another.
-/

abbrev Address := List Nat

/-- The way to a leaf: the names on it, the leaf's own name last, and the validities of the structs
on it, the outermost first. -/
structure Route where
  names : ColumnPath
  structs : List Validity
  leaf : Leaf

namespace Route

def below (name : String) (validity : Validity) (route : Route) : Route where
  names := name :: route.names
  structs := validity :: route.structs
  leaf := route.leaf

def NullAt (row : Nat) (route : Route) : Prop :=
  route.leaf.validity.holds row = false ∨ ∃ validity ∈ route.structs, validity.holds row = false

/-- The array and every validity on the way have `rows` rows. -/
structure Covers (rows : Nat) (route : Route) : Prop where
  leaf_rows : route.leaf.rows = rows
  leaf_covers : route.leaf.validity.Covers rows
  structs_cover : ∀ validity ∈ route.structs, validity.Covers rows

def Readable (route : Route) : Prop :=
  route.leaf.type.physicalType?.isSome = true

instance (route : Route) : Decidable route.Readable :=
  inferInstanceAs (Decidable (_ = true))

theorem not_nullAt_iff {row : Nat} {route : Route} :
    ¬ route.NullAt row ↔
      route.leaf.validity.holds row = true ∧
        ∀ validity ∈ route.structs, validity.holds row = true := by
  simp only [NullAt, not_or, not_exists, not_and, Bool.not_eq_false]

theorem nullAt_below {row : Nat} {name : String} {validity : Validity} {route : Route} :
    (route.below name validity).NullAt row ↔
      validity.holds row = false ∨ route.NullAt row := by
  simp only [NullAt, below, List.mem_cons, exists_eq_or_imp]
  constructor
  · rintro (hleaf | houtermost | hdeeper)
    · exact .inr (.inl hleaf)
    · exact .inl houtermost
    · exact .inr (.inr hdeeper)
  · rintro (houtermost | hleaf | hdeeper)
    · exact .inr (.inl houtermost)
    · exact .inl hleaf
    · exact .inr (.inr hdeeper)

end Route

namespace Columns

def routeTo? : Columns → Address → Option Route
  | .nil, _ => none
  | .leaf _ _ _, [] => none
  | .leaf name array _, [0] => some ⟨[name], [], array⟩
  | .leaf _ _ _, 0 :: _ :: _ => none
  | .leaf _ _ rest, (place + 1) :: deeper => rest.routeTo? (place :: deeper)
  | .struct _ _ _ _ _, [] => none
  | .struct name validity _ fields _, 0 :: deeper =>
      (fields.routeTo? deeper).map (Route.below name validity)
  | .struct _ _ _ _ rest, (place + 1) :: deeper => rest.routeTo? (place :: deeper)

theorem routeTo?_nil (columns : Columns) : columns.routeTo? [] = none := by
  cases columns <;> rfl

theorem routeTo?_cons (columns : Columns) (place : Nat) (deeper : Address) :
    columns.routeTo? (place :: deeper) =
      match columns.toList[place]? with
      | none => none
      | some (name, .leaf array) => if deeper = [] then some ⟨[name], [], array⟩ else none
      | some (name, .struct validity _ fields) =>
          (fields.routeTo? deeper).map (Route.below name validity) := by
  induction columns generalizing place with
  | nil => rfl
  | leaf name array rest ih =>
      cases place with
      | zero => cases deeper <;> rfl
      | succ place => exact ih place
  | struct name validity rows fields rest _ ih =>
      cases place with
      | zero => rfl
      | succ place => exact ih place

theorem covers_of_routeTo?
    {rows : Nat} {columns : Columns} (hrect : columns.Rectangular rows) {address : Address}
    {route : Route} (hroute : columns.routeTo? address = some route) :
    route.Covers rows := by
  induction columns generalizing address route with
  | nil => cases hroute
  | leaf name array rest ih =>
      rcases hrect with ⟨hrows, hvalidity, hrest⟩
      match address, hroute with
      | [0], hroute =>
          cases hroute
          exact ⟨hrows, hvalidity, fun _ hnone => nomatch hnone⟩
      | (place + 1) :: deeper, hroute => exact ih hrest hroute
  | struct name validity own fields rest ihfields ih =>
      rcases hrect with ⟨_, hvalidity, hfields, hrest⟩
      match address, hroute with
      | 0 :: deeper, hroute =>
          rcases Option.map_eq_some_iff.mp hroute with ⟨inner, hinner, hmade⟩
          have hcovers := ihfields hfields hinner
          rw [← hmade]
          constructor
          · exact hcovers.leaf_rows
          · exact hcovers.leaf_covers
          · intro enclosing henclosing
            rcases List.mem_cons.mp henclosing with houtermost | hdeeper
            · rw [houtermost]
              exact hvalidity
            · exact hcovers.structs_cover enclosing hdeeper
      | (place + 1) :: deeper, hroute => exact ih hrest hroute

end Columns

/-!
## Walking the cells of a row

A walk goes into the cells by the same places.  It ends early at a null struct, which shows nothing
of what it holds.
-/

namespace Cell

def walk : Address → Cell → Option Cell
  | [], cell => some cell
  | _ :: _, .null => some .null
  | _ :: _, .slot _ _ => none
  | place :: deeper, .struct fields => fields[place]?.bind fun field => field.2.walk deeper

theorem walk_null (address : Address) : Cell.null.walk address = some .null := by
  cases address <;> rfl

end Cell

namespace Columns

variable {row : Nat}

/-- At the end of a route a walk finds nothing where the route is null, and the slot elsewhere. -/
theorem walk_cellsAt
    {columns : Columns} {address : Address} {route : Route}
    (hroute : columns.routeTo? address = some route) :
    (route.NullAt row → (Cell.struct (columns.cellsAt row)).walk address = some .null) ∧
      (¬ route.NullAt row → ∀ slot, route.leaf.values.get? row = some slot →
        (Cell.struct (columns.cellsAt row)).walk address =
          some (.ofSlot route.leaf.type slot)) := by
  induction columns generalizing address route with
  | nil => cases hroute
  | leaf name array rest ih =>
      match address, hroute with
      | [0], hroute =>
          cases hroute
          have hwalk : (Cell.struct ((Columns.leaf name array rest).cellsAt row)).walk [0] =
              some (array.cellAt row) := rfl
          rw [hwalk]
          constructor
          · intro hnull
            rcases hnull with hleaf | ⟨_, hnone, _⟩
            · simp only [Leaf.cellAt, hleaf, Bool.false_eq_true, if_false]
            · cases hnone
          · intro hpresent slot hslot
            have hholds : array.validity.holds row = true :=
              Bool.of_not_eq_false fun hleaf => hpresent (.inl hleaf)
            rw [Leaf.cellAt, if_pos hholds, hslot]
      | (place + 1) :: deeper, hroute => exact ih hroute
  | struct name validity own fields rest ihfields ih =>
      match address, hroute with
      | 0 :: deeper, hroute =>
          rcases Option.map_eq_some_iff.mp hroute with ⟨inner, hinner, hmade⟩
          have hwalk : (Cell.struct
              ((Columns.struct name validity own fields rest).cellsAt row)).walk (0 :: deeper) =
                (if validity.holds row then Cell.struct (fields.cellsAt row) else .null).walk
                  deeper := rfl
          rw [← hmade, Route.nullAt_below, hwalk]
          cases hholds : validity.holds row with
          | false =>
              simp only [Bool.false_eq_true, if_false, Cell.walk_null]
              exact ⟨fun _ => trivial, fun hpresent => absurd (.inl trivial) hpresent⟩
          | true =>
              rcases ihfields hinner with ⟨hgone, hthere⟩
              simp only [if_true, Bool.true_eq_false, false_or]
              exact ⟨hgone, hthere⟩
      | (place + 1) :: deeper, hroute => exact ih hroute

end Columns
end RowSieve
