import Mathlib.Data.List.Find
import RowSieve.Proofs.Reader.Flattening
import RowSieve.Proofs.Sieve.Verdict

/-!
# Only the requested leaves matter

A sieve learns nothing of a batch but what the first readable leaf at each requested path shows.
Two batches that agree there, however unlike they are elsewhere, are sifted alike: values that lie
under a null, other columns, columns that cannot be read, later columns at the same path and the way
in which texts or bytes are laid out leave no trace in what comes out.
-/

namespace RowSieve

/-!
## What can be seen of a leaf
-/

namespace Route

instance (row : Nat) (route : Route) : Decidable (route.NullAt row) :=
  inferInstanceAs (Decidable (_ ∨ _))

/-- The value at the end of the route, unless the leaf or a struct around it is null at `row`. -/
def visibleAt (row : Nat) (route : Route) : Option Value :=
  if route.NullAt row then none
  else (route.leaf.values.get? row).bind route.leaf.type.value?

theorem any_column? (route : Route) (path : ColumnPath) :
    (route.column?.any fun column => column.path == path) =
      (decide route.Readable && route.names == path) := by
  show (route.leaf.type.physicalType?.map _).any _ =
    (decide (route.leaf.type.physicalType?.isSome = true) && _)
  cases route.leaf.type.physicalType? <;> rfl

end Route

namespace LeafColumn

theorem visibleAt_of_column?
    {rows : Nat} {route : Route} {column : LeafColumn} (hcovers : route.Covers rows)
    (hcolumn : route.column? = some column) (row : Nat) :
    column.visibleAt row = route.visibleAt row := by
  have hholds := holds_iff_not_nullAt hcovers hcolumn row
  have harray := (fits_of_column? hcovers hcolumn).2.2
  rw [visibleAt, Route.visibleAt, harray]
  by_cases hnull : route.NullAt row
  · rw [if_pos hnull, if_neg (fun hpresent => hholds.mp hpresent hnull)]
  · rw [if_neg hnull, if_pos (hholds.mpr hnull)]

end LeafColumn

/-!
## The first leaf at a path
-/

namespace Columns

/-- The route leads to the first leaf in depth-first order that can be read and has the path. -/
structure FirstLeafAt (columns : Columns) (path : ColumnPath) (address : Address)
    (route : Route) : Prop where
  found : columns.routeTo? address = some route
  readable : route.Readable
  names_eq : route.names = path
  least : ∀ earlier other, earlier < address → columns.routeTo? earlier = some other →
    other.Readable → other.names ≠ path

/-- No leaf that can be read has the path. -/
def NoLeafAt (columns : Columns) (path : ColumnPath) : Prop :=
  ∀ address route, columns.routeTo? address = some route → route.Readable → route.names ≠ path

/-- The first leaf that can be read and has the path, with its address. -/
def firstLeafAt? (columns : Columns) (path : ColumnPath) : Option (Address × Route) :=
  (columns.routesFrom 0).find? fun found => found.2.Readable && found.2.names == path

theorem noLeafAt_iff {columns : Columns} {path : ColumnPath} :
    columns.NoLeafAt path ↔ columns.firstLeafAt? path = none := by
  rw [firstLeafAt?, List.find?_eq_none]
  constructor
  · intro hnone found hfound hboth
    rw [Bool.and_eq_true, decide_eq_true_iff, beq_iff_eq] at hboth
    exact hnone found.1 found.2 (mem_routesFrom_zero.mp hfound) hboth.1 hboth.2
  · intro hnone address route hroute hreadable hnames
    apply hnone (address, route) (mem_routesFrom_zero.mpr hroute)
    rw [Bool.and_eq_true, decide_eq_true_iff, beq_iff_eq]
    exact ⟨hreadable, hnames⟩

theorem find?_eq_some_iff_of_pairwise
    {listing : List (Address × Route)} {p : Address × Route → Bool} {found : Address × Route}
    (horder : (listing.map Prod.fst).Pairwise (· < ·)) :
    listing.find? p = some found ↔
      found ∈ listing ∧ p found = true ∧
        ∀ earlier ∈ listing, earlier.1 < found.1 → p earlier = false := by
  induction listing with
  | nil => simp
  | cons head rest ih =>
      rw [List.map_cons, List.pairwise_cons] at horder
      rcases horder with ⟨hhead, hrest⟩
      have hbehind : ∀ later ∈ rest, head.1 < later.1 := by
        intro later hlater
        exact hhead later.1 (List.mem_map_of_mem hlater)
      rw [List.find?_cons]
      cases hp : p head with
      | true =>
          constructor
          · intro hsame
            cases hsame
            refine ⟨List.mem_cons_self, hp, ?_⟩
            intro earlier hearlier hlt
            rcases List.mem_cons.mp hearlier with hsame | hlater
            · rw [hsame] at hlt
              exact absurd hlt (List.lt_irrefl _)
            · exact absurd hlt (List.lt_asymm (hbehind earlier hlater))
          · intro hfound
            rcases hfound with ⟨hmem, _, hleast⟩
            rcases List.mem_cons.mp hmem with hsame | hlater
            · rw [hsame]
            · have hmismatch := hleast head List.mem_cons_self (hbehind found hlater)
              rw [hp] at hmismatch
              cases hmismatch
      | false =>
          simp only [ih hrest, List.mem_cons]
          constructor
          · intro hfound
            rcases hfound with ⟨hmem, hpasses, hleast⟩
            refine ⟨.inr hmem, hpasses, ?_⟩
            intro earlier hearlier hlt
            rcases hearlier with hsame | hlater
            · rw [hsame]
              exact hp
            · exact hleast earlier hlater hlt
          · intro hfound
            rcases hfound with ⟨hmem, hpasses, hleast⟩
            rcases hmem with hsame | hlater
            · rw [hsame, hp] at hpasses
              cases hpasses
            · exact ⟨hlater, hpasses, fun earlier hearlier => hleast earlier (.inr hearlier)⟩

theorem firstLeafAt_iff
    {columns : Columns} {path : ColumnPath} {address : Address} {route : Route} :
    columns.FirstLeafAt path address route ↔
      columns.firstLeafAt? path = some (address, route) := by
  rw [firstLeafAt?, find?_eq_some_iff_of_pairwise (pairwise_routesFrom columns 0)]
  simp only [mem_routesFrom_zero, Prod.forall, Bool.and_eq_true, Bool.and_eq_false_imp,
    decide_eq_true_iff, beq_iff_eq, beq_eq_false_iff_ne]
  constructor
  · intro hfirst
    refine ⟨hfirst.found, ⟨hfirst.readable, hfirst.names_eq⟩, ?_⟩
    intro earlier other hroute hearlier hreadable
    exact hfirst.least earlier other hearlier hroute hreadable
  · intro hfirst
    rcases hfirst with ⟨hfound, hboth, hleast⟩
    refine ⟨hfound, hboth.1, hboth.2, ?_⟩
    intro earlier other hearlier hroute hreadable
    exact hleast earlier other hroute hearlier hreadable

end Columns

/-!
## Batches that agree at a path

Where batches agree, a path finds columns that show the same, or none in either.
-/

namespace LeafColumn

/-- The columns show the same at each of the first `rows` rows. -/
structure Alike (rows : Nat) (column other : LeafColumn) : Prop where
  fits : column.Fits rows
  other_fits : other.Fits rows
  path_eq : column.path = other.path
  declared_eq : column.declared = other.declared
  visible_eq : ∀ row, row < rows → column.visibleAt row = other.visibleAt row

theorem Alike.readingAt_eq
    {rows row : Nat} {column other : LeafColumn} (halike : Alike rows column other)
    (hrow : row < rows) :
    column.readingAt row = other.readingAt row := by
  rw [readingAt_eq_showing halike.fits hrow, readingAt_eq_showing halike.other_fits hrow,
    halike.path_eq, halike.declared_eq, halike.visible_eq row hrow]

end LeafColumn

namespace Batch

variable {left right : Batch} {path : ColumnPath}

/-- The path leads to a readable leaf in neither batch, or else the first leaves to which it leads
have the same physical type and show the same, a value or null, at every row. -/
inductive AgreeAt (path : ColumnPath) (left right : Batch) : Prop
  | absent (hleft : left.columns.NoLeafAt path) (hright : right.columns.NoLeafAt path)
  | present {leftAddress rightAddress : Address} {leftRoute rightRoute : Route}
      (hleft : left.columns.FirstLeafAt path leftAddress leftRoute)
      (hright : right.columns.FirstLeafAt path rightAddress rightRoute)
      (htype : leftRoute.leaf.type.physicalType? = rightRoute.leaf.type.physicalType?)
      (hvisible : ∀ row, row < left.rows → leftRoute.visibleAt row = rightRoute.visibleAt row)

/-- The column that a path finds is that of the first leaf to which it leads. -/
theorem find?_leafColumns (batch : Batch) (path : ColumnPath) :
    (batch.leafColumns.find? fun column => column.path == path) =
      (batch.columns.firstLeafAt? path).bind fun found => found.2.column? := by
  rw [leafColumns_eq_filterMap, List.find?_filterMap, Columns.firstLeafAt?]
  simp only [Route.any_column?]

theorem noLeafAt_iff_not_mem_leafPaths (batch : Batch) (path : ColumnPath) :
    batch.columns.NoLeafAt path ↔ path ∉ batch.leafPaths := by
  have hnone : path ∉ batch.leafPaths ↔
      (batch.leafColumns.find? fun column => column.path == path) = none := by
    simp [leafPaths]
  rw [Columns.noLeafAt_iff, hnone, find?_leafColumns]
  cases hfirst : batch.columns.firstLeafAt? path with
  | none => simp
  | some found =>
      have hreadable := (Columns.firstLeafAt_iff.mpr hfirst).readable
      rcases Option.isSome_iff_exists.mp ((Route.isSome_column? found.2).mpr hreadable) with
        ⟨column, hcolumn⟩
      simp [hcolumn]

theorem exists_column_of_firstLeafAt
    {batch : Batch} (hformed : batch.WellFormed) {address : Address} {route : Route}
    (hfirst : batch.columns.FirstLeafAt path address route) :
    ∃ column, route.Covers batch.rows ∧ route.column? = some column ∧
      (batch.leafColumns.find? fun column => column.path == path) = some column := by
  have hcovers := Columns.covers_of_routeTo? hformed hfirst.found
  rcases Option.isSome_iff_exists.mp ((Route.isSome_column? route).mpr hfirst.readable) with
    ⟨column, hcolumn⟩
  refine ⟨column, hcovers, hcolumn, ?_⟩
  rw [find?_leafColumns, Columns.firstLeafAt_iff.mp hfirst]
  exact hcolumn

theorem alike_of_agreeAt
    (hleft : left.WellFormed) (hright : right.WellFormed) (hrows : left.rows = right.rows)
    (hagree : AgreeAt path left right) :
    Option.Rel (LeafColumn.Alike left.rows)
      (left.leafColumns.find? fun column => column.path == path)
      (right.leafColumns.find? fun column => column.path == path) := by
  cases hagree with
  | absent hnoLeft hnoRight =>
      rw [find?_leafColumns, Columns.noLeafAt_iff.mp hnoLeft, find?_leafColumns,
        Columns.noLeafAt_iff.mp hnoRight]
      exact .none
  | present hfirstLeft hfirstRight htype hvisible =>
      rcases exists_column_of_firstLeafAt hleft hfirstLeft with
        ⟨column, hcovers, hmade, hfound⟩
      rcases exists_column_of_firstLeafAt hright hfirstRight with
        ⟨other, hotherCovers, hotherMade, hotherFound⟩
      rw [← hrows] at hotherCovers
      rcases LeafColumn.fits_of_column? hcovers hmade with ⟨hfits, hpath, harray⟩
      rcases LeafColumn.fits_of_column? hotherCovers hotherMade with
        ⟨hotherFits, hotherPath, hotherArray⟩
      rw [hfound, hotherFound]
      apply Option.Rel.some
      constructor
      · exact hfits
      · exact hotherFits
      · rw [hpath, hotherPath, hfirstLeft.names_eq, hfirstRight.names_eq]
      · have hdeclared := hfits.declares
        rw [harray, htype, ← hotherArray, hotherFits.declares] at hdeclared
        exact (Option.some.inj hdeclared).symm
      · intro row hrow
        rw [LeafColumn.visibleAt_of_column? hcovers hmade,
          LeafColumn.visibleAt_of_column? hotherCovers hotherMade]
        exact hvisible row hrow

theorem find?_viewsAt (batch : Batch) (row : Nat) (path : ColumnPath) :
    ((batch.viewsAt row).find? fun reading => reading.path == path) =
      (batch.leafColumns.find? fun column => column.path == path).map
        fun column => column.viewAt row := by
  rw [viewsAt, List.find?_map]
  rfl

end Batch

/-!
## Sifting batches that agree
-/

section Related

variable {α β γ : Type} {related : α → β → Prop} {x : Option α} {y : Option β}

theorem isNone_eq_of_rel (hrel : Option.Rel related x y) : x.isNone = y.isNone := by
  cases hrel <;> rfl

theorem map_eq_of_rel {f : α → γ} {g : β → γ} (hrel : Option.Rel related x y)
    (hlike : ∀ a b, related a b → f a = g b) :
    x.map f = y.map g := by
  cases hrel with
  | none => rfl
  | some hrelated => exact congrArg some (hlike _ _ hrelated)

end Related

namespace Sieve

variable {sieve : Sieve} {left right : Batch}

theorem missing?_of_agreeAt
    (hleft : left.WellFormed) (hright : right.WellFormed) (hrows : left.rows = right.rows)
    (hagree : ∀ text ∈ sieve.paths,
      Batch.AgreeAt (.parse sieve.options.delimiter text) left right) :
    sieve.missing? left.leafPaths = sieve.missing? right.leafPaths := by
  rw [Batch.leafPaths, Batch.leafPaths, missing?_map, missing?_map]
  apply List.find?_congr
  intro text htext
  exact isNone_eq_of_rel (Batch.alike_of_agreeAt hleft hright hrows (hagree text htext))

theorem chosen_of_agreeAt
    (hleft : left.WellFormed) (hright : right.WellFormed) (hrows : left.rows = right.rows)
    (hagree : ∀ text ∈ sieve.paths,
      Batch.AgreeAt (.parse sieve.options.delimiter text) left right)
    {row : Nat} (hrow : row < left.rows) :
    sieve.chosen (left.viewsAt row) = sieve.chosen (right.viewsAt row) := by
  apply List.filterMap_congr
  intro text htext
  have halike := Batch.alike_of_agreeAt hleft hright hrows (hagree text htext)
  rw [Batch.find?_viewsAt, Batch.find?_viewsAt]
  apply map_eq_of_rel halike
  intro column other halike
  exact congrArg (Reading.mapFailure Failure.kind) (halike.readingAt_eq hrow)

end Sieve

namespace Batch

variable {left right : Batch}

/-- Batches that agree at every requested path cannot be told apart by sifting.  The predicate is
shown the same for both, row by row, and they get the same mask and the same matching rows, or the
same requested path is reported.  None is reported if all of them have a readable leaf: then the
predicate is asked about every row, and the mask is what it answers. -/
theorem sifts_alike_of_agreeAt
    (hleft : left.WellFormed) (hright : right.WellFormed) (hrows : left.rows = right.rows)
    (sieve : Sieve)
    (hagree : ∀ text ∈ sieve.paths,
      AgreeAt (.parse sieve.options.delimiter text) left right) :
    (left.matchMask sieve).result = (right.matchMask sieve).result ∧
      (left.matchingRows sieve).result = (right.matchingRows sieve).result ∧
      (left.matchMask sieve).shown = (right.matchMask sieve).shown ∧
      ((∀ text ∈ sieve.paths,
          ¬ left.columns.NoLeafAt (.parse sieve.options.delimiter text)) →
        (left.matchMask sieve).applications = left.rows ∧
          (left.matchMask sieve).result =
            .ok ((left.matchMask sieve).shown.map sieve.predicate)) := by
  have hmissing := Sieve.missing?_of_agreeAt hleft hright hrows hagree
  have hchosen : left.viewRows.map sieve.chosen = right.viewRows.map sieve.chosen := by
    rw [viewRows, viewRows, List.map_map, List.map_map, ← hrows]
    apply List.map_congr_left
    intro row hrow
    exact Sieve.chosen_of_agreeAt hleft hright hrows hagree (List.mem_range.mp hrow)
  have hjudged : ∀ batch : Batch,
      (batch.viewRows.map sieve.chosen).map sieve.predicate = batch.viewRows.map sieve.judges := by
    intro batch
    rw [List.map_map]
    rfl
  have hsame : left.viewRows.map sieve.judges = right.viewRows.map sieve.judges := by
    rw [← hjudged left, hchosen, hjudged right]
  refine ⟨?_, ?_, ?_, ?_⟩
  · rw [result_matchMask, result_matchMask, hmissing, hsame]
  · rw [result_matchingRows, result_matchingRows, hmissing, hsame]
  · rw [shown_matchMask, shown_matchMask, hmissing, hchosen]
  · intro hfound
    have hbound : sieve.missing? left.leafPaths = none := by
      rw [Sieve.missing?_eq_none_iff]
      intro text htext
      by_contra habsent
      exact hfound text htext ((noLeafAt_iff_not_mem_leafPaths left _).mpr habsent)
    have hshown := shown_matchMask left sieve
    rw [hbound] at hshown
    constructor
    · rw [Traced.applications, hshown, List.length_map, length_viewRows]
    · rw [result_matchMask, hbound, hshown, hjudged]

/-- The cars told in another way.  The models are bytes rather than text.  The engine of the third
car is there but has no capacity, and what lies under the nulls differs.  A capacity that cannot be
read comes before the one that can, and another one comes after it. -/
def carsRetold : Batch where
  columns :=
    .struct "engine" .all 4
      (.leaf "capacity" ⟨.utf8View, .listed ["small", "none", "none", "large"], .all⟩ <|
       .leaf "capacity"
          ⟨.int32, .listed [1000, 17, 23, 3000], .ofBits [true, false, false, true]⟩ <|
       .leaf "capacity" ⟨.int32, .listed [5, 6, 7, 8], .all⟩ .nil) <|
    .leaf "model"
      ⟨.largeBinary,
        .listed [.ofText "fiesta", .ofText "golf", .ofText "panda", .ofText "supra"], .all⟩ .nil
  rows := 4

/-- The supra is found in either telling, and a price in neither. -/
theorem sifts_alike_of_agreeAt_cars :
    let supras : Sieve :=
      { paths := ["model", "engine.capacity"]
        predicate := (Condition.both (.startsWith 0 (.ofText "s")) (.not (.isNull 1))).predicate
        options := .standard }
    let priced : Sieve := { supras with paths := ["model", "price"] }
    cars.WellFormed ∧ carsRetold.WellFormed ∧ cars.rows = carsRetold.rows ∧
    (∀ text ∈ supras.paths, AgreeAt (.parse supras.options.delimiter text) cars carsRetold) ∧
    (∀ text ∈ priced.paths, AgreeAt (.parse priced.options.delimiter text) cars carsRetold) ∧
    (cars.matchMask supras).result = .ok [false, false, false, true] ∧
    (carsRetold.matchMask supras).result = .ok [false, false, false, true] ∧
    (cars.matchingRows supras).result = .ok [3] ∧
    (carsRetold.matchingRows supras).result = .ok [3] ∧
    (cars.matchMask priced).result = .error (.unresolvedColumn "price") ∧
    (carsRetold.matchMask priced).result = .error (.unresolvedColumn "price") := by
  intro supras priced
  have hcars : cars.WellFormed := by decide
  have hretold : carsRetold.WellFormed := by decide
  have hmodel : AgreeAt ["model"] cars carsRetold :=
    .present (Columns.firstLeafAt_iff.mpr rfl) (Columns.firstLeafAt_iff.mpr rfl) rfl (by decide)
  have hcapacity : AgreeAt ["engine", "capacity"] cars carsRetold :=
    .present (Columns.firstLeafAt_iff.mpr rfl) (Columns.firstLeafAt_iff.mpr rfl) rfl (by decide)
  have hprice : AgreeAt ["price"] cars carsRetold :=
    .absent (Columns.noLeafAt_iff.mpr rfl) (Columns.noLeafAt_iff.mpr rfl)
  have hsupras : ∀ text ∈ supras.paths,
      AgreeAt (.parse supras.options.delimiter text) cars carsRetold :=
    List.forall_mem_cons.mpr ⟨hmodel, List.forall_mem_singleton.mpr hcapacity⟩
  have hpriced : ∀ text ∈ priced.paths,
      AgreeAt (.parse priced.options.delimiter text) cars carsRetold :=
    List.forall_mem_cons.mpr ⟨hmodel, List.forall_mem_singleton.mpr hprice⟩
  have hmask : (cars.matchMask supras).result = .ok [false, false, false, true] := by rfl
  have hrows : (cars.matchingRows supras).result = .ok [3] := by rfl
  have hmissing : (cars.matchMask priced).result = .error (.unresolvedColumn "price") := by rfl
  rcases sifts_alike_of_agreeAt hcars hretold rfl supras hsupras with
    ⟨hsameMask, hsameRows, _, _⟩
  have hsameError := (sifts_alike_of_agreeAt hcars hretold rfl priced hpriced).1
  exact ⟨hcars, hretold, rfl, hsupras, hpriced, hmask, hsameMask ▸ hmask, hrows,
    hsameRows ▸ hrows, hmissing, hsameError ▸ hmissing⟩

end Batch
end RowSieve
