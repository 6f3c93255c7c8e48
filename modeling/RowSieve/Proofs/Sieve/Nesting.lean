import RowSieve.Proofs.Path.Splitting
import RowSieve.Proofs.Sieve.Verdict

/-!
# Batches under a struct

A batch can be put under a struct, whose fields are then the batch's columns.  Each leaf keeps its
place in depth-first order, its path gets the struct's name in front, and it is null wherever the
struct is.  A sieve whose paths get the same name in front finds the same leaves, and it tells the
rows at which the struct is present apart as it did before.
-/

namespace RowSieve

/-!
## Leaves under a struct

Where the struct is present a column shows what it shows without it, and elsewhere it is null.
-/

namespace Validity

theorem meet_assoc (outer middle inner : Validity) :
    (outer.meet middle).meet inner = outer.meet (middle.meet inner) := by
  have hbits : ∀ xs ys zs : List Bool,
      List.zipWith and (List.zipWith and xs ys) zs =
        List.zipWith and xs (List.zipWith and ys zs) := by
    intro xs
    induction xs with
    | nil => simp
    | cons x xs ih =>
        intro ys zs
        cases ys with
        | nil => simp
        | cons y ys =>
            cases zs with
            | nil => simp
            | cons z zs => simp [ih, Bool.and_assoc]
  cases outer with
  | all => rfl
  | ofBits outer =>
      cases middle with
      | all => rfl
      | ofBits middle =>
          cases inner with
          | all => rfl
          | ofBits inner => exact congrArg Validity.ofBits (hbits outer middle inner)

end Validity

/-- The leaf as a leaf below one more struct. -/
def PlacedLeaf.within (name : String) (validity : Validity) (leaf : PlacedLeaf) : PlacedLeaf :=
  ⟨name :: leaf.path, validity.meet leaf.validity, leaf.array⟩

/-- The column as a column below one more struct. -/
def LeafColumn.within (name : String) (validity : Validity) (column : LeafColumn) : LeafColumn :=
  ⟨name :: column.path, column.declared, column.array, validity.meet column.validity⟩

/-- The batch whose only column is a struct with the columns of the given batch as its fields. -/
def Batch.within (name : String) (validity : Validity) (batch : Batch) : Batch where
  columns := .struct name validity batch.rows batch.columns .nil
  rows := batch.rows

variable {name : String} {validity : Validity} {batch : Batch}

/-- Flattening is uniform in the path and the validity that it has come down with. -/
theorem Columns.leavesBelow_within
    (name : String) (validity : Validity) (path : ColumnPath) (outer : Validity)
    (columns : Columns) :
    columns.leavesBelow (name :: path) (validity.meet outer) =
      (columns.leavesBelow path outer).map (PlacedLeaf.within name validity) := by
  induction columns generalizing path outer with
  | nil => rfl
  | leaf own array rest ih =>
      rw [leavesBelow, leavesBelow, ih, Validity.meet_assoc]
      rfl
  | struct own inner rows fields rest ihfields ih =>
      rw [leavesBelow, leavesBelow, List.map_append, ← ihfields, ← ih, Validity.meet_assoc]
      rfl

namespace Batch

theorem leaves_within (name : String) (validity : Validity) (batch : Batch) :
    (batch.within name validity).columns.leaves =
      batch.columns.leaves.map (PlacedLeaf.within name validity) := by
  have hfields := Columns.leavesBelow_within name validity [] .all batch.columns
  rw [Validity.meet_all] at hfields
  rw [Columns.leaves, Columns.leaves, ← hfields]
  exact List.append_nil _

theorem leafColumns_within (name : String) (validity : Validity) (batch : Batch) :
    (batch.within name validity).leafColumns =
      batch.leafColumns.map (LeafColumn.within name validity) := by
  rw [leafColumns, leaves_within, List.filterMap_map, leafColumns, List.map_filterMap]
  congr 1
  funext leaf
  show leaf.array.type.physicalType?.map _ = (leaf.array.type.physicalType?.map _).map _
  rw [Option.map_map]
  rfl

end Batch

/-!
## Readings apart from their paths

No condition looks at a path.
-/

/-- The same reading of a column at another path. -/
def Reading.withPath {ε : Type} (path : ColumnPath) (reading : Reading ε) : Reading ε :=
  { reading with path := path }

/-- The predicate goes by what is shown apart from the paths. -/
def Predicate.PathBlind (predicate : Predicate) : Prop :=
  ∀ readings others : List (Reading Failure.Kind),
    readings.map (Reading.withPath []) = others.map (Reading.withPath []) →
      predicate readings = predicate others

namespace Reading

theorem withPath_mapFailure_showing
    (path other : ColumnPath) (declared : PhysicalType) (row : Nat) (visible : Option Value) :
    ((showing path declared row visible).mapFailure Failure.kind).withPath [] =
      ((showing other declared row visible).mapFailure Failure.kind).withPath [] := by
  have hget : ∀ accessor : Accessor,
      ((showing path declared row visible).get accessor).mapError Failure.kind =
        ((showing other declared row visible).get accessor).mapError Failure.kind := by
    intro accessor
    cases visible with
    | none =>
        simp only [showing]
        split <;> rfl
    | some value =>
        simp only [showing]
        split
        · cases accessor.payload? value <;> rfl
        · rfl
  show (⟨[], declared, visible.isNone, _⟩ : Reading Failure.Kind) =
    ⟨[], declared, visible.isNone, _⟩
  exact congrArg (Reading.mk [] declared visible.isNone) (funext hget)

end Reading

namespace LeafColumn

variable {rows row : Nat} {column : LeafColumn}

theorem fits_within (hfits : column.Fits rows) (hcovers : validity.Covers rows) :
    (column.within name validity).Fits rows where
  rows_eq := hfits.rows_eq
  covers := Validity.covers_meet hcovers hfits.covers
  declares := hfits.declares

theorem withPath_viewAt_within
    (hfits : column.Fits rows) (hcovers : validity.Covers rows) (hrow : row < rows)
    (hpresent : validity.holds row = true) :
    ((column.within name validity).viewAt row).withPath [] = (column.viewAt row).withPath [] := by
  have hvisible : (column.within name validity).visibleAt row = column.visibleAt row := by
    show (if (validity.meet column.validity).holds row then _ else none) = _
    rw [Validity.holds_meet hcovers hfits.covers, hpresent, Bool.true_and]
    rfl
  rw [viewAt, viewAt, readingAt_eq_showing hfits hrow,
    readingAt_eq_showing (fits_within hfits hcovers) hrow, hvisible]
  exact Reading.withPath_mapFailure_showing _ _ _ _ _

theorem isNull_viewAt_within
    (hfits : column.Fits rows) (hcovers : validity.Covers rows) (hrow : row < rows)
    (habsent : validity.holds row = false) :
    ((column.within name validity).viewAt row).isNull = true := by
  show (column.within name validity).isNullAt row = true
  rw [isNullAt_eq (fits_within hfits hcovers) hrow]
  show (!(validity.meet column.validity).holds row) = true
  rw [Validity.holds_meet hcovers hfits.covers, habsent]
  rfl

end LeafColumn

theorem Snapshot.loadDeclared_withPath (readings : List (Reading Failure.Kind)) :
    loadDeclared (readings.map (Reading.withPath [])) = loadDeclared readings := by
  have hread : ∀ readings : List (Reading Failure.Kind),
      Reading.readAll ((readings.map (Reading.withPath [])).map fun reading =>
          (reading, reading.declared)) =
        Reading.readAll (readings.map fun reading => (reading, reading.declared)) := by
    intro readings
    induction readings with
    | nil => rfl
    | cons reading rest ih =>
        simp only [List.map_cons, Reading.readAll, ih]
        rfl
  rw [loadDeclared, hread, loadDeclared]

namespace Condition

theorem holds_withPath (condition : Condition) (readings : List (Reading Failure.Kind)) :
    condition.holds (readings.map (Reading.withPath [])) = condition.holds readings := by
  have hshows : ∀ (reader : Nat) (type : PhysicalType) (test : Value → Bool),
      shows (readings.map (Reading.withPath [])) reader type test =
        shows readings reader type test := by
    intro reader type test
    rw [shows, shows, List.getElem?_map]
    cases readings[reader]? <;> rfl
  induction condition with
  | always => rfl
  | never => rfl
  | both left right ihleft ihright => rw [holds, holds, ihleft, ihright]
  | either left right ihleft ihright => rw [holds, holds, ihleft, ihright]
  | not condition ih => rw [holds, holds, ih]
  | count readers => rw [holds, holds, List.length_map]
  | isNull reader =>
      rw [holds, holds, List.getElem?_map]
      cases readings[reader]? <;> rfl
  | equals reader value => exact hshows _ _ _
  | precedes reader value => exact hshows _ _ _
  | follows reader value => exact hshows _ _ _
  | startsWith reader bytes =>
      rw [holds, holds, List.getElem?_map]
      cases readings[reader]? <;> rfl
  | fails reader accessor kind =>
      rw [holds, holds, List.getElem?_map]
      cases readings[reader]? <;> rfl
  | loads expected =>
      simp only [holds, snapshotPasses, Snapshot.loadDeclared_withPath]
  | loadsText reader text =>
      simp only [holds, snapshotPasses, Snapshot.loadDeclared_withPath]
  | loadsValue reader value =>
      simp only [holds, snapshotPasses, Snapshot.loadDeclared_withPath]

theorem pathBlind_predicate (condition : Condition) : condition.predicate.PathBlind := by
  intro readings others hsame
  show condition.holds readings = condition.holds others
  rw [← holds_withPath condition readings, hsame, holds_withPath]

end Condition

/-!
## Paths with a name in front
-/

namespace ColumnPath

/-- The text of a path with one more segment in front. -/
def under (delimiter : Char) (name text : String) : String :=
  name ++ delimiter.toString ++ text

theorem parse_under
    {delimiter : Char} {name : String} (hname : delimiter ∉ name.toList) (text : String) :
    parse delimiter (under delimiter name text) = name :: parse delimiter text := by
  have hchars : (under delimiter name text).toList =
      name.toList ++ delimiter :: text.toList := by
    simp [under, String.toList_append]
  rw [parse, hchars, segments_append_delimiter hname, List.map_cons, String.ofList_toList]
  rfl

end ColumnPath

namespace Sieve

/-- The sieve with a name in front of each of its paths. -/
def within (name : String) (sieve : Sieve) : Sieve where
  paths := sieve.paths.map (ColumnPath.under sieve.options.delimiter name)
  predicate := sieve.predicate
  options := sieve.options

variable {sieve : Sieve}

theorem lookup_within
    {options : Options} (hname : options.delimiter ∉ name.toList) (columns : List LeafColumn)
    (text : String) :
    lookup options LeafColumn.path (columns.map (LeafColumn.within name validity))
        (ColumnPath.under options.delimiter name text) =
      (lookup options LeafColumn.path columns text).map (LeafColumn.within name validity) := by
  rw [lookup, lookup, List.find?_map, ColumnPath.parse_under hname]
  congr 2
  funext column
  show ((name :: column.path) == (name :: ColumnPath.parse options.delimiter text)) = _
  simp

theorem resolve_within
    {options : Options} (hname : options.delimiter ∉ name.toList) (columns : List LeafColumn)
    (texts : List String) :
    resolve options LeafColumn.path (columns.map (LeafColumn.within name validity))
        (texts.map (ColumnPath.under options.delimiter name)) =
      match resolve options LeafColumn.path columns texts with
      | .ok found => .ok (found.map (LeafColumn.within name validity))
      | .error text => .error (ColumnPath.under options.delimiter name text) := by
  induction texts with
  | nil => rfl
  | cons text rest ih =>
      rw [List.map_cons, resolve, resolve, lookup_within hname, ih]
      cases lookup options LeafColumn.path columns text with
      | none => rfl
      | some column => cases resolve options LeafColumn.path columns rest <;> rfl

theorem bind_within
    (hname : sieve.options.delimiter ∉ name.toList) (validity : Validity)
    (columns : List LeafColumn) :
    ((sieve.within name).bind LeafColumn.path
        (columns.map (LeafColumn.within name validity))).result =
      match (sieve.bind LeafColumn.path columns).result with
      | .ok bound => .ok (bound.mapReaders (LeafColumn.within name validity))
      | .error (.unresolvedColumn text) =>
          .error (.unresolvedColumn (ColumnPath.under sieve.options.delimiter name text))
      | .error failure => .error failure := by
  have hresolve : resolve (sieve.within name).options LeafColumn.path
        (columns.map (LeafColumn.within name validity)) (sieve.within name).paths =
      match resolve sieve.options LeafColumn.path columns sieve.paths with
      | .ok found => .ok (found.map (LeafColumn.within name validity))
      | .error text => .error (ColumnPath.under sieve.options.delimiter name text) :=
    resolve_within hname columns sieve.paths
  rw [bind, hresolve, bind]
  cases resolve sieve.options LeafColumn.path columns sieve.paths <;> rfl

theorem chosen_of_bind
    {bound : BoundSieve LeafColumn}
    (hbound : (sieve.bind LeafColumn.path batch.leafColumns).result = .ok bound) (row : Nat) :
    sieve.chosen (batch.viewsAt row) = bound.readers.map fun column => column.viewAt row := by
  have hfound := exists_bind_iff.mp ⟨bound, hbound⟩
  rw [result_bind, hfound] at hbound
  cases hbound
  rw [chosen, List.map_filterMap]
  congr 1
  funext text
  rw [Batch.viewsAt, List.find?_map]
  rfl

theorem length_readers_of_bind
    {bound : BoundSieve LeafColumn}
    (hbound : (sieve.bind LeafColumn.path batch.leafColumns).result = .ok bound) :
    bound.readers.length = sieve.paths.length :=
  (resolve_eq_ok_iff.mp (bind_eq_ok_iff.mp hbound).1).length_eq.symm

end Sieve

/-!
## Sifting under a struct
-/

namespace Batch

variable {sieve : Sieve} {bound : BoundSieve LeafColumn}

theorem judged_of_bind
    (hbound : (sieve.bind LeafColumn.path batch.leafColumns).result = .ok bound) :
    (batch.matchMask sieve).result = .ok (batch.viewRows.map sieve.judges) ∧
      (batch.matchMask sieve).shown = batch.viewRows.map sieve.chosen := by
  have hfound : sieve.missing? batch.leafPaths = none := Sieve.exists_bind_iff.mp ⟨bound, hbound⟩
  constructor
  · rw [result_matchMask, hfound]
  · rw [shown_matchMask, hfound]

theorem failed_of_bind {failure : Failure}
    (hfailed : (sieve.bind LeafColumn.path batch.leafColumns).result = .error failure) :
    ∃ text, failure = .unresolvedColumn text ∧ sieve.missing? batch.leafPaths = some text ∧
      (batch.matchMask sieve).result = .error (.unresolvedColumn text) := by
  rw [Sieve.result_bind, ← leafPaths] at hfailed
  cases hmissing : sieve.missing? batch.leafPaths with
  | none =>
      rw [hmissing] at hfailed
      cases hfailed
  | some text =>
      rw [hmissing] at hfailed
      cases hfailed
      exact ⟨text, rfl, rfl, (results_of_missing hmissing).1⟩

theorem getElem?_viewRows {row : Nat} (hrow : row < batch.rows) :
    batch.viewRows[row]? = some (batch.viewsAt row) := by
  simp [viewRows, hrow]

theorem mem_leafColumns_of_bind
    (hbound : (sieve.bind LeafColumn.path batch.leafColumns).result = .ok bound)
    {column : LeafColumn} (hcolumn : column ∈ bound.readers) :
    column ∈ batch.leafColumns := by
  rcases (Sieve.found_of_resolved (Sieve.bind_eq_ok_iff.mp hbound).1).2 column hcolumn with
    ⟨text, _, hfound⟩
  exact (Sieve.path_of_lookup hfound).1

/-- Where the struct is present, a sieve that is blind to paths judges a row as it does without the
struct; where the struct is null, so is all that the predicate is shown. -/
theorem judges_within
    (hformed : batch.WellFormed) (hcovers : validity.Covers batch.rows)
    (hblind : sieve.predicate.PathBlind)
    (hbound : (sieve.bind LeafColumn.path batch.leafColumns).result = .ok bound)
    (hnested : ((sieve.within name).bind LeafColumn.path
      (batch.within name validity).leafColumns).result =
        .ok (bound.mapReaders (LeafColumn.within name validity)))
    {row : Nat} (hrow : row < batch.rows) :
    (validity.holds row = true →
      (sieve.within name).judges ((batch.within name validity).viewsAt row) =
        sieve.judges (batch.viewsAt row)) ∧
    (validity.holds row = false →
      ∀ reading ∈ (sieve.within name).chosen ((batch.within name validity).viewsAt row),
        reading.isNull = true) := by
  have hfits : ∀ column ∈ bound.readers, column.Fits batch.rows := by
    intro column hcolumn
    exact fits_of_mem_leafColumns hformed (mem_leafColumns_of_bind hbound hcolumn)
  have hchosen := Sieve.chosen_of_bind hnested row
  have hreaders : (bound.mapReaders (LeafColumn.within name validity)).readers =
      bound.readers.map (LeafColumn.within name validity) := rfl
  rw [hreaders, List.map_map] at hchosen
  constructor
  · intro hpresent
    rw [Sieve.judges, hchosen, Sieve.judges, Sieve.chosen_of_bind hbound row]
    apply hblind
    rw [List.map_map, List.map_map]
    apply List.map_congr_left
    intro column hcolumn
    exact LeafColumn.withPath_viewAt_within (hfits column hcolumn) hcovers hrow hpresent
  · intro habsent reading hreading
    rw [hchosen] at hreading
    rcases List.mem_map.mp hreading with ⟨column, hcolumn, hview⟩
    rw [← hview]
    exact LeafColumn.isNull_viewAt_within (hfits column hcolumn) hcovers hrow habsent

/-- A sieve with a struct's name in front of its paths finds in a batch under the struct what it
finds without the name in the batch itself.  Either the same requested path is the earliest to be
missing for both, or both are bound to the same columns.  Then the masks agree at the rows where the
struct is present, and all bound columns are null at the others. -/
theorem sift_within
    (hformed : batch.WellFormed) (name : String) (hcovers : validity.Covers batch.rows)
    (sieve : Sieve) (hname : sieve.options.delimiter ∉ name.toList)
    (hblind : sieve.predicate.PathBlind) :
    let nested := batch.within name validity
    let nestedSieve := sieve.within name
    (∃ text,
      sieve.missing? batch.leafPaths = some text ∧
      (sieve.bind LeafColumn.path batch.leafColumns).result = .error (.unresolvedColumn text) ∧
      (nestedSieve.bind LeafColumn.path nested.leafColumns).result =
        .error (.unresolvedColumn (ColumnPath.under sieve.options.delimiter name text)) ∧
      (batch.matchMask sieve).result = .error (.unresolvedColumn text) ∧
      (nested.matchMask nestedSieve).result =
        .error (.unresolvedColumn (ColumnPath.under sieve.options.delimiter name text))) ∨
    (∃ bound mask nestedMask,
      (sieve.bind LeafColumn.path batch.leafColumns).result = .ok bound ∧
      (nestedSieve.bind LeafColumn.path nested.leafColumns).result =
        .ok (bound.mapReaders (.within name validity)) ∧
      (batch.matchMask sieve).result = .ok mask ∧ mask.length = batch.rows ∧
      (nested.matchMask nestedSieve).result = .ok nestedMask ∧ nestedMask.length = batch.rows ∧
      ∀ row, row < batch.rows →
        (validity.holds row = true → nestedMask[row]? = mask[row]?) ∧
        (validity.holds row = false →
          ∃ shown, (nested.matchMask nestedSieve).shown[row]? = some shown ∧
            shown.length = sieve.paths.length ∧ ∀ reading ∈ shown, reading.isNull = true)) := by
  intro nested nestedSieve
  have hbind := Sieve.bind_within hname validity batch.leafColumns
  rw [← leafColumns_within] at hbind
  cases hresult : (sieve.bind LeafColumn.path batch.leafColumns).result with
  | error failure =>
      left
      rcases failed_of_bind hresult with ⟨text, hfailure, hmissing, hmask⟩
      rw [hresult, hfailure] at hbind
      rcases failed_of_bind hbind with ⟨other, hother, _, hnestedMask⟩
      cases hother
      exact ⟨text, hmissing, congrArg Except.error hfailure, hbind, hmask, hnestedMask⟩
  | ok bound =>
      rw [hresult] at hbind
      rcases judged_of_bind hresult with ⟨hmask, _⟩
      rcases judged_of_bind hbind with ⟨hnestedMask, hshown⟩
      right
      refine ⟨bound, _, _, rfl, hbind, hmask, by simp, hnestedMask, by simp; rfl, ?_⟩
      intro row hrow
      rcases judges_within hformed hcovers hblind hresult hbind hrow with ⟨hpresent, habsent⟩
      have hviews : nested.viewRows[row]? = some (nested.viewsAt row) := getElem?_viewRows hrow
      constructor
      · intro hholds
        rw [List.getElem?_map, List.getElem?_map, hviews, getElem?_viewRows hrow, Option.map_some,
          Option.map_some, hpresent hholds]
      · intro hholds
        refine ⟨nestedSieve.chosen (nested.viewsAt row), ?_, ?_, habsent hholds⟩
        · rw [hshown, List.getElem?_map, hviews]
          rfl
        · rw [Sieve.chosen_of_bind hbind, List.length_map, Sieve.length_readers_of_bind hbind]
          exact List.length_map _

/-- The cars are put in a lot, and of the first one nothing is known there.  The others are told
apart as they were without the lot, and a price is missing in the lot as it was before. -/
theorem sift_within_lot :
    let lot : Validity := .ofBits [false, true, true, true]
    let known := Sieve.knownCapacity
    let priced : Sieve := { known with paths := ["model", "price"] }
    let shown := ((cars.within "lot" lot).matchMask (known.within "lot")).shown
    cars.WellFormed ∧ lot.Covers cars.rows ∧ '.' ∉ "lot".toList ∧ known.predicate.PathBlind ∧
    (cars.matchMask known).result = .ok [true, false, false, true] ∧
    (∃ mask, ((cars.within "lot" lot).matchMask (known.within "lot")).result = .ok mask ∧
      mask[1]? = some false ∧ mask[2]? = some false ∧ mask[3]? = some true) ∧
    (∃ readings, shown[0]? = some readings ∧ readings.length = 1 ∧
      ∀ reading ∈ readings, reading.isNull = true) ∧
    (cars.matchMask priced).result = .error (.unresolvedColumn "price") ∧
    ((cars.within "lot" lot).matchMask (priced.within "lot")).result =
      .error (.unresolvedColumn "lot.price") := by
  intro lot known priced shown
  have hformed : cars.WellFormed := by decide
  have hcovers : lot.Covers cars.rows := by decide
  have hname : '.' ∉ "lot".toList := by decide
  have hblind : known.predicate.PathBlind := Condition.pathBlind_predicate _
  have hmask : (cars.matchMask known).result = .ok [true, false, false, true] := by rfl
  have hpriced : (cars.matchMask priced).result = .error (.unresolvedColumn "price") := by rfl
  refine ⟨hformed, hcovers, hname, hblind, hmask, ?_, ?_, hpriced, ?_⟩
  · rcases sift_within hformed "lot" hcovers known hname hblind with
      ⟨text, hmissing, _⟩ | ⟨_, mask, nestedMask, _, _, hfound, _, hnested, _, hrows⟩
    · cases hmissing
    · rw [hmask] at hfound
      cases hfound
      exact ⟨nestedMask, hnested, (hrows 1 (by decide)).1 rfl, (hrows 2 (by decide)).1 rfl,
        (hrows 3 (by decide)).1 rfl⟩
  · rcases sift_within hformed "lot" hcovers known hname hblind with
      ⟨text, hmissing, _⟩ | ⟨_, _, _, _, _, _, _, _, _, hrows⟩
    · cases hmissing
    · exact (hrows 0 (by decide)).2 rfl
  · rcases sift_within hformed "lot" hcovers priced hname hblind with
      ⟨text, hmissing, _, _, _, hnested⟩ | ⟨bound, _, _, hbound, _⟩
    · cases hmissing
      exact hnested
    · cases hbound

end Batch
end RowSieve
