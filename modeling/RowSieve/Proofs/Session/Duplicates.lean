import RowSieve.Proofs.Session.References

/-!
# Columns with cursors of their own

A duplicate of a column starts where the column stands.  From then on each goes its own way: the
duplicate stands where the last move addressed to it put it, and the column it was made from is
where it would be had the duplicate never been moved.
-/

namespace RowSieve

/-!
## What lasts of a reader
-/

namespace Reader

theorem path_of_lasting {reader other : Reader} (hlasting : reader.lasting = other.lasting) :
    reader.path = other.path := by
  cases other with
  | leaf column row =>
      rcases leaf_of_lasting hlasting with ⟨_, hleaf⟩
      rw [hleaf]
      rfl
  | settable path declared current =>
      rcases settable_of_lasting hlasting with ⟨_, hsettable⟩
      rw [hsettable]
      rfl

/-- The column and the row at which it stands, if the reader has a cursor. -/
def standing? : Reader → Option (LeafColumn × Nat)
  | .leaf column row => some (column, row)
  | .settable _ _ _ => none

end Reader

namespace Shelf

theorem lasting_seek (handles : List Handle) (row : Nat) (shelf : Shelf) :
    (shelf.seek handles row).map Reader.lasting = shelf.map Reader.lasting := by
  apply List.ext_getElem?
  intro handle
  rw [List.getElem?_map, List.getElem?_map, getElem?_seek, Option.map_map]
  congr 1
  funext reader
  by_cases hmem : handle ∈ handles
  · simp [hmem, Reader.lasting_seek]
  · simp [hmem]

theorem lasting_set (handle : Handle) (value : Value) (shelf : Shelf) :
    (shelf.set handle value).map Reader.lasting = shelf.map Reader.lasting := by
  apply List.ext_getElem?
  intro other
  rw [List.getElem?_map, List.getElem?_map, getElem?_set, Option.map_map]
  congr 1
  funext reader
  by_cases hsame : handle = other
  · simp [hsame, Reader.lasting_set]
  · simp [hsame]

theorem linkedPath_of_lasting {shelf other : Shelf}
    (hlasting : shelf.map Reader.lasting = other.map Reader.lasting) (link : Link) :
    shelf.linkedPath link = other.linkedPath link := by
  have hplace := congrArg (fun all : List _ => all[link.handle]?) hlasting
  simp only [List.getElem?_map] at hplace
  rw [linkedPath_eq, linkedPath_eq, pathOf, pathOf]
  cases hreader : shelf[link.handle]? with
  | none =>
      rw [hreader, Option.map_none, eq_comm, Option.map_eq_none_iff] at hplace
      rw [hplace]
  | some reader =>
      rw [hreader, Option.map_some, eq_comm, Option.map_eq_some_iff] at hplace
      rcases hplace with ⟨rival, hrival, hsame⟩
      rw [hrival]
      exact (Reader.path_of_lasting hsame).symm

end Shelf

namespace Step

/-- The row at which a step puts the column at a place of a source, if it moves that one. -/
def puts? (source place : Nat) : Step → Option Nat
  | .seek moved row none => if moved = source then some row else none
  | .seek moved row (some reader) => if moved = source ∧ reader = place then some row else none
  | _ => none

/-- The step is a move of cursors of the source. -/
def seeks (source : Nat) : Step → Bool
  | .seek moved _ _ => moved == source
  | _ => false

end Step

namespace Session

/-- The place on the shelf of a column that a source made itself. -/
def own? (session : Session) (source place : Nat) : Option Handle :=
  session.sources[source]?.bind fun found => found.ownColumns[place]?

/-- A column that a source made itself, and the row at which it stands. -/
def column? (session : Session) (source place : Nat) : Option (LeafColumn × Nat) :=
  (session.own? source place).bind fun handle => session.shelf[handle]?.bind Reader.standing?

/-- The row of the last step that moves the column, or `start` if none does. -/
def lastPut (source place start : Nat) (steps : List Step) : Nat :=
  (steps.filterMap (Step.puts? source place)).getLast?.getD start

variable {session before after : Session} {source place : Nat} {handle : Handle}

theorem column?_eq_some_iff {column : LeafColumn} {row : Nat} :
    session.column? source place = some (column, row) ↔
      ∃ handle, session.own? source place = some handle ∧
        session.shelf[handle]? = some (.leaf column row) := by
  constructor
  · intro hcolumn
    rcases Option.bind_eq_some_iff.mp hcolumn with ⟨handle, hown, hstands⟩
    rcases Option.bind_eq_some_iff.mp hstands with ⟨reader, hreader, hstanding⟩
    cases reader with
    | leaf _ _ =>
        cases hstanding
        exact ⟨handle, hown, hreader⟩
    | settable _ _ _ => cases hstanding
  · intro hcolumn
    rcases hcolumn with ⟨handle, hown, hreader⟩
    rw [column?, hown, Option.bind_some, hreader]
    rfl

theorem own_of_ownColumns {found : Source} (hmem : handle ∈ found.ownColumns) :
    handle ∈ found.own := by
  rcases found with ⟨links, origin⟩
  cases origin with
  | batch _ => exact hmem
  | columns => exact hmem
  | settable => cases hmem
  | shared => cases hmem

theorem getElem?_handles_of_ownColumns {found : Source}
    (hplace : found.ownColumns[place]? = some handle) :
    found.handles[place]? = some handle := by
  rcases found with ⟨links, origin⟩
  cases origin with
  | batch _ => exact hplace
  | columns => exact hplace
  | settable => cases hplace
  | shared => cases hplace

theorem reading?_of_column? {column : LeafColumn} {row : Nat}
    (hcolumn : session.column? source place = some (column, row)) :
    session.reading? source place = some (column.readingAt row) := by
  rcases column?_eq_some_iff.mp hcolumn with ⟨handle, hown, hreader⟩
  rcases Option.bind_eq_some_iff.mp hown with ⟨found, hsource, hplace⟩
  have hend : session.end? (source, place) = some handle := by
    rw [end?, hsource, Option.bind_some, ← List.getElem?_map]
    exact getElem?_handles_of_ownColumns hplace
  rw [reading?_eq, hend, Option.bind_some, hreader]
  rfl

theorem own?_of_extends (hextends : before.Extends after)
    (hown : before.own? source place = some handle) :
    after.own? source place = some handle := by
  rcases Option.bind_eq_some_iff.mp hown with ⟨found, hsource, hplace⟩
  exact Option.bind_eq_some_iff.mpr
    ⟨found, getElem?_of_grown hextends.sources hsource, hplace⟩

/-!
## Moves and whom they are addressed to

A move that is addressed to a column puts it at the row of the move, and a column has one address.
-/

/-- A column is at one place of one source only. -/
theorem own?_inj (hsound : session.Sound) {other rival : Nat}
    (hown : session.own? source place = some handle)
    (hrival : session.own? other rival = some handle) :
    other = source ∧ rival = place := by
  rcases Option.bind_eq_some_iff.mp hown with ⟨found, hsource, hplace⟩
  rcases Option.bind_eq_some_iff.mp hrival with ⟨owner, hother, hat⟩
  have hsame : other = source := source_eq_of_own hsound hother hsource
    (own_of_ownColumns (List.mem_of_getElem? hat)) (own_of_ownColumns (List.mem_of_getElem? hplace))
  refine ⟨hsame, ?_⟩
  have howner : owner = found := by
    rw [hsame, hsource] at hother
    exact (Option.some.inj hother).symm
  have hnodup : found.own.Nodup :=
    (List.nodup_flatMap.mp (nodup_owners hsound)).1 found (List.mem_of_getElem? hsource)
  have hcolumns : found.ownColumns.Nodup := by
    rcases found with ⟨links, origin⟩
    cases origin with
    | batch _ => exact hnodup
    | columns => exact hnodup
    | settable => exact List.nodup_nil
    | shared => exact List.nodup_nil
  rw [howner] at hat
  exact (List.getElem?_inj (List.getElem?_eq_some_iff.mp hat).1 hcolumns).mp
    (hat.trans hplace.symm)

theorem own?_of_addressed {moved : Nat} {reader : Option Nat} {handles : List Handle}
    (haddressed : session.addressed moved reader = some handles) (hmem : handle ∈ handles) :
    ∃ rival, session.own? moved rival = some handle ∧ (reader = none ∨ reader = some rival) := by
  rcases Option.bind_eq_some_iff.mp haddressed with ⟨owner, hmoved, hhandles⟩
  cases reader with
  | none =>
      cases hhandles
      rcases List.mem_iff_getElem?.mp hmem with ⟨rival, hrival⟩
      exact ⟨rival, Option.bind_eq_some_iff.mpr ⟨owner, hmoved, hrival⟩, .inl rfl⟩
  | some rival =>
      rcases Option.map_eq_some_iff.mp hhandles with ⟨only, honly, hsingle⟩
      rw [← hsingle] at hmem
      rw [List.mem_singleton.mp hmem]
      exact ⟨rival, Option.bind_eq_some_iff.mpr ⟨owner, hmoved, honly⟩, .inr rfl⟩

theorem puts?_of_addressed (hsound : session.Sound)
    (hown : session.own? source place = some handle) {moved row : Nat} {reader : Option Nat}
    {handles : List Handle} (haddressed : session.addressed moved reader = some handles)
    (hmem : handle ∈ handles) :
    (Step.seek moved row reader).puts? source place = some row := by
  rcases own?_of_addressed haddressed hmem with ⟨rival, hrival, hreader⟩
  rcases own?_inj hsound hown hrival with ⟨hmoved, hsame⟩
  rcases hreader with hreader | hreader
  · rw [hmoved, hreader]
    exact if_pos rfl
  · rw [hmoved, hreader, hsame]
    exact if_pos ⟨rfl, rfl⟩

theorem addressed_of_puts? (hown : session.own? source place = some handle)
    {moved row put : Nat} {reader : Option Nat}
    (hputs : (Step.seek moved row reader).puts? source place = some put) :
    ∃ handles, session.addressed moved reader = some handles ∧ handle ∈ handles := by
  rcases Option.bind_eq_some_iff.mp hown with ⟨found, hsource, hplace⟩
  cases reader with
  | none =>
      rcases Option.ite_none_right_eq_some.mp hputs with ⟨hmoved, _⟩
      refine ⟨found.ownColumns, ?_, List.mem_of_getElem? hplace⟩
      rw [addressed, hmoved, hsource]
      rfl
  | some rival =>
      rcases Option.ite_none_right_eq_some.mp hputs with ⟨⟨hmoved, hsame⟩, _⟩
      refine ⟨[handle], ?_, List.mem_singleton_self handle⟩
      rw [addressed, hmoved, hsource, hsame, Option.bind_some]
      simp only [hplace, Option.map_some]

theorem puts?_eq_none (hown : session.own? source place = some handle) {moved row : Nat}
    {reader : Option Nat}
    (hfree : ∀ handles, session.addressed moved reader = some handles → handle ∉ handles) :
    (Step.seek moved row reader).puts? source place = none := by
  apply Option.eq_none_iff_forall_not_mem.mpr
  intro put hputs
  rcases addressed_of_puts? hown hputs with ⟨handles, haddressed, hmem⟩
  exact hfree handles haddressed hmem

theorem free_of_batch (hsound : session.Sound) {found owner : Source} {judged : Nat} {batch : Batch}
    (hsource : session.sources[source]? = some found) (horigin : found.origin = .columns)
    (hown : session.own? source place = some handle)
    (hjudged : session.sources[judged]? = some owner) (hbatch : owner.batch? = some batch) :
    handle ∉ owner.handles := by
  rcases ownColumns_of_batch? hbatch with ⟨howner, hhandles⟩
  rcases Option.bind_eq_some_iff.mp hown with ⟨given, hgiven, hplace⟩
  intro hmem
  rw [← hhandles] at hmem
  have hsame := source_eq_of_own hsound hjudged hgiven (own_of_ownColumns hmem)
    (own_of_ownColumns (List.mem_of_getElem? hplace))
  rw [hsame, hsource] at hjudged
  cases hjudged
  rw [horigin] at howner
  cases howner

/-!
## Where a duplicate stands
-/

/-- A source of columns that belong to no batch is moved by seeks only, and each puts a column
where it says. -/
theorem column?_step (hsound : session.Sound) {found : Source}
    (hsource : session.sources[source]? = some found) (horigin : found.origin = .columns)
    {column : LeafColumn} {row : Nat}
    (hcolumn : session.column? source place = some (column, row)) (step : Step) :
    (session.step step).result.1.column? source place =
      some (column, (step.puts? source place).getD row) := by
  rcases column?_eq_some_iff.mp hcolumn with ⟨handle, hown, hreader⟩
  refine column?_eq_some_iff.mpr ⟨handle, own?_of_extends (extends_step session step) hown, ?_⟩
  have hinside := (List.getElem?_eq_some_iff.mp hreader).1
  cases step with
  | seek moved put reader =>
      rw [step_seek]
      cases haddressed : session.addressed moved reader with
      | none =>
          rw [puts?_eq_none hown (by simp [haddressed])]
          exact hreader
      | some handles =>
          show (session.shelf.seek handles put)[handle]? = _
          rw [Shelf.getElem?_seek, hreader, Option.map_some]
          by_cases hmem : handle ∈ handles
          · rw [if_pos hmem, puts?_of_addressed hsound hown haddressed hmem]
            rfl
          · rw [if_neg hmem, puts?_eq_none hown (by simpa [haddressed] using hmem)]
            rfl
  | set changed reader value =>
      rw [step_set]
      cases session.settable? changed reader with
      | none => exact hreader
      | some target =>
          show (session.shelf.set target value)[handle]? = _
          rw [Shelf.getElem?_set, hreader, Option.map_some]
          split <;> rfl
  | evaluate judged bound =>
      rw [step_evaluate]
      cases hevaluable : session.evaluable? judged bound with
      | none => exact hreader
      | some parts =>
          rcases parts with ⟨owner, batch, counted⟩
          rcases evaluable?_eq_some hevaluable with ⟨hjudged, hbatch, _⟩
          -- an evaluation moves columns of a batch, and this one belongs to none
          have hfree := free_of_batch hsound hsource horigin hown hjudged hbatch
          show (counted.content.behindLinks.evaluate owner.handles batch.rows
            session.shelf).result.2[handle]? = _
          rw [BoundSieve.final_evaluate]
          split
          · exact hreader
          · rw [Shelf.getElem?_seek, hreader, Option.map_some, if_neg hfree]
            rfl
  | _ =>
      rw [getElem?_shelf_of_effect (effect_step session _) id hinside]
      exact hreader

theorem column?_run (hsound : session.Sound) {found : Source}
    (hsource : session.sources[source]? = some found) (horigin : found.origin = .columns)
    {column : LeafColumn} {row : Nat}
    (hcolumn : session.column? source place = some (column, row)) (steps : List Step) :
    (session.run steps).column? source place =
      some (column, lastPut source place row steps) := by
  induction steps generalizing session row with
  | nil => exact hcolumn
  | cons step rest ih =>
      have hextends := extends_step session step
      have hlater := column?_step hsound hsource horigin hcolumn step
      rw [run, ih (sound_step hsound step) (getElem?_of_grown hextends.sources hsource) hlater,
        lastPut, lastPut]
      cases hputs : step.puts? source place with
      | none =>
          rw [List.filterMap_cons_none hputs]
          rfl
      | some put =>
          rw [List.filterMap_cons_some hputs, List.getLast?_cons]
          rfl

/-- The first column of source 1 was last put at row 2: the moves that follow are addressed to
another source or to another column. -/
example :
    lastPut 1 0 4 [.seek 1 2 none, .seek 0 7 none, .nulls 1, .seek 1 3 (some 1)] = 2 := by
  rfl

theorem getElem?_filterMap_of_isSome {α β : Type} {f : α → Option β} {items : List α}
    (hitems : ∀ item ∈ items, (f item).isSome) (index : Nat) :
    (items.filterMap f)[index]? = items[index]?.bind f := by
  induction items generalizing index with
  | nil => rfl
  | cons item rest ih =>
      rcases Option.isSome_iff_exists.mp (hitems item List.mem_cons_self) with ⟨made, hmade⟩
      rw [List.filterMap_cons_some hmade]
      cases index with
      | zero => exact hmade.symm
      | succ index =>
          exact ih (fun other hother => hitems other (List.mem_cons_of_mem item hother)) index

theorem session_duplicate {found : Source} (hsource : session.sources[source]? = some found) :
    (session.step (.duplicate source)).result.1 =
      session.addReaders (found.ownColumns.filterMap fun handle => session.shelf[handle]?)
        .columns := by
  show (session.duplicate source).result.1 = _
  rw [duplicate, hsource]
  rfl

theorem getElem?_copies (hsound : session.Sound) {found : Source}
    (hsource : session.sources[source]? = some found) (place : Nat) :
    (found.ownColumns.filterMap fun handle => session.shelf[handle]?)[place]? =
      found.ownColumns[place]?.bind fun handle => session.shelf[handle]? := by
  apply getElem?_filterMap_of_isSome
  intro handle hmem
  have hfits := hsound.fits found (List.mem_of_getElem? hsource)
  rcases Source.exists_leaf_of_mem hfits hmem with ⟨column, row, hreader⟩
  rw [hreader]
  rfl

theorem sources_duplicate {found : Source} (hsource : session.sources[source]? = some found) :
    ∃ links, (session.step (.duplicate source)).result.1.sources[session.sources.length]? =
      some ⟨links, .columns⟩ := by
  rw [session_duplicate hsource]
  exact ⟨_, List.getElem?_concat_length⟩

theorem column?_duplicate (hsound : session.Sound) {found : Source}
    (hsource : session.sources[source]? = some found) (place : Nat) :
    (session.step (.duplicate source)).result.1.column? session.sources.length place =
      session.column? source place := by
  have hcopies := getElem?_copies hsound hsource place
  rw [session_duplicate hsource]
  generalize (found.ownColumns.filterMap fun handle => session.shelf[handle]?) = copies at hcopies
  have hmade : (session.addReaders copies .columns).own? session.sources.length place =
      (session.shelf.nextHandles copies.length)[place]? := by
    show ((session.sources ++ [_])[session.sources.length]?.bind _) = _
    rw [List.getElem?_concat_length, Option.bind_some]
    exact congrArg (fun handles : List Handle => handles[place]?)
      (handles_nextHandles session.shelf copies.length)
  have hgiven : session.column? source place = copies[place]?.bind Reader.standing? := by
    rw [hcopies, column?, own?, hsource, Option.bind_some, Option.bind_assoc]
  rw [column?, hmade, hgiven]
  rcases Nat.lt_or_ge place copies.length with hplace | hplace
  · rcases getElem?_append_nextHandles session.shelf copies hplace with ⟨hhandle, hreader⟩
    rw [hhandle, Option.bind_some]
    exact congrArg (fun reader : Option Reader => reader.bind Reader.standing?) hreader
  · have hnone : (session.shelf.nextHandles copies.length)[place]? = none := by
      apply List.getElem?_eq_none
      rwa [Shelf.nextHandles, List.length_map, List.length_range]
    rw [hnone, List.getElem?_eq_none hplace]
    rfl

end Session
end RowSieve
