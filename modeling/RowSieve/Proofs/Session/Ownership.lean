import RowSieve.Proofs.Session.Effect
import RowSieve.Proofs.Sieve.Binding

/-!
# Whose readers are on the shelf

In every session that can come about, each reader on the shelf was made for exactly one source, and
it is of the kind that this source has: a leaf column or a reader that is set from outside.  All
links lead to readers on the shelf.  A step puts readers on the shelf only behind the others, and of
those that are there it changes at most where they stand or what value they hold.
-/

namespace RowSieve

/-!
## Readers that stay what they are
-/

namespace Reader

/-- What never changes of a reader: the column, or the path and the type of a reader that is set
from outside. -/
def lasting : Reader → LeafColumn ⊕ (ColumnPath × PhysicalType)
  | .leaf column _ => .inl column
  | .settable path declared _ => .inr (path, declared)

theorem lasting_seek (row : Nat) (reader : Reader) :
    (reader.seek row).lasting = reader.lasting := by
  cases reader <;> rfl

theorem lasting_set (value : Value) (reader : Reader) :
    (reader.set value).lasting = reader.lasting := by
  cases reader <;> rfl

theorem leaf_of_lasting {reader : Reader} {column : LeafColumn}
    (hlasting : reader.lasting = .inl column) :
    ∃ row, reader = .leaf column row := by
  cases reader with
  | leaf other row =>
      cases hlasting
      exact ⟨row, rfl⟩
  | settable path declared current => cases hlasting

theorem settable_of_lasting {reader : Reader} {path : ColumnPath} {declared : PhysicalType}
    (hlasting : reader.lasting = .inr (path, declared)) :
    ∃ current, reader = .settable path declared current := by
  cases reader with
  | leaf column row => cases hlasting
  | settable _ _ current =>
      cases hlasting
      exact ⟨current, rfl⟩

end Reader

namespace Shelf

/-- Every reader is still in its place, perhaps at another row or with another current value. -/
def Keeps (before after : Shelf) : Prop :=
  ∀ (handle : Handle) (reader : Reader), before[handle]? = some reader →
    ∃ later, after[handle]? = some later ∧ later.lasting = reader.lasting

theorem keeps_refl (shelf : Shelf) : shelf.Keeps shelf :=
  fun _ reader hreader => ⟨reader, hreader, rfl⟩

theorem keeps_append (shelf : Shelf) (readers : List Reader) : shelf.Keeps (shelf ++ readers) := by
  intro handle reader hreader
  refine ⟨reader, ?_, rfl⟩
  rw [List.getElem?_append_left (List.getElem?_eq_some_iff.mp hreader).1]
  exact hreader

theorem keeps_seek (handles : List Handle) (row : Nat) (shelf : Shelf) :
    shelf.Keeps (shelf.seek handles row) := by
  intro handle reader hreader
  rw [getElem?_seek, hreader, Option.map_some]
  refine ⟨_, rfl, ?_⟩
  split
  · exact reader.lasting_seek row
  · rfl

theorem keeps_set (handle : Handle) (value : Value) (shelf : Shelf) :
    shelf.Keeps (shelf.set handle value) := by
  intro other reader hreader
  rw [getElem?_set, hreader, Option.map_some]
  refine ⟨_, rfl, ?_⟩
  split
  · exact reader.lasting_set value
  · rfl

theorem keeps_evaluate (bound : BoundSieve Handle) (own : List Handle) (rows : Nat)
    (shelf : Shelf) :
    shelf.Keeps (bound.evaluate own rows shelf).result.2 := by
  rw [bound.final_evaluate own rows shelf]
  split
  · exact keeps_refl shelf
  · exact keeps_seek own (rows - 1) shelf

theorem length_evaluate (bound : BoundSieve Handle) (own : List Handle) (rows : Nat)
    (shelf : Shelf) :
    (bound.evaluate own rows shelf).result.2.length = shelf.length := by
  rw [bound.final_evaluate own rows shelf]
  split
  · rfl
  · exact length_seek own (rows - 1) shelf

@[simp] theorem length_set (handle : Handle) (value : Value) (shelf : Shelf) :
    (shelf.set handle value).length = shelf.length :=
  List.length_modify ..

variable {before after : Shelf}

theorem Keeps.trans {middle : Shelf} (hfirst : before.Keeps middle)
    (hsecond : middle.Keeps after) :
    before.Keeps after := by
  intro handle reader hreader
  rcases hfirst handle reader hreader with ⟨later, hlater, hlasting⟩
  rcases hsecond handle later hlater with ⟨last, hlast, hlastingLast⟩
  exact ⟨last, hlast, hlastingLast.trans hlasting⟩

theorem Keeps.leaf (hkeeps : before.Keeps after) {handle : Handle} {column : LeafColumn} {row : Nat}
    (hreader : before[handle]? = some (.leaf column row)) :
    ∃ other, after[handle]? = some (.leaf column other) := by
  rcases hkeeps handle _ hreader with ⟨later, hlater, hlasting⟩
  rcases Reader.leaf_of_lasting hlasting with ⟨other, hleaf⟩
  exact ⟨other, hleaf ▸ hlater⟩

theorem Keeps.settable (hkeeps : before.Keeps after) {handle : Handle} {path : ColumnPath}
    {declared : PhysicalType} {current : Value}
    (hreader : before[handle]? = some (.settable path declared current)) :
    ∃ other, after[handle]? = some (.settable path declared other) := by
  rcases hkeeps handle _ hreader with ⟨later, hlater, hlasting⟩
  rcases Reader.settable_of_lasting hlasting with ⟨other, hsettable⟩
  exact ⟨other, hsettable ▸ hlater⟩

theorem Keeps.holds (hkeeps : before.Keeps after) {own : List Handle} {columns : List LeafColumn}
    (hholds : before.Holds own columns) :
    after.Holds own columns :=
  hholds.imp fun _ _ hreader => hreader.elim fun _ hreader => hkeeps.leaf hreader

end Shelf

/-!
## Sources and their readers
-/

namespace Source

/-- The readers of the source are of the kind that its origin says. -/
def Fits (shelf : Shelf) (source : Source) : Prop :=
  match source.origin with
  | .batch batch => shelf.Holds source.handles batch.leafColumns
  | .columns => ∀ handle ∈ source.handles, ∃ column row,
      shelf[handle]? = some (.leaf column row) ∧ column.Made
  | .settable => ∀ handle ∈ source.handles, ∃ path declared current,
      shelf[handle]? = some (.settable path declared current)
  | .shared => True

variable {source : Source} {shelf : Shelf}

theorem fits_of_keeps {after : Shelf} (hkeeps : shelf.Keeps after) (hfits : source.Fits shelf) :
    source.Fits after := by
  rcases source with ⟨links, origin⟩
  cases origin with
  | batch batch => exact hkeeps.holds hfits
  | columns =>
      intro handle hhandle
      rcases hfits handle hhandle with ⟨column, row, hreader, hmade⟩
      rcases hkeeps.leaf hreader with ⟨later, hlater⟩
      exact ⟨column, later, hlater, hmade⟩
  | settable =>
      intro handle hhandle
      rcases hfits handle hhandle with ⟨path, declared, current, hreader⟩
      exact ⟨path, declared, hkeeps.settable hreader⟩
  | shared => trivial

theorem exists_made_of_mem (hfits : source.Fits shelf) {handle : Handle}
    (hmem : handle ∈ source.ownColumns) :
    ∃ column row, shelf[handle]? = some (.leaf column row) ∧ column.Made := by
  rcases source with ⟨links, origin⟩
  cases origin with
  | batch batch =>
      rcases Shelf.exists_column_of_mem hfits hmem with ⟨column, row, hreader, hcolumn⟩
      exact ⟨column, row, hreader, .ofBatch hcolumn⟩
  | columns => exact hfits handle hmem
  | settable => cases hmem
  | shared => cases hmem

theorem exists_leaf_of_mem (hfits : source.Fits shelf) {handle : Handle}
    (hmem : handle ∈ source.ownColumns) :
    ∃ column row, shelf[handle]? = some (.leaf column row) := by
  rcases exists_made_of_mem hfits hmem with ⟨column, row, hreader, _⟩
  exact ⟨column, row, hreader⟩

theorem exists_settable_of_mem (hfits : source.Fits shelf) {handle : Handle}
    (hmem : handle ∈ source.ownSettables) :
    ∃ path declared current, shelf[handle]? = some (.settable path declared current) := by
  rcases source with ⟨links, origin⟩
  cases origin with
  | settable => exact hfits handle hmem
  | batch batch => cases hmem
  | columns => cases hmem
  | shared => cases hmem

end Source

namespace Session

/-- What holds of every session that can come about. -/
structure Sound (session : Session) : Prop where
  owners : session.sources.flatMap Source.own = List.range session.shelf.length
  fits : ∀ source ∈ session.sources, source.Fits session.shelf
  inside : ∀ source ∈ session.sources, ∀ link ∈ source.links,
    link.handle < session.shelf.length
  bounds_inside : ∀ counted ∈ session.bounds, ∀ link ∈ counted.content.readers,
    link.handle < session.shelf.length

variable {session before after : Session}

/-!
## What steps make of it

New readers get the handles behind the old ones, in their order, and new links lead where old ones
lead.
-/

theorem sound_of_keeps (hsound : before.Sound) (hsources : after.sources = before.sources)
    (hbounds : after.bounds = before.bounds) (hkeeps : before.shelf.Keeps after.shelf)
    (hlength : after.shelf.length = before.shelf.length) :
    after.Sound where
  owners := by rw [hsources, hlength, hsound.owners]
  fits := by
    rw [hsources]
    intro source hsource
    exact Source.fits_of_keeps hkeeps (hsound.fits source hsource)
  inside := by
    rw [hsources, hlength]
    exact hsound.inside
  bounds_inside := by
    rw [hbounds, hlength]
    exact hsound.bounds_inside

theorem handles_nextHandles (shelf : Shelf) (added : Nat) :
    ((shelf.nextHandles added).map Link.direct).map Link.handle = shelf.nextHandles added := by
  rw [List.map_map]
  exact List.map_id _

theorem range_append_nextHandles (shelf : Shelf) (readers : List Reader) :
    List.range shelf.length ++ shelf.nextHandles readers.length =
      List.range (shelf ++ readers).length := by
  rw [List.length_append, List.range_add]
  rfl

theorem getElem?_append_nextHandles (shelf : Shelf) (readers : List Reader) {place : Nat}
    (hplace : place < readers.length) :
    (shelf.nextHandles readers.length)[place]? = some (shelf.length + place) ∧
      (shelf ++ readers)[shelf.length + place]? = readers[place]? := by
  constructor
  · simp [Shelf.nextHandles, hplace]
  · rw [List.getElem?_append_right (Nat.le_add_right _ _), Nat.add_sub_cancel_left]

theorem mem_nextHandles {shelf : Shelf} {readers : List Reader} {handle : Handle}
    (hmem : handle ∈ shelf.nextHandles readers.length) :
    ∃ reader ∈ readers, (shelf ++ readers)[handle]? = some reader := by
  rcases List.mem_map.mp hmem with ⟨place, hplace, hhandle⟩
  have hbound := List.mem_range.mp hplace
  refine ⟨readers[place], List.getElem_mem hbound, ?_⟩
  rw [← hhandle, (getElem?_append_nextHandles shelf readers hbound).2]
  exact List.getElem?_eq_getElem hbound

theorem holds_added (shelf : Shelf) {readers : List Reader} {columns : List LeafColumn}
    (hreaders : List.Forall₂ (fun reader column => ∃ cursor, reader = .leaf column cursor)
      readers columns) :
    Shelf.Holds (shelf.nextHandles readers.length) columns (shelf ++ readers) := by
  rcases List.forall₂_iff_get.mp hreaders with ⟨hlength, hcolumns⟩
  refine List.forall₂_iff_get.mpr ⟨by simp [Shelf.nextHandles, hlength], ?_⟩
  intro place hplace hcolumn
  have hbound : place < readers.length := hlength ▸ hcolumn
  rcases getElem?_append_nextHandles shelf readers hbound with ⟨hhandle, hreader⟩
  have hget : (shelf.nextHandles readers.length).get ⟨place, hplace⟩ = shelf.length + place :=
    (List.getElem?_eq_some_iff.mp hhandle).2
  rcases hcolumns place hbound hcolumn with ⟨cursor, hleaf⟩
  refine ⟨cursor, ?_⟩
  rw [hget, hreader, List.getElem?_eq_getElem hbound]
  exact congrArg some hleaf

theorem holds_opened (shelf : Shelf) (columns : List LeafColumn) :
    Shelf.Holds (shelf.nextHandles (Shelf.ofColumns columns).length) columns
      (shelf ++ Shelf.ofColumns columns) :=
  holds_added shelf (Shelf.forall₂_ofColumns columns)

theorem fits_opened {shelf : Shelf} {readers : List Reader} {origin : Origin}
    (hopens : origin.Opens readers) :
    Source.Fits (shelf ++ readers) ⟨(shelf.nextHandles readers.length).map .direct, origin⟩ := by
  have hhandles := handles_nextHandles shelf readers.length
  cases origin with
  | batch batch =>
      cases hopens
      show Shelf.Holds (((shelf.nextHandles _).map Link.direct).map Link.handle) _ _
      rw [hhandles]
      exact holds_opened shelf batch.leafColumns
  | columns =>
      intro handle hhandle
      rw [Source.handles, hhandles] at hhandle
      rcases mem_nextHandles hhandle with ⟨reader, hreader, hfound⟩
      rcases hopens reader hreader with ⟨column, row, hleaf, hmade⟩
      exact ⟨column, row, hleaf ▸ hfound, hmade⟩
  | settable =>
      intro handle hhandle
      rw [Source.handles, hhandles] at hhandle
      rcases mem_nextHandles hhandle with ⟨reader, hreader, hfound⟩
      rcases hopens reader hreader with ⟨path, declared, current, hmade⟩
      exact ⟨path, declared, current, hmade ▸ hfound⟩
  | shared => cases hopens

theorem sound_empty : empty.Sound where
  owners := rfl
  fits := nofun
  inside := nofun
  bounds_inside := nofun

theorem sound_addReaders (hsound : session.Sound) {readers : List Reader} {origin : Origin}
    (hopens : origin.Opens readers) :
    (session.addReaders readers origin).Sound := by
  have hgrown : session.shelf.length ≤ (session.shelf ++ readers).length := by simp
  have hhandles := handles_nextHandles session.shelf readers.length
  constructor
  · -- the new source owns what is put behind the others, and nothing else
    have hown : Source.own ⟨(session.shelf.nextHandles readers.length).map .direct, origin⟩ =
        session.shelf.nextHandles readers.length := by
      cases origin with
      | shared => cases hopens
      | _ => exact hhandles
    show (session.sources ++ [_]).flatMap Source.own = List.range (session.shelf ++ readers).length
    rw [List.flatMap_append, hsound.owners, List.flatMap_singleton, hown, range_append_nextHandles]
  · intro source hsource
    rcases List.mem_append.mp hsource with hold | hnew
    · have hkeeps := Shelf.keeps_append session.shelf readers
      exact Source.fits_of_keeps hkeeps (hsound.fits source hold)
    · rw [List.mem_singleton.mp hnew]
      exact fits_opened hopens
  · intro source hsource link hlink
    rcases List.mem_append.mp hsource with hold | hnew
    · exact Nat.lt_of_lt_of_le (hsound.inside source hold link hlink) hgrown
    · rw [List.mem_singleton.mp hnew] at hlink
      have hmem := List.mem_map_of_mem (f := Link.handle) hlink
      rw [hhandles] at hmem
      rcases mem_nextHandles hmem with ⟨reader, _, hreader⟩
      exact (List.getElem?_eq_some_iff.mp hreader).1
  · intro counted hcounted link hlink
    exact Nat.lt_of_lt_of_le (hsound.bounds_inside counted hcounted link hlink) hgrown

theorem sound_addShared (hsound : session.Sound) {links : List Link}
    (hlinks : ∀ link ∈ links, link.handle < session.shelf.length) :
    (session.addShared links).Sound := by
  constructor
  · show (session.sources ++ [_]).flatMap Source.own = List.range session.shelf.length
    rw [List.flatMap_append, hsound.owners]
    exact List.append_nil _
  · intro source hsource
    rcases List.mem_append.mp hsource with hold | hnew
    · exact hsound.fits source hold
    · rw [List.mem_singleton.mp hnew]
      trivial
  · intro source hsource
    rcases List.mem_append.mp hsource with hold | hnew
    · exact hsound.inside source hold
    · rw [List.mem_singleton.mp hnew]
      exact hlinks
  · exact hsound.bounds_inside

theorem sound_addBound (hsound : session.Sound) {bound : BoundSieve Link} (counter : Nat)
    (hlinks : ∀ link ∈ bound.readers, link.handle < session.shelf.length) :
    (session.addBound bound counter).Sound where
  owners := hsound.owners
  fits := hsound.fits
  inside := hsound.inside
  bounds_inside := by
    intro counted hcounted
    rcases List.mem_append.mp hcounted with hold | hnew
    · exact hsound.bounds_inside counted hold
    · rw [List.mem_singleton.mp hnew]
      exact hlinks

theorem picked_of_pickLinks {readers : List (Nat × Nat)} {links : List Link}
    (hlinks : session.pickLinks readers = some links) :
    List.Forall₂
      (fun reader link =>
        (session.sources[reader.1]?.bind fun found => found.links[reader.2]?) = some link)
      readers links := by
  induction readers generalizing links with
  | nil =>
      cases hlinks
      exact .nil
  | cons reader rest ih =>
      rw [pickLinks] at hlinks
      cases hfound : session.sources[reader.1]?.bind fun found => found.links[reader.2]? with
      | none =>
          rw [hfound] at hlinks
          cases hlinks
      | some link =>
          rw [hfound] at hlinks
          rcases Option.map_eq_some_iff.mp hlinks with ⟨others, hothers, hcons⟩
          rw [← hcons]
          exact .cons hfound (ih hothers)

theorem inside_of_lookup (hsound : session.Sound) {source place : Nat} {link : Link}
    (hlink : (session.sources[source]?.bind fun found => found.links[place]?) = some link) :
    link.handle < session.shelf.length := by
  rcases Option.bind_eq_some_iff.mp hlink with ⟨found, hfound, hplace⟩
  exact hsound.inside found (List.mem_of_getElem? hfound) link (List.mem_of_getElem? hplace)

theorem inside_of_pickLinks (hsound : session.Sound) {readers : List (Nat × Nat)}
    {links : List Link} (hlinks : session.pickLinks readers = some links) {link : Link}
    (hmem : link ∈ links) :
    link.handle < session.shelf.length := by
  rcases List.mem_iff_get.mp hmem with ⟨place, hplace⟩
  rcases List.forall₂_iff_get.mp (picked_of_pickLinks hlinks) with ⟨hlength, hpicked⟩
  have hreader : place.val < readers.length := by
    rw [hlength]
    exact place.isLt
  have hfound := hpicked place hreader place.isLt
  rw [hplace] at hfound
  exact inside_of_lookup hsound hfound

theorem opens_duplicates (hsound : session.Sound) {source : Nat} {found : Source}
    (hsource : session.sources[source]? = some found) :
    Origin.columns.Opens (found.ownColumns.filterMap fun handle => session.shelf[handle]?) := by
  intro reader hreader
  rcases List.mem_filterMap.mp hreader with ⟨handle, hhandle, hfound⟩
  have hfits := hsound.fits found (List.mem_of_getElem? hsource)
  rcases Source.exists_made_of_mem hfits hhandle with ⟨column, row, hleaf, hmade⟩
  rw [hleaf] at hfound
  exact ⟨column, row, (Option.some.inj hfound).symm, hmade⟩

theorem mem_links_of_bind {sieve : Sieve} {links : List Link} {bound : BoundSieve (Link × Nat)}
    {pathOf : Link × Nat → ColumnPath}
    (hbound : (sieve.bind pathOf links.zipIdx).result = .ok bound) {link : Link}
    (hlink : link ∈ (bound.mapReaders fun reader => reader.1).readers) :
    link ∈ links := by
  rcases List.mem_map.mp hlink with ⟨reader, hreader, hsame⟩
  rcases (Sieve.found_of_resolved (Sieve.bind_eq_ok_iff.mp hbound).1).2 reader hreader with
    ⟨text, _, hfound⟩
  have hmem := (Sieve.path_of_lookup hfound).1
  rw [← hsame]
  exact List.mem_of_getElem? (List.mem_zipIdx_iff_getElem?.mp hmem)

theorem sound_of_effect {step : Step} {answer : Except Refusal Answer} (hsound : before.Sound)
    (heffect : Effect before step after answer) :
    after.Sound := by
  cases heffect with
  | nothing => exact hsound
  | opened hopens => exact sound_addReaders hsound hopens
  | duplicated hsource => exact sound_addReaders hsound (opens_duplicates hsound hsource)
  | shared hsource =>
      apply sound_addShared hsound
      intro link hlink
      rcases List.mem_map.mp hlink with ⟨target, htarget, hreference⟩
      rw [← hreference]
      exact hsound.inside _ (List.mem_of_getElem? hsource) target htarget
  | picked hlinks => exact sound_addShared hsound fun _ => inside_of_pickLinks hsound hlinks
  | moved _ =>
      exact sound_of_keeps hsound rfl rfl (Shelf.keeps_seek _ _ _) (Shelf.length_seek _ _ _)
  | valued _ =>
      exact sound_of_keeps hsound rfl rfl (Shelf.keeps_set _ _ _) (Shelf.length_set _ _ _)
  | sieved _ _ => exact sound_of_keeps hsound rfl rfl (Shelf.keeps_refl _) rfl
  | derived _ _ => exact sound_of_keeps hsound rfl rfl (Shelf.keeps_refl _) rfl
  | bound _ hsource hbound =>
      apply sound_addBound hsound
      intro link hlink
      exact hsound.inside _ (List.mem_of_getElem? hsource) link (mem_links_of_bind hbound hlink)
  | counted _ counter applications => exact sound_of_keeps hsound rfl rfl (Shelf.keeps_refl _) rfl
  | evaluated applications _ _ _ =>
      exact sound_of_keeps hsound rfl rfl (Shelf.keeps_evaluate _ _ _ _)
        (Shelf.length_evaluate _ _ _ _)
  | loaded snapshot => exact sound_of_keeps hsound rfl rfl (Shelf.keeps_refl _) rfl

theorem sound_step (hsound : session.Sound) (step : Step) : (session.step step).result.1.Sound :=
  sound_of_effect hsound (effect_step session step)

theorem run_induction {P : Session → Prop}
    (hstep : ∀ (session : Session) (step : Step), P session → P (session.step step).result.1)
    {session : Session} (hstart : P session) (steps : List Step) :
    P (session.run steps) := by
  induction steps generalizing session with
  | nil => exact hstart
  | cons step rest ih => exact ih (hstep session step hstart)

theorem sound_run (hsound : session.Sound) (steps : List Step) : (session.run steps).Sound :=
  run_induction (P := Sound) (fun _ step hbefore => sound_step hbefore step) hsound steps

/-!
## One owner each
-/

/-- No reader is a source's own twice, and none is two sources' own. -/
theorem nodup_owners (hsound : session.Sound) : (session.sources.flatMap Source.own).Nodup := by
  rw [hsound.owners]
  exact List.nodup_range

theorem not_own_of_lt (hsound : session.Sound) {source other : Nat} {found rival : Source}
    (hlt : source < other) (hsource : session.sources[source]? = some found)
    (hother : session.sources[other]? = some rival) {handle : Handle}
    (hown : handle ∈ found.own) :
    handle ∉ rival.own := by
  have hdisjoint := (List.nodup_flatMap.mp (nodup_owners hsound)).2
  rcases List.getElem?_eq_some_iff.mp hsource with ⟨hbound, hfound⟩
  rcases List.getElem?_eq_some_iff.mp hother with ⟨hotherBound, hrival⟩
  have hpair := List.pairwise_iff_getElem.mp hdisjoint source other hbound hotherBound hlt
  rw [hfound, hrival] at hpair
  exact hpair hown

theorem source_eq_of_own (hsound : session.Sound) {source other : Nat} {found rival : Source}
    (hsource : session.sources[source]? = some found)
    (hother : session.sources[other]? = some rival) {handle : Handle} (hown : handle ∈ found.own)
    (hrival : handle ∈ rival.own) :
    source = other := by
  rcases Nat.lt_trichotomy source other with hlt | heq | hgt
  · exact absurd hrival (not_own_of_lt hsound hlt hsource hother hown)
  · exact heq
  · exact absurd hown (not_own_of_lt hsound hgt hother hsource hrival)

end Session
end RowSieve
