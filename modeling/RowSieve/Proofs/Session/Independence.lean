import RowSieve.Proofs.Batch.Rows
import RowSieve.Proofs.Session.Duplicates

/-!
# References pass on, duplicates stand alone

A run shows of a column what it would show without the moves that are addressed to a duplicate of
it.  Two runs are compared that differ in such moves.  They make the same sources, sieves and bound
sieves, for none of these depends on where cursors stand; only what is loaded from the duplicate may
differ.
-/

namespace RowSieve

/-- What a session has made, but not where readers stand and what values they hold. -/
structure Makings where
  sources : List Source
  sieves : List (Counted Sieve)
  bounds : List (Counted (BoundSieve Link))
  counters : Nat
  readers : List (LeafColumn ⊕ (ColumnPath × PhysicalType))

namespace Session

def makings (session : Session) : Makings where
  sources := session.sources
  sieves := session.sieves
  bounds := session.bounds
  counters := session.counters.length
  readers := session.shelf.map Reader.lasting

/-- Nothing is made but perhaps a snapshot, and no reader is moved or set. -/
structure Stays (before after : Session) : Prop where
  makings : after.makings = before.makings
  shelf : after.shelf = before.shelf

/-- Both sessions have made the same, and the reader behind the handle is in the same state in both;
other readers may stand elsewhere or hold other values. -/
structure Matches (handle : Handle) (left right : Session) : Prop where
  makings : left.makings = right.makings
  here : left.shelf[handle]? = right.shelf[handle]?
  inside : handle < left.shelf.length

variable {session before after left right : Session} {handle : Handle}

/-!
## Steps that make no readers and no sieves
-/

theorem stays_refl (session : Session) : session.Stays session :=
  ⟨rfl, rfl⟩

theorem stays_count (session : Session) (counter applications : Nat) :
    session.Stays (session.count counter applications) where
  makings := by simp only [makings, count, List.length_modify]
  shelf := rfl

theorem stays_siftWith {α : Type} (source sieve : Nat)
    (sifting : Batch → Sieve → Traced (Except Failure α)) (answer : α → Answer) :
    session.Stays (session.siftWith source sieve sifting answer).result.1 := by
  rw [siftWith]
  cases session.sources[source]?.bind Source.batch? with
  | none => exact stays_refl session
  | some batch =>
      cases session.sieves[sieve]? with
      | none => exact stays_refl session
      | some counted =>
          simp only [Traced.result_bind]
          cases (sifting batch counted.content).result with
          | error failure => exact stays_count session _ _
          | ok result => exact stays_count session _ _

theorem stays_of_tells {step : Step} (htells : step.Tells) :
    session.Stays (session.step step).result.1 := by
  rcases step_of_tells htells with ⟨told, hstep⟩
  rw [hstep]
  exact stays_refl session

theorem stays_of_judges {step : Step} (hjudges : step.Judges) :
    session.Stays (session.step step).result.1 := by
  cases step with
  | isMatch bound =>
      simp only [Session.step, isMatch]
      split
      · exact stays_refl session
      · exact stays_count session _ _
  | matchMask source sieve => exact stays_siftWith source sieve _ _
  | matchingRows source sieve => exact stays_siftWith source sieve _ _
  | sift source sieve => exact stays_siftWith source sieve _ _
  | _ => cases hjudges

theorem stays_load (group : ReaderGroup) (types : Option (List PhysicalType)) :
    session.Stays (session.step (.load group types)).result.1 := by
  simp only [Session.step, load]
  split
  · exact stays_refl session
  · split
    · exact stays_refl session
    · exact ⟨rfl, rfl⟩

/-!
## The same step on both sides

What is made on both sides alike keeps them matching if the reader fares alike.
-/

namespace Matches

variable (hmatches : Matches handle left right)

include hmatches

theorem sources : left.sources = right.sources :=
  congrArg Makings.sources hmatches.makings

theorem sieves : left.sieves = right.sieves :=
  congrArg Makings.sieves hmatches.makings

theorem bounds : left.bounds = right.bounds :=
  congrArg Makings.bounds hmatches.makings

theorem lasting : left.shelf.map Reader.lasting = right.shelf.map Reader.lasting :=
  congrArg Makings.readers hmatches.makings

end Matches

theorem matches_of_change (hmatches : Matches handle left right)
    {leftAfter rightAfter : Session} (change : Makings → Makings)
    (hleft : leftAfter.makings = change left.makings)
    (hright : rightAfter.makings = change right.makings)
    (hleftShelf : leftAfter.shelf = left.shelf) (hrightShelf : rightAfter.shelf = right.shelf) :
    Matches handle leftAfter rightAfter where
  makings := by rw [hleft, hright, hmatches.makings]
  here := by rw [hleftShelf, hrightShelf, hmatches.here]
  inside := by
    rw [hleftShelf]
    exact hmatches.inside

theorem matches_of_stays {leftAfter rightAfter : Session} (hmatches : Matches handle left right)
    (hleft : left.Stays leftAfter) (hright : right.Stays rightAfter) :
    Matches handle leftAfter rightAfter :=
  matches_of_change hmatches id hleft.makings hright.makings hleft.shelf hright.shelf

theorem matches_of_tells (hmatches : Matches handle left right) {step : Step}
    (htells : step.Tells) :
    Matches handle (left.step step).result.1 (right.step step).result.1 :=
  matches_of_stays hmatches (stays_of_tells htells) (stays_of_tells htells)

theorem matches_of_judges (hmatches : Matches handle left right) {step : Step}
    (hjudges : step.Judges) :
    Matches handle (left.step step).result.1 (right.step step).result.1 :=
  matches_of_stays hmatches (stays_of_judges hjudges) (stays_of_judges hjudges)

theorem matches_addShared (hmatches : Matches handle left right) (links : List Link) :
    Matches handle (left.addShared links) (right.addShared links) :=
  matches_of_change hmatches
    (fun made => { made with sources := made.sources ++ [⟨links, .shared⟩] }) rfl rfl rfl rfl

theorem makings_addSieve (session : Session) (sieve : Sieve) :
    (session.addSieve sieve).makings =
      { session.makings with
        sieves := session.makings.sieves ++ [⟨sieve, session.makings.counters⟩]
        counters := session.makings.counters + 1 } := by
  simp only [makings, addSieve, List.length_append]
  rfl

theorem matches_addSieve (hmatches : Matches handle left right) (sieve : Sieve) :
    Matches handle (left.addSieve sieve) (right.addSieve sieve) :=
  matches_of_change hmatches
    (fun made => { made with
      sieves := made.sieves ++ [⟨sieve, made.counters⟩]
      counters := made.counters + 1 })
    (makings_addSieve left sieve) (makings_addSieve right sieve) rfl rfl

theorem matches_addDerived (hmatches : Matches handle left right) (sieve : Sieve)
    (counter : Nat) :
    Matches handle (left.addDerived sieve counter) (right.addDerived sieve counter) :=
  matches_of_change hmatches
    (fun made => { made with sieves := made.sieves ++ [⟨sieve, counter⟩] }) rfl rfl rfl rfl

theorem matches_addBound (hmatches : Matches handle left right) (bound : BoundSieve Link)
    (counter : Nat) :
    Matches handle (left.addBound bound counter) (right.addBound bound counter) :=
  matches_of_change hmatches
    (fun made => { made with bounds := made.bounds ++ [⟨bound, counter⟩] }) rfl rfl rfl rfl

theorem length_of_lasting {shelf other : Shelf}
    (hlasting : shelf.map Reader.lasting = other.map Reader.lasting) :
    shelf.length = other.length := by
  have hlength := congrArg List.length hlasting
  rwa [List.length_map, List.length_map] at hlength

theorem matches_addReaders (hmatches : Matches handle left right) {readers others : List Reader}
    (hreaders : readers.map Reader.lasting = others.map Reader.lasting) (origin : Origin) :
    Matches handle (left.addReaders readers origin) (right.addReaders others origin) := by
  have hshelf := length_of_lasting hmatches.lasting
  have hadded := length_of_lasting hreaders
  have hcounters := congrArg Makings.counters hmatches.makings
  simp only [makings] at hcounters
  constructor
  · simp only [makings, addReaders, Shelf.nextHandles, List.map_append, hmatches.sources,
      hmatches.sieves, hmatches.bounds, hcounters, hmatches.lasting, hshelf, hadded, hreaders]
  · have hother : handle < right.shelf.length := hshelf ▸ hmatches.inside
    show (left.shelf ++ readers)[handle]? = (right.shelf ++ others)[handle]?
    rw [List.getElem?_append_left hmatches.inside, List.getElem?_append_left hother,
      hmatches.here]
  · show handle < (left.shelf ++ readers).length
    rw [List.length_append]
    exact Nat.lt_add_right _ hmatches.inside

theorem matches_of_shelves (hmatches : Matches handle left right) {shelf other : Shelf}
    (hleft : shelf.map Reader.lasting = left.shelf.map Reader.lasting)
    (hright : other.map Reader.lasting = right.shelf.map Reader.lasting)
    (hhere : shelf[handle]? = other[handle]?) :
    Matches handle { left with shelf := shelf } { right with shelf := other } where
  makings := by
    have hmakings := hmatches.makings
    simp only [makings] at hmakings ⊢
    rw [hleft, hright]
    exact hmakings
  here := hhere
  inside := by
    show handle < shelf.length
    rw [length_of_lasting hleft]
    exact hmatches.inside

theorem matches_seek (hmatches : Matches handle left right) (handles : List Handle) (row : Nat) :
    Matches handle { left with shelf := left.shelf.seek handles row }
      { right with shelf := right.shelf.seek handles row } := by
  apply matches_of_shelves hmatches (Shelf.lasting_seek _ _ _) (Shelf.lasting_seek _ _ _)
  rw [Shelf.getElem?_seek, Shelf.getElem?_seek, hmatches.here]

theorem matches_set (hmatches : Matches handle left right) (target : Handle) (value : Value) :
    Matches handle { left with shelf := left.shelf.set target value }
      { right with shelf := right.shelf.set target value } := by
  apply matches_of_shelves hmatches (Shelf.lasting_set _ _ _) (Shelf.lasting_set _ _ _)
  rw [Shelf.getElem?_set, Shelf.getElem?_set, hmatches.here]

theorem pickLinks_of_sources (hsources : left.sources = right.sources)
    (readers : List (Nat × Nat)) :
    left.pickLinks readers = right.pickLinks readers := by
  induction readers with
  | nil => rfl
  | cons reader rest ih => rw [pickLinks, pickLinks, hsources, ih]

theorem lasting_copies {shelf other : Shelf}
    (hlasting : shelf.map Reader.lasting = other.map Reader.lasting) (handles : List Handle) :
    (handles.filterMap fun handle => shelf[handle]?).map Reader.lasting =
      (handles.filterMap fun handle => other[handle]?).map Reader.lasting := by
  rw [List.map_filterMap, List.map_filterMap]
  congr 1
  funext handle
  rw [← List.getElem?_map, ← List.getElem?_map, hlasting]

theorem matches_openSieve (hmatches : Matches handle left right)
    (sieve : Except Failure Sieve) :
    Matches handle (left.openSieve sieve).result.1 (right.openSieve sieve).result.1 := by
  cases sieve with
  | error failure => exact hmatches
  | ok sieve => exact matches_addSieve hmatches sieve

theorem matches_bind (hmatches : Matches handle left right) (sieve source : Nat) :
    Matches handle (left.step (.bind sieve source)).result.1
      (right.step (.bind sieve source)).result.1 := by
  have hpaths : (fun reader : Link × Nat => left.shelf.linkedPath reader.1) =
      fun reader => right.shelf.linkedPath reader.1 :=
    funext fun reader => Shelf.linkedPath_of_lasting hmatches.lasting reader.1
  rw [step_bind, step_bind, hmatches.sieves, hmatches.sources, hpaths]
  cases right.sieves[sieve]? with
  | none => exact hmatches
  | some counted =>
      cases right.sources[source]? with
      | none => exact hmatches
      | some found =>
          simp only
          split
          · exact hmatches
          · exact matches_addBound hmatches _ _

theorem matches_evaluate (hmatches : Matches handle left right) (source bound : Nat) :
    Matches handle (left.step (.evaluate source bound)).result.1
      (right.step (.evaluate source bound)).result.1 := by
  have hevaluable : left.evaluable? source bound = right.evaluable? source bound := by
    rw [evaluable?, evaluable?, hmatches.sources, hmatches.bounds]
  rw [step_evaluate, step_evaluate, hevaluable]
  cases right.evaluable? source bound with
  | none => exact hmatches
  | some parts =>
      rcases parts with ⟨found, batch, counted⟩
      simp only [BoundSieve.final_evaluate]
      have hcounted : ∀ earlier later : Nat, Matches handle
          (left.count counted.counter earlier) (right.count counted.counter later) :=
        fun earlier later => matches_of_stays hmatches (stays_count left counted.counter earlier)
          (stays_count right counted.counter later)
      split
      · exact hcounted _ _
      · exact matches_seek (hcounted _ _) found.handles (batch.rows - 1)

/-- Two sessions that match still match after the same step. -/
theorem matches_step (hmatches : Matches handle left right) (step : Step) :
    Matches handle (left.step step).result.1 (right.step step).result.1 := by
  cases step with
  | openBatch batch => exact matches_addReaders hmatches rfl _
  | openColumns columns =>
      simp only [Session.step, openColumns]
      split
      · exact hmatches
      · exact matches_addReaders hmatches rfl _
  | openSettables readers => exact matches_addReaders hmatches rfl _
  | duplicate source =>
      simp only [Session.step, duplicate, hmatches.sources]
      cases right.sources[source]? with
      | none => exact hmatches
      | some found =>
          exact matches_addReaders hmatches (lasting_copies hmatches.lasting found.ownColumns) _
  | share source =>
      simp only [Session.step, share, hmatches.sources]
      cases right.sources[source]? with
      | none => exact hmatches
      | some found => exact matches_addShared hmatches _
  | pick readers =>
      simp only [Session.step, pick, pickLinks_of_sources hmatches.sources]
      cases right.pickLinks readers with
      | none => exact hmatches
      | some links => exact matches_addShared hmatches links
  | set source reader value =>
      have hsettable : left.settable? source reader = right.settable? source reader := by
        rw [settable?, settable?, hmatches.sources]
      rw [step_set, step_set, hsettable]
      cases right.settable? source reader with
      | none => exact hmatches
      | some target => exact matches_set hmatches target value
  | seek source row reader =>
      have haddressed : left.addressed source reader = right.addressed source reader := by
        rw [addressed, addressed, hmatches.sources]
      rw [step_seek, step_seek, haddressed]
      cases right.addressed source reader with
      | none => exact hmatches
      | some handles => exact matches_seek hmatches handles row
  | ofColumns paths predicate => exact matches_openSieve hmatches _
  | build calls => exact matches_openSieve hmatches _
  | withDelimiter sieve delimiter =>
      simp only [Session.step, withDelimiter, hmatches.sieves]
      cases right.sieves[sieve]? with
      | none => exact hmatches
      | some counted =>
          simp only
          split
          · exact hmatches
          · exact matches_addDerived hmatches _ _
  | bind sieve source => exact matches_bind hmatches sieve source
  | evaluate source bound => exact matches_evaluate hmatches source bound
  | isMatch bound => exact matches_of_judges hmatches trivial
  | matchMask source sieve => exact matches_of_judges hmatches trivial
  | matchingRows source sieve => exact matches_of_judges hmatches trivial
  | sift source sieve => exact matches_of_judges hmatches trivial
  | load group types =>
      exact matches_of_stays hmatches (stays_load group types) (stays_load group types)
  | _ => exact matches_of_tells hmatches trivial

/-!
## Moves of a duplicate

A column is not among the readers of its duplicate, so a move of the duplicate can be left out on
one side.
-/

theorem matches_refl (hinside : handle < session.shelf.length) : Matches handle session session :=
  ⟨rfl, rfl, hinside⟩

theorem matches_seeks (hmatches : Matches handle left right) {clone : Nat} {step : Step}
    (hseeks : step.seeks clone = true) (hfree : ∀ place, left.own? clone place ≠ some handle) :
    Matches handle (left.step step).result.1 right := by
  cases step with
  | seek moved row reader =>
      have hmoved : moved = clone := beq_iff_eq.mp hseeks
      rw [step_seek]
      cases haddressed : left.addressed moved reader with
      | none => exact hmatches
      | some handles =>
          have hother : handle ∉ handles := by
            intro hmem
            rcases own?_of_addressed haddressed hmem with ⟨place, hplace, _⟩
            rw [hmoved] at hplace
            exact hfree place hplace
          refine matches_of_shelves hmatches (Shelf.lasting_seek _ _ _) rfl ?_
          rw [Shelf.getElem?_seek, hmatches.here]
          simp [hother]
  | _ => cases hseeks

theorem matches_filter (hmatches : Matches handle left right) {clone : Nat} {found : Source}
    (hclone : left.sources[clone]? = some found) (hfree : handle ∉ found.ownColumns)
    (steps : List Step) :
    Matches handle (left.run steps) (right.run (steps.filter fun step => !step.seeks clone)) := by
  induction steps generalizing left right with
  | nil => exact hmatches
  | cons step rest ih =>
      have hlater := getElem?_of_grown (extends_step left step).sources hclone
      rw [List.filter_cons]
      cases hseeks : step.seeks clone with
      | true =>
          -- the move is left out on the right, so only the left goes on
          have hother : ∀ place, left.own? clone place ≠ some handle := by
            intro place hown
            rw [own?, hclone, Option.bind_some] at hown
            exact hfree (List.mem_of_getElem? hown)
          exact ih (matches_seeks hmatches hseeks hother) hlater
      | false => exact ih (matches_step hmatches step) hlater

theorem column?_of_matches (hmatches : Matches handle left right) {source place : Nat}
    (hown : left.own? source place = some handle) :
    right.column? source place = left.column? source place := by
  have hother : right.own? source place = some handle := by
    rw [own?, ← hmatches.sources]
    exact hown
  rw [column?, column?, hown, hother, Option.bind_some, Option.bind_some, hmatches.here]

theorem free_of_duplicate (hsound : session.Sound) {source place : Nat} {found : Source}
    {links : List Link} (hsource : session.sources[source]? = some found)
    (hplace : found.ownColumns[place]? = some handle)
    (hclone : (session.step (.duplicate source)).result.1.sources[session.sources.length]? =
      some ⟨links, .columns⟩) :
    handle ∉ (⟨links, .columns⟩ : Source).ownColumns := by
  have hextends := extends_step session (.duplicate source)
  intro hmem
  have hsame := source_eq_of_own (sound_step hsound (.duplicate source))
    (getElem?_of_grown hextends.sources hsource) hclone
    (own_of_ownColumns (List.mem_of_getElem? hplace)) (own_of_ownColumns hmem)
  have hbound := (List.getElem?_eq_some_iff.mp hsource).1
  omega

/-- A duplicate goes by the moves addressed to it, and the column it is made from does not. -/
theorem duplicate_stands_alone (hsound : session.Sound) {source place row : Nat}
    {column : LeafColumn} (hcolumn : session.column? source place = some (column, row)) :
    let clone := session.sources.length
    let after := (session.step (.duplicate source)).result.1
    after.column? source place = some (column, row) ∧
    after.column? clone place = some (column, row) ∧
    ∀ more,
      (after.run more).column? clone place = some (column, lastPut clone place row more) ∧
      ∃ now, (after.run more).column? source place = some (column, now) ∧
        (after.run (more.filter fun step => !step.seeks clone)).column? source place =
          some (column, now) := by
  intro clone after
  rcases column?_eq_some_iff.mp hcolumn with ⟨handle, hown, hreader⟩
  rcases Option.bind_eq_some_iff.mp hown with ⟨found, hsource, hplace⟩
  rcases sources_duplicate hsource with ⟨links, hclone⟩
  have hafter : after.Sound := sound_step hsound (.duplicate source)
  have hownAfter : after.own? source place = some handle :=
    own?_of_extends (extends_step session (.duplicate source)) hown
  have hinside := (List.getElem?_eq_some_iff.mp hreader).1
  have hstays : after.shelf[handle]? = some (.leaf column row) := by
    rw [← hreader]
    exact getElem?_shelf_of_effect (effect_step session _) id hinside
  have hstart : after.column? clone place = some (column, row) :=
    (column?_duplicate hsound hsource place).trans hcolumn
  refine ⟨column?_eq_some_iff.mpr ⟨handle, hownAfter, hstays⟩, hstart, ?_⟩
  intro more
  refine ⟨column?_run hafter hclone rfl hstart more, ?_⟩
  have hmatches := matches_filter (matches_refl (List.getElem?_eq_some_iff.mp hstays).1) hclone
    (free_of_duplicate hsound hsource hplace hclone) more
  have hextends := extends_run after more
  have hownRun := own?_of_extends hextends hownAfter
  rcases hextends.shelf.leaf hstays with ⟨now, hnow⟩
  have hcolumnRun := column?_eq_some_iff.mpr ⟨handle, hownRun, hnow⟩
  refine ⟨now, hcolumnRun, ?_⟩
  rw [column?_of_matches hmatches hownRun, hcolumnRun]

/-!
## Both together
-/

/-- In any session that can come about, a reader that goes back to another by references and picks
shows what that one shows, now and after any run; and to ask a source of references is to ask the
source itself.  A duplicate of a column, however, starts where the column stands and then stands
where the last move addressed to it put it, while the column stands where it would if those moves
were left out. -/
theorem references_pass_on_duplicates_stand_alone (steps : List Step) :
    let session := empty.run steps
    (∀ original reader, GoesBackTo original session reader → ∀ more, ∃ reading,
      (session.run more).reading? original.1 original.2 = some reading ∧
      (session.run more).reading? reader.1 reader.2 = some reading) ∧
    (∀ source found, session.sources[source]? = some found →
      (session.step (.share source)).result.1.Refers source session.sources.length) ∧
    (∀ source other, session.Refers source other → ∀ ask, Step.Asks ask → ∀ more rest,
      (session.run more).answers (ask other :: rest) =
        (session.run more).answers (ask source :: rest)) ∧
    (∀ source place column row, session.column? source place = some (column, row) →
      let clone := session.sources.length
      let after := (session.step (.duplicate source)).result.1
      after.column? source place = some (column, row) ∧
      after.column? clone place = some (column, row) ∧
      ∀ more,
        (after.run more).column? clone place = some (column, lastPut clone place row more) ∧
        (after.run more).reading? clone place =
          some (column.readingAt (lastPut clone place row more)) ∧
        ∃ now, (after.run more).column? source place = some (column, now) ∧
          (after.run more).reading? source place = some (column.readingAt now) ∧
          (after.run (more.filter fun step => !step.seeks clone)).column? source place =
            some (column, now)) := by
  intro session
  have hsound : session.Sound := sound_run sound_empty steps
  refine ⟨?_, ?_, ?_, ?_⟩
  · intro original reader hback more
    exact reading_of_goesBackTo (goesBackTo_run hback more)
  · intro source found hsource
    exact refers_share hsound hsource
  · intro source other hrefers ask hask more rest
    exact answers_of_refers (refers_run hrefers more) hask rest
  · intro source place column row hcolumn clone after
    rcases duplicate_stands_alone hsound hcolumn with ⟨hstays, hstart, hruns⟩
    refine ⟨hstays, hstart, ?_⟩
    intro more
    rcases hruns more with ⟨hclone, now, hnow, hfiltered⟩
    exact ⟨hclone, reading?_of_column? hclone, now, hnow, reading?_of_column? hnow, hfiltered⟩

/-- The capacities of four cars are picked out of references to the cars, and show what the cars
show wherever these stand.  Duplicates of the cars are moved to another row, and the cars are not
moved with them. -/
theorem references_pass_on_duplicates_stand_alone_cars :
    let steps : List Step :=
      [.openBatch Batch.cars, .share 0, .seek 0 3 none, .pick [(0, 0), (1, 1)]]
    let session := empty.run steps
    let moved := session.run [.seek 0 0 none]
    let after := (session.step (.duplicate 0)).result.1
    let later := after.run [.seek 3 1 none, .seek 0 0 none, .seek 3 2 (some 0)]
    GoesBackTo (0, 1) session (2, 1) ∧
    (∃ reading, moved.reading? 0 1 = some reading ∧ moved.reading? 2 1 = some reading ∧
      (reading.get .integer).toOption = some 1000) ∧
    session.Refers 0 1 ∧
    moved.answers [.load (.source 1) none, .values 0] =
      moved.answers [.load (.source 0) none, .values 0] ∧
    ∃ column, column.path = ["engine", "capacity"] ∧ session.column? 0 1 = some (column, 3) ∧
      later.column? 3 1 = some (column, 1) ∧ later.reading? 3 1 = some (column.readingAt 1) ∧
      later.column? 0 1 = some (column, 0) ∧ later.reading? 0 1 = some (column.readingAt 0) ∧
      (after.run [.seek 0 0 none]).column? 0 1 = some (column, 0) := by
  intro steps session moved after later
  rcases references_pass_on_duplicates_stand_alone [.openBatch Batch.cars] with ⟨_, hshares, _, _⟩
  rcases references_pass_on_duplicates_stand_alone steps with
    ⟨hreadings, _, hanswers, hduplicates⟩
  have hback : GoesBackTo (0, 1) session (2, 1) := by
    have hcars : GoesBackTo (0, 1) (empty.run [.openBatch Batch.cars]) (0, 1) :=
      .itself (by decide +kernel)
    exact .picked rfl rfl (.later (.seek 0 3 none) (.referred hcars))
  have hrefers : session.Refers 0 1 :=
    refers_run (hshares 0 _ rfl) [.seek 0 3 none, .pick [(0, 0), (1, 1)]]
  refine ⟨hback, ?_, hrefers, ?_, ?_⟩
  · have hcapacity : (moved.reading? 0 1).map (fun reading =>
        (reading.get .integer).toOption) = some (some 1000) := by
      decide +kernel
    rcases hreadings (0, 1) (2, 1) hback [.seek 0 0 none] with ⟨reading, horiginal, hpicked⟩
    rw [horiginal] at hcapacity
    exact ⟨reading, horiginal, hpicked, Option.some.inj hcapacity⟩
  · exact hanswers 0 1 hrefers _ (.load none) [.seek 0 0 none] [.values 0]
  · have hstands : (later.column? 0 1).map Prod.snd = some 0 := by decide +kernel
    have hcapacities : ∃ column : LeafColumn, column.path = ["engine", "capacity"] ∧
        session.column? 0 1 = some (column, 3) :=
      ⟨_, rfl, rfl⟩
    rcases hcapacities with ⟨column, hpath, hcolumn⟩
    rcases hduplicates 0 1 column 3 hcolumn with ⟨_, _, hruns⟩
    rcases hruns [.seek 3 1 none, .seek 0 0 none, .seek 3 2 (some 0)] with
      ⟨hclone, hcloned, now, hnow, hshown, hfiltered⟩
    have hrow : now = 0 := by
      rw [hnow] at hstands
      exact Option.some.inj hstands
    rw [hrow] at hnow hshown hfiltered
    exact ⟨column, hpath, hcolumn, hclone, hcloned, hnow, hshown, hfiltered⟩

end Session
end RowSieve
