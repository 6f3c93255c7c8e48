import RowSieve.Proofs.Reader.Answers
import RowSieve.Proofs.Reader.Standing
import RowSieve.Proofs.Sieve.Drafting
import RowSieve.Session.Run

/-!
# What a step does

A step adds at most one thing to a session, or it moves cursors, sets a value or counts applications
of a predicate.  All that is shown of runs starts from this list of effects, which also tells where
the columns and the sieves come from that a step adds.  A refused step has no effect, except that
its applications may be counted.
-/

namespace RowSieve

namespace Source

/-- The readers that were put on the shelf for the source. -/
def own (source : Source) : List Handle :=
  match source.origin with
  | .batch _ | .columns | .settable => source.handles
  | .shared => []

end Source

/-- The readers with which a source of that origin is made. -/
def Origin.Opens : Origin → List Reader → Prop
  | .batch whole, readers => readers = Shelf.ofColumns whole.leafColumns
  | .columns, readers =>
      ∀ reader ∈ readers, ∃ column row, reader = .leaf column row ∧ column.Made
  | .settable, readers =>
      ∀ reader ∈ readers, ∃ path declared current, reader = .settable path declared current
  | .shared, _ => False

namespace Step

/-- The step only asks for something that is there. -/
def Tells : Step → Prop
  | .cursors _ | .nulls _ | .read .. | .readValue .. | .applications _ | .showSieve _
  | .showBound _ | .get .. | .values _ | .compare .. => True
  | _ => False

/-- The step makes a sieve that is not made of another. -/
def Founds : Step → Prop
  | .ofColumns .. | .build _ => True
  | _ => False

/-- The step applies a predicate and leaves all readers where they stand. -/
def Judges : Step → Prop
  | .isMatch _ | .matchMask .. | .matchingRows .. | .sift .. => True
  | _ => False

end Step

namespace Session

variable {session : Session}

/-- The readers that a move of a source's cursors is addressed to: one of those that the source made
itself, or all of them. -/
def addressed (session : Session) (source : Nat) (reader : Option Nat) : Option (List Handle) :=
  session.sources[source]?.bind fun found =>
    match reader with
    | none => some found.ownColumns
    | some place => found.ownColumns[place]?.map ([·])

/-- The reader whose value is to be set. -/
def settable? (session : Session) (source reader : Nat) : Option Handle :=
  session.sources[source]?.bind fun found => found.ownSettables[reader]?

/-- What a step may make of a session, and with what answer. -/
inductive Effect (before : Session) : Step → Session → Except Refusal Answer → Prop
  | nothing {step : Step} {answer : Except Refusal Answer} : Effect before step before answer
  | opened {step : Step} {answer : Answer} {readers : List Reader} {origin : Origin}
      (hopens : origin.Opens readers) :
      Effect before step (before.addReaders readers origin) (.ok answer)
  | duplicated {source : Nat} {found : Source} {answer : Answer}
      (hsource : before.sources[source]? = some found) :
      Effect before (.duplicate source)
        (before.addReaders (found.ownColumns.filterMap fun handle => before.shelf[handle]?)
          .columns)
        (.ok answer)
  | shared {source : Nat} {found : Source} {answer : Answer}
      (hsource : before.sources[source]? = some found) :
      Effect before (.share source) (before.addShared (found.links.map .reference)) (.ok answer)
  | picked {readers : List (Nat × Nat)} {links : List Link} {answer : Answer}
      (hlinks : before.pickLinks readers = some links) :
      Effect before (.pick readers) (before.addShared links) (.ok answer)
  | moved {source row : Nat} {reader : Option Nat} {handles : List Handle}
      (haddressed : before.addressed source reader = some handles) :
      Effect before (.seek source row reader)
        { before with shelf := before.shelf.seek handles row } (.ok .done)
  | valued {source reader : Nat} {value : Value} {handle : Handle}
      (hhandle : before.settable? source reader = some handle) :
      Effect before (.set source reader value)
        { before with shelf := before.shelf.set handle value } (.ok .done)
  | sieved {step : Step} {sieve : Sieve} {answer : Answer} (hstep : step.Founds)
      (hobtained : sieve.Obtained) :
      Effect before step (before.addSieve sieve) (.ok answer)
  | derived {sieve : Nat} {delimiter : Char} {counted : Counted Sieve} {content : Sieve}
      {answer : Answer} (hsieve : before.sieves[sieve]? = some counted)
      (hcontent : counted.content.withOptions (Options.standard.withDelimiter delimiter) =
        .ok content) :
      Effect before (.withDelimiter sieve delimiter) (before.addDerived content counted.counter)
        (.ok answer)
  | bound {sieve source : Nat} {counted : Counted Sieve} {found : Source}
      {bound : BoundSieve (Link × Nat)} {answer : Answer}
      (hsieve : before.sieves[sieve]? = some counted)
      (hsource : before.sources[source]? = some found)
      (hbound : (counted.content.bind (fun reader => before.shelf.linkedPath reader.1)
        found.links.zipIdx).result = .ok bound) :
      Effect before (.bind sieve source)
        (before.addBound (bound.mapReaders fun reader => reader.1) counted.counter) (.ok answer)
  | counted {step : Step} {answer : Except Refusal Answer} (hstep : step.Judges)
      (counter applications : Nat) :
      Effect before step (before.count counter applications) answer
  | evaluated {source bound : Nat} {found : Source} {batch : Batch}
      {counted : Counted (BoundSieve Link)} {answer : Answer} (applications : Nat)
      (hsource : before.sources[source]? = some found) (hbatch : found.batch? = some batch)
      (hbound : before.bounds[bound]? = some counted) :
      Effect before (.evaluate source bound)
        { before.count counted.counter applications with
          shelf := (counted.content.behindLinks.evaluate found.handles batch.rows
            before.shelf).result.2 }
        (.ok answer)
  | loaded {step : Step} {answer : Answer} (snapshot : Snapshot) :
      Effect before step (before.addSnapshot snapshot) (.ok answer)

/-!
## One effect for each step
-/

theorem mem_of_mapM {ε α β : Type} {f : α → Except ε β} {xs : List α} {ys : List β}
    (hmade : xs.mapM f = .ok ys) {y : β} (hy : y ∈ ys) :
    ∃ x ∈ xs, f x = .ok y := by
  induction xs generalizing ys with
  | nil =>
      cases hmade
      cases hy
  | cons x xs ih =>
      rw [List.mapM_cons] at hmade
      cases hfirst : f x with
      | error failure =>
          rw [hfirst] at hmade
          cases hmade
      | ok first =>
          cases hrest : xs.mapM f with
          | error failure =>
              rw [hfirst, hrest] at hmade
              cases hmade
          | ok rest =>
              rw [hfirst, hrest] at hmade
              cases hmade
              rcases List.mem_cons.mp hy with hhere | hlater
              · exact ⟨x, List.mem_cons_self, hhere ▸ hfirst⟩
              · rcases ih hrest hlater with ⟨other, hother, hothers⟩
                exact ⟨other, List.mem_cons_of_mem x hother, hothers⟩

theorem opens_columns {columns : List LeafColumn} (hmade : ∀ column ∈ columns, column.Made) :
    Origin.columns.Opens (Shelf.ofColumns columns) := by
  intro reader hreader
  rcases List.mem_map.mp hreader with ⟨column, hcolumn, hleaf⟩
  exact ⟨column, 0, hleaf.symm, hmade column hcolumn⟩

theorem effect_openColumns (columns : List (ColumnPath × Column)) :
    Effect session (.openColumns columns) (session.openColumns columns).result.1
      (session.openColumns columns).result.2 := by
  rw [openColumns]
  cases hcolumns : columns.mapM fun column => LeafColumn.ofColumn column.1 column.2 with
  | error failure => exact .nothing
  | ok leaves =>
      refine .opened (opens_columns ?_)
      intro column hcolumn
      rcases mem_of_mapM hcolumns hcolumn with ⟨given, _, hgiven⟩
      exact .ofColumn hgiven

theorem opens_settables (readers : List (ColumnPath × PhysicalType × Value)) :
    Origin.settable.Opens
      (readers.map fun reader => .settable reader.1 reader.2.1 reader.2.2) := by
  intro reader hreader
  rcases List.mem_map.mp hreader with ⟨given, _, hmade⟩
  exact ⟨given.1, given.2.1, given.2.2, hmade.symm⟩

theorem effect_seek (source row : Nat) (reader : Option Nat) :
    Effect session (.seek source row reader) (session.seek source row reader).result.1
      (session.seek source row reader).result.2 := by
  rw [seek]
  cases hsource : session.sources[source]? with
  | none => exact .nothing
  | some found =>
      cases reader with
      | none => exact .moved (by rw [addressed, hsource]; rfl)
      | some place =>
          cases hplace : found.ownColumns[place]? with
          | none =>
              simp only [hplace]
              exact .nothing
          | some handle =>
              simp only [hplace]
              exact .moved (by rw [addressed, hsource]; simp [hplace])

theorem effect_openSieve {step : Step} (hstep : step.Founds) {sieve : Except Failure Sieve}
    (hobtained : ∀ made, sieve = .ok made → made.Obtained) :
    Effect session step (session.openSieve sieve).result.1 (session.openSieve sieve).result.2 := by
  cases sieve with
  | error failure => exact .nothing
  | ok made => exact .sieved hstep (hobtained made rfl)

theorem effect_withDelimiter (sieve : Nat) (delimiter : Char) :
    Effect session (.withDelimiter sieve delimiter) (session.withDelimiter sieve delimiter).result.1
      (session.withDelimiter sieve delimiter).result.2 := by
  rw [withDelimiter]
  cases hsieve : session.sieves[sieve]? with
  | none => exact .nothing
  | some counted =>
      simp only
      cases hcontent :
          counted.content.withOptions (Options.standard.withDelimiter delimiter) with
      | error failure => exact .nothing
      | ok content => exact .derived hsieve hcontent

theorem effect_bind (sieve source : Nat) :
    Effect session (.bind sieve source) (session.bind sieve source).result.1
      (session.bind sieve source).result.2 := by
  rw [bind]
  cases hsieve : session.sieves[sieve]? with
  | none => exact .nothing
  | some counted =>
      cases hsource : session.sources[source]? with
      | none => exact .nothing
      | some found =>
          simp only [Traced.result_bind]
          cases hbound : (counted.content.bind (fun reader => session.shelf.linkedPath reader.1)
              found.links.zipIdx).result with
          | error failure => exact .nothing
          | ok bound => exact .bound hsieve hsource hbound

theorem effect_isMatch (bound : Nat) :
    Effect session (.isMatch bound) (session.isMatch bound).result.1
      (session.isMatch bound).result.2 := by
  rw [isMatch]
  cases session.bounds[bound]? with
  | none => exact .nothing
  | some counted => exact .counted (by trivial) counted.counter _

theorem effect_evaluate (source bound : Nat) :
    Effect session (.evaluate source bound) (session.evaluate source bound).result.1
      (session.evaluate source bound).result.2 := by
  rw [evaluate]
  cases hsource : session.sources[source]? with
  | none => exact .nothing
  | some found =>
      cases hbound : session.bounds[bound]? with
      | none => exact .nothing
      | some counted =>
          cases hbatch : found.batch? with
          | none =>
              simp only [hbatch]
              exact .nothing
          | some batch =>
              simp only [hbatch]
              exact .evaluated _ hsource hbatch hbound

theorem effect_siftWith {α : Type} {step : Step} (hstep : step.Judges) (source sieve : Nat)
    (sifting : Batch → Sieve → Traced (Except Failure α)) (answer : α → Answer) :
    Effect session step (session.siftWith source sieve sifting answer).result.1
      (session.siftWith source sieve sifting answer).result.2 := by
  rw [siftWith]
  cases session.sources[source]?.bind Source.batch? with
  | none => exact .nothing
  | some batch =>
      cases session.sieves[sieve]? with
      | none => exact .nothing
      | some counted =>
          simp only [Traced.result_bind]
          cases (sifting batch counted.content).result with
          | error failure => exact .counted hstep counted.counter _
          | ok result => exact .counted hstep counted.counter _

theorem effect_load (group : ReaderGroup) (types : Option (List PhysicalType)) :
    Effect session (.load group types) (session.load group types).result.1
      (session.load group types).result.2 := by
  rw [load]
  cases session.groupLinks group with
  | none => exact .nothing
  | some links =>
      simp only
      split
      · exact .nothing
      · exact .loaded _

/-!
## Steps that only tell
-/

theorem tells_replyTo (answer : Except Failure Answer) :
    ∃ told, session.replyTo answer = return (session, told) := by
  cases answer with
  | error failure => exact ⟨_, rfl⟩
  | ok answer => exact ⟨_, rfl⟩

theorem step_of_tells {step : Step} (htells : step.Tells) :
    ∃ told, session.step step = return (session, told) := by
  cases step with
  | cursors source =>
      simp only [Session.step, cursors]
      split <;> exact ⟨_, rfl⟩
  | nulls source =>
      simp only [Session.step, nulls]
      split <;> exact ⟨_, rfl⟩
  | read source reader accessor =>
      simp only [Session.step, read]
      split
      · exact ⟨_, rfl⟩
      · exact tells_replyTo _
  | readValue source reader type =>
      simp only [Session.step, readValue]
      split
      · exact ⟨_, rfl⟩
      · exact tells_replyTo _
  | applications sieve =>
      simp only [Session.step, tellApplications]
      split <;> exact ⟨_, rfl⟩
  | showSieve sieve =>
      simp only [Session.step, showSieve]
      split <;> exact ⟨_, rfl⟩
  | showBound bound =>
      simp only [Session.step, showBound]
      split <;> exact ⟨_, rfl⟩
  | get snapshot index question =>
      simp only [Session.step, get]
      split
      · exact ⟨_, rfl⟩
      · exact tells_replyTo _
  | values snapshot =>
      simp only [Session.step, values]
      split <;> exact ⟨_, rfl⟩
  | compare left right =>
      simp only [Session.step, compare]
      split <;> exact ⟨_, rfl⟩
  | _ => cases htells

theorem effect_of_tells {step : Step} (htells : step.Tells) :
    Effect session step (session.step step).result.1 (session.step step).result.2 := by
  rcases step_of_tells htells with ⟨told, hstep⟩
  rw [hstep]
  exact .nothing

/-!
## Any step
-/

/-- Whatever the step and whether it is refused or not, its effect is one of those listed. -/
theorem effect_step (session : Session) (step : Step) :
    Effect session step (session.step step).result.1 (session.step step).result.2 := by
  cases step with
  | openBatch batch => exact .opened rfl
  | openColumns columns => exact effect_openColumns columns
  | openSettables readers => exact .opened (opens_settables readers)
  | duplicate source =>
      show Effect session _ (session.duplicate source).result.1 (session.duplicate source).result.2
      rw [duplicate]
      cases hsource : session.sources[source]? with
      | none => exact .nothing
      | some found => exact .duplicated hsource
  | share source =>
      show Effect session _ (session.share source).result.1 (session.share source).result.2
      rw [share]
      cases hsource : session.sources[source]? with
      | none => exact .nothing
      | some found => exact .shared hsource
  | pick readers =>
      show Effect session _ (session.pick readers).result.1 (session.pick readers).result.2
      rw [pick]
      cases hlinks : session.pickLinks readers with
      | none => exact .nothing
      | some links => exact .picked hlinks
  | set source reader value =>
      show Effect session _ (session.set source reader value).result.1
        (session.set source reader value).result.2
      rw [set]
      cases hhandle : session.sources[source]?.bind fun source => source.ownSettables[reader]? with
      | none => exact .nothing
      | some handle => exact .valued hhandle
  | seek source row reader => exact effect_seek source row reader
  | cursors source => exact effect_of_tells trivial
  | nulls source => exact effect_of_tells trivial
  | read source reader accessor => exact effect_of_tells trivial
  | readValue source reader type => exact effect_of_tells trivial
  | ofColumns paths predicate => exact .sieved (by trivial) (.ofColumns paths predicate)
  | build calls => exact effect_openSieve (by trivial) fun _ hbuild => .built hbuild
  | withDelimiter sieve delimiter => exact effect_withDelimiter sieve delimiter
  | applications sieve => exact effect_of_tells trivial
  | showSieve sieve => exact effect_of_tells trivial
  | showBound bound => exact effect_of_tells trivial
  | bind sieve source => exact effect_bind sieve source
  | isMatch bound => exact effect_isMatch bound
  | evaluate source bound => exact effect_evaluate source bound
  | matchMask source sieve => exact effect_siftWith (by trivial) source sieve _ _
  | matchingRows source sieve => exact effect_siftWith (by trivial) source sieve _ _
  | sift source sieve => exact effect_siftWith (by trivial) source sieve _ _
  | load group types => exact effect_load group types
  | get snapshot index question => exact effect_of_tells trivial
  | values snapshot => exact effect_of_tells trivial
  | compare left right => exact effect_of_tells trivial

end Session
end RowSieve
