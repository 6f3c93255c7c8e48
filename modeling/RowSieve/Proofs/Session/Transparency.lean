import RowSieve.Proofs.Session.Framing

/-!
# References cannot be told from readers

A reference passes every question on, so what is shown through a link is what the reader at its end
shows.  Hence a session cannot tell how its links lead to readers: if every link is replaced by one
that leads straight to the same reader, then the session answers all steps as before, for ever.
-/

namespace RowSieve

/-!
## Links
-/

theorem Reading.passedOn_eq {ε : Type} (reading : Reading ε) : reading.passedOn = reading := by
  rcases reading with ⟨path, declared, isNull, get⟩
  show (⟨path, declared, isNull, _⟩ : Reading ε) = _
  congr 1
  funext accessor
  cases accessor <;> rfl

namespace Link

/-- The link that leads to the same reader without a reference. -/
def straight (link : Link) : Link :=
  .direct link.handle

theorem through_eq {ε : Type} (link : Link) (reading : Reading ε) :
    link.through reading = reading := by
  induction link with
  | direct handle => rfl
  | reference link ih => rw [through, ih, Reading.passedOn_eq]

theorem zipWith_through {ε : Type} (links : List Link) (readings : List (Reading ε)) :
    List.zipWith Link.through links readings = readings.take links.length := by
  induction links generalizing readings with
  | nil => rfl
  | cons link rest ih =>
      cases readings with
      | nil => rfl
      | cons reading others =>
          rw [List.zipWith_cons_cons, ih, through_eq]
          rfl

end Link

namespace Shelf

theorem linked?_eq (shelf : Shelf) (link : Link) :
    shelf.linked? link = shelf[link.handle]?.map Reader.reading := by
  simp only [linked?, Link.through_eq]

theorem linkedReadings_eq (shelf : Shelf) (links : List Link) :
    shelf.linkedReadings links = shelf.readings (links.map Link.handle) := by
  rw [readings, List.filterMap_map, linkedReadings]
  congr 1
  funext link
  exact linked?_eq shelf link

theorem linkedPath_eq (shelf : Shelf) (link : Link) :
    shelf.linkedPath link = shelf.pathOf link.handle := by
  rw [linkedPath, linked?_eq, pathOf]
  cases shelf[link.handle]? with
  | none => rfl
  | some reader => exact reader.path_reading

end Shelf

namespace BoundSieve

theorem text_mapReaders {ρ σ : Type} (f : ρ → σ) (bound : BoundSieve ρ) :
    (bound.mapReaders f).text = bound.text :=
  congrArg (fun columns : Nat => s!"BoundFilter \x7b columns: {columns}, .. \x7d")
    (List.length_map f)

theorem behindLinks_straight (bound : BoundSieve Link) :
    (bound.mapReaders Link.straight).behindLinks = bound.behindLinks := by
  simp only [behindLinks, mapReaders, Link.zipWith_through, List.length_map, List.map_map]
  rfl

end BoundSieve

namespace Sieve

variable {ρ σ : Type}

theorem resolve_map (options : Options) (pathOf : σ → ColumnPath) (f : ρ → σ) (available : List ρ)
    (texts : List String) :
    resolve options pathOf (available.map f) texts =
      (resolve options (fun reader => pathOf (f reader)) available texts).map (List.map f) := by
  induction texts with
  | nil => rfl
  | cons text rest ih =>
      have hlookup : lookup options pathOf (available.map f) text =
          (lookup options (fun reader => pathOf (f reader)) available text).map f :=
        List.find?_map
      rw [resolve, resolve, hlookup, ih]
      cases lookup options (fun reader => pathOf (f reader)) available text with
      | none => rfl
      | some reader =>
          cases resolve options (fun reader => pathOf (f reader)) available rest <;> rfl

theorem bind_map (sieve : Sieve) (pathOf : σ → ColumnPath) (f : ρ → σ) (available : List ρ) :
    (sieve.bind pathOf (available.map f)).result =
      (sieve.bind (fun reader => pathOf (f reader)) available).result.map
        (BoundSieve.mapReaders f) := by
  rw [bind, bind, resolve_map]
  cases resolve sieve.options (fun reader => pathOf (f reader)) available sieve.paths <;> rfl

end Sieve

/-!
## Sessions without references
-/

namespace Source

def straight (source : Source) : Source where
  links := source.links.map Link.straight
  origin := source.origin

theorem handles_straight (source : Source) : source.straight.handles = source.handles :=
  List.map_map

theorem ownColumns_straight (source : Source) :
    source.straight.ownColumns = source.ownColumns := by
  rcases source with ⟨links, origin⟩
  cases origin with
  | batch batch => exact handles_straight _
  | columns => exact handles_straight _
  | settable => rfl
  | shared => rfl

theorem ownSettables_straight (source : Source) :
    source.straight.ownSettables = source.ownSettables := by
  rcases source with ⟨links, origin⟩
  cases origin with
  | settable => exact handles_straight _
  | _ => rfl

theorem straight_straight (source : Source) : source.straight.straight = source.straight := by
  rw [straight, straight]
  simp only [List.map_map]
  rfl

end Source

namespace Session

/-- The session with all its links replaced by links without references. -/
def straight (session : Session) : Session :=
  { session with
    sources := session.sources.map Source.straight
    bounds := session.bounds.map fun counted =>
      ⟨counted.content.mapReaders Link.straight, counted.counter⟩ }

/-- The answers are the same, and so are the sessions afterwards but for how links lead to
readers. -/
structure Alike (left right : Session × Except Refusal Answer) : Prop where
  answer_eq : left.2 = right.2
  straight_eq : left.1.straight = right.1.straight

variable {session left right : Session}

theorem straight_straight (session : Session) : session.straight.straight = session.straight := by
  have hsources : Source.straight ∘ Source.straight = Source.straight :=
    funext Source.straight_straight
  simp only [straight, List.map_map, hsources]
  congr 1
  simp only [List.map_inj_left, Function.comp_apply, BoundSieve.mapReaders, List.map_map]
  intros
  rfl

@[simp] theorem shelf_straight (session : Session) :
    session.straight.shelf = session.shelf := rfl

@[simp] theorem sieves_straight (session : Session) :
    session.straight.sieves = session.sieves := rfl

@[simp] theorem snapshots_straight (session : Session) :
    session.straight.snapshots = session.snapshots := rfl

theorem getElem?_sources_straight (session : Session) (source : Nat) :
    session.straight.sources[source]? = session.sources[source]?.map Source.straight :=
  List.getElem?_map

theorem getElem?_bounds_straight (session : Session) (bound : Nat) :
    session.straight.bounds[bound]? = session.bounds[bound]?.map fun counted =>
      ⟨counted.content.mapReaders Link.straight, counted.counter⟩ :=
  List.getElem?_map

theorem settable?_straight (session : Session) (source reader : Nat) :
    session.straight.settable? source reader = session.settable? source reader := by
  rw [settable?, settable?, getElem?_sources_straight]
  cases session.sources[source]? with
  | none => rfl
  | some found => simp only [Option.map_some, Option.bind_some, Source.ownSettables_straight]

theorem addressed_straight (session : Session) (source : Nat) (reader : Option Nat) :
    session.straight.addressed source reader = session.addressed source reader := by
  rw [addressed, addressed, getElem?_sources_straight]
  cases session.sources[source]? with
  | none => rfl
  | some found => simp only [Option.map_some, Option.bind_some, Source.ownColumns_straight]

theorem alike_of_commutes (change : Session → Session)
    (hchange : change session.straight = (change session).straight)
    (answer : Except Refusal Answer) :
    Alike (change session, answer) (change session.straight, answer) where
  answer_eq := rfl
  straight_eq := by
    show (change session).straight = (change session.straight).straight
    rw [hchange, straight_straight]

theorem alike_self (session : Session) (answer : Except Refusal Answer) :
    Alike (session, answer) (session.straight, answer) :=
  alike_of_commutes id rfl answer

theorem alike_replyTo (session : Session) (answer : Except Failure Answer) :
    Alike (session.replyTo answer).result (session.straight.replyTo answer).result := by
  cases answer with
  | error failure => exact alike_self session _
  | ok answer => exact alike_self session _

/-!
## Steps that make something
-/

theorem straight_addReaders (session : Session) (readers : List Reader) (origin : Origin) :
    (session.addReaders readers origin).straight =
      (session.straight.addReaders readers origin).straight := by
  have hsources := congrArg Session.sources (straight_straight session)
  have hbounds := congrArg Session.bounds (straight_straight session)
  simp only [straight, addReaders, List.map_append] at hsources hbounds ⊢
  rw [hsources, hbounds]

theorem straight_addShared (session : Session) {links others : List Link}
    (hlinks : links.map Link.straight = others.map Link.straight) :
    (session.addShared links).straight = (session.straight.addShared others).straight := by
  have hsources := congrArg Session.sources (straight_straight session)
  have hbounds := congrArg Session.bounds (straight_straight session)
  simp only [straight, addShared, List.map_append] at hsources hbounds ⊢
  rw [hsources, hbounds]
  simp only [List.map_cons, List.map_nil, Source.straight, hlinks]

theorem straight_addBound (session : Session) (bound : BoundSieve Link) (counter : Nat) :
    (session.addBound bound counter).straight =
      (session.straight.addBound (bound.mapReaders Link.straight) counter).straight := by
  have hsources := congrArg Session.sources (straight_straight session)
  have hbounds := congrArg Session.bounds (straight_straight session)
  simp only [straight, addBound, List.map_append] at hsources hbounds ⊢
  rw [hsources, hbounds]
  simp only [List.map_cons, List.map_nil, BoundSieve.mapReaders, List.map_map]
  rfl

theorem alike_openReaders (session : Session) (readers : List Reader) (origin : Origin) :
    Alike (session.openReaders readers origin).result
      (session.straight.openReaders readers origin).result where
  answer_eq := by
    show Except.ok (Answer.source session.sources.length _) =
      .ok (.source (session.sources.map Source.straight).length _)
    rw [List.length_map]
  straight_eq := straight_addReaders session readers origin

theorem alike_openBatch (session : Session) (batch : Batch) :
    Alike (session.openBatch batch).result (session.straight.openBatch batch).result where
  answer_eq := by
    show Except.ok (Answer.batchSource session.sources.length _ _) =
      .ok (.batchSource (session.sources.map Source.straight).length _ _)
    rw [List.length_map]
  straight_eq := straight_addReaders session _ _

theorem alike_openColumns (session : Session) (columns : List (ColumnPath × Column)) :
    Alike (session.openColumns columns).result (session.straight.openColumns columns).result := by
  rw [openColumns, openColumns]
  split
  · exact alike_self session _
  · exact alike_openReaders session _ _

theorem alike_duplicate (session : Session) (source : Nat) :
    Alike (session.duplicate source).result (session.straight.duplicate source).result := by
  rw [duplicate, duplicate, getElem?_sources_straight]
  cases session.sources[source]? with
  | none => exact alike_self session _
  | some found =>
      simp only [Option.map_some, Source.ownColumns_straight]
      exact alike_openReaders session _ _

theorem alike_shareLinks (session : Session) {links others : List Link}
    (hlinks : links.map Link.straight = others.map Link.straight) :
    Alike (session.shareLinks links).result (session.straight.shareLinks others).result where
  answer_eq := by
    have hhandles : links.map Link.handle = others.map Link.handle := by
      have hends := congrArg (List.map Link.handle) hlinks
      rwa [List.map_map, List.map_map] at hends
    show Except.ok (Answer.source session.sources.length
        ((session.shelf.linkedReadings links).map _)) =
      .ok (.source (session.sources.map Source.straight).length
        ((session.shelf.linkedReadings others).map _))
    rw [List.length_map, Shelf.linkedReadings_eq, Shelf.linkedReadings_eq, hhandles]
  straight_eq := straight_addShared session hlinks

theorem alike_share (session : Session) (source : Nat) :
    Alike (session.share source).result (session.straight.share source).result := by
  rw [share, share, getElem?_sources_straight]
  cases session.sources[source]? with
  | none => exact alike_self session _
  | some found =>
      apply alike_shareLinks
      simp only [Source.straight, List.map_map]
      rfl

theorem pickLinks_straight (session : Session) (readers : List (Nat × Nat)) :
    session.straight.pickLinks readers =
      (session.pickLinks readers).map (List.map Link.straight) := by
  induction readers with
  | nil => rfl
  | cons reader rest ih =>
      have hfound : (session.straight.sources[reader.1]?.bind fun found =>
            found.links[reader.2]?) =
          (session.sources[reader.1]?.bind fun found => found.links[reader.2]?).map
            Link.straight := by
        rw [getElem?_sources_straight]
        cases session.sources[reader.1]? with
        | none => rfl
        | some found => exact List.getElem?_map
      rw [pickLinks, pickLinks, hfound, ih]
      cases session.sources[reader.1]?.bind fun found => found.links[reader.2]? with
      | none => rfl
      | some link => cases session.pickLinks rest <;> rfl

theorem alike_pick (session : Session) (readers : List (Nat × Nat)) :
    Alike (session.pick readers).result (session.straight.pick readers).result := by
  rw [pick, pick, pickLinks_straight]
  cases session.pickLinks readers with
  | none => exact alike_self session _
  | some links =>
      apply alike_shareLinks
      simp only [List.map_map]
      rfl

theorem bind_straight (shelf : Shelf) (sieve : Sieve) (links : List Link) :
    (sieve.bind (fun reader => shelf.linkedPath reader.1)
        (links.map Link.straight).zipIdx).result =
      (sieve.bind (fun reader => shelf.linkedPath reader.1) links.zipIdx).result.map
        (BoundSieve.mapReaders fun reader => (reader.1.straight, reader.2)) := by
  have hpath : (fun reader : Link × Nat => shelf.linkedPath reader.1.straight) =
      fun reader => shelf.linkedPath reader.1 := by
    funext reader
    rw [Shelf.linkedPath_eq, Shelf.linkedPath_eq]
    rfl
  have hbind := sieve.bind_map (fun reader => shelf.linkedPath reader.1)
    (fun reader : Link × Nat => (reader.1.straight, reader.2)) links.zipIdx
  rw [hpath] at hbind
  rw [List.zipIdx_map]
  exact hbind

theorem alike_bind (session : Session) (sieve source : Nat) :
    Alike (session.step (.bind sieve source)).result
      (session.straight.step (.bind sieve source)).result := by
  rw [step_bind, step_bind, getElem?_sources_straight, sieves_straight]
  cases session.sieves[sieve]? with
  | none => exact alike_self session _
  | some counted =>
      cases session.sources[source]? with
      | none => exact alike_self session _
      | some found =>
          have hbind := bind_straight session.shelf counted.content found.links
          simp only [Option.map_some]
          rw [shelf_straight, Source.straight, hbind]
          cases (counted.content.bind (fun reader => session.shelf.linkedPath reader.1)
              found.links.zipIdx).result with
          | error failure => exact alike_self session _
          | ok bound =>
              constructor
              · show Except.ok (Answer.bound session.bounds.length _) =
                  .ok (.bound (session.bounds.map _).length
                    ((bound.readers.map _).map _))
                rw [List.length_map, List.map_map]
                rfl
              · show (session.addBound _ counted.counter).straight =
                  (session.straight.addBound
                    ((bound.mapReaders fun reader => (reader.1.straight, reader.2)).mapReaders
                      fun reader => reader.1) counted.counter).straight
                rw [straight_addBound]
                simp only [BoundSieve.mapReaders, List.map_map]
                rfl

/-!
## Steps that only look
-/

theorem linkedReadings_straight (shelf : Shelf) (links : List Link) :
    shelf.linkedReadings (links.map Link.straight) = shelf.linkedReadings links := by
  rw [Shelf.linkedReadings_eq, Shelf.linkedReadings_eq, List.map_map]
  rfl

theorem reading?_straight (session : Session) (source reader : Nat) :
    session.straight.reading? source reader = session.reading? source reader := by
  show (session.straight.sources[source]?.bind fun found =>
      found.links[reader]?.bind session.shelf.linked?) =
    session.sources[source]?.bind fun found => found.links[reader]?.bind session.shelf.linked?
  rw [getElem?_sources_straight]
  cases session.sources[source]? with
  | none => rfl
  | some found =>
      show ((found.links.map Link.straight)[reader]?.bind session.shelf.linked?) =
        found.links[reader]?.bind session.shelf.linked?
      rw [List.getElem?_map]
      cases found.links[reader]? with
      | none => rfl
      | some link =>
          show session.shelf.linked? link.straight = session.shelf.linked? link
          rw [Shelf.linked?_eq, Shelf.linked?_eq]
          rfl

theorem alike_read (session : Session) (source reader : Nat) (accessor : Accessor) :
    Alike (session.read source reader accessor).result
      (session.straight.read source reader accessor).result := by
  rw [read, read, reading?_straight]
  cases session.reading? source reader with
  | none => exact alike_self session _
  | some reading => exact alike_replyTo session _

theorem alike_readValue (session : Session) (source reader : Nat) (type : PhysicalType) :
    Alike (session.readValue source reader type).result
      (session.straight.readValue source reader type).result := by
  rw [readValue, readValue, reading?_straight]
  cases session.reading? source reader with
  | none => exact alike_self session _
  | some reading => exact alike_replyTo session _

theorem alike_get (session : Session) (snapshot index : Nat) (question : Question) :
    Alike (session.get snapshot index question).result
      (session.straight.get snapshot index question).result := by
  rw [get, get, snapshots_straight]
  cases session.snapshots[snapshot]? with
  | none => exact alike_self session _
  | some snapshot => exact alike_replyTo session _

theorem alike_showBound (session : Session) (bound : Nat) :
    Alike (session.showBound bound).result (session.straight.showBound bound).result := by
  rw [showBound, showBound, getElem?_bounds_straight]
  cases session.bounds[bound]? with
  | none => exact alike_self session _
  | some counted =>
      simp only [Option.map_some, BoundSieve.text_mapReaders]
      exact alike_self session _

theorem alike_compare (session : Session) (left right : Nat) :
    Alike (session.compare left right).result (session.straight.compare left right).result := by
  rw [compare, compare, snapshots_straight]
  cases session.snapshots[left]? with
  | none => exact alike_self session _
  | some _ =>
      cases session.snapshots[right]? with
      | none => exact alike_self session _
      | some _ => exact alike_self session _

theorem alike_cursors (session : Session) (source : Nat) :
    Alike (session.cursors source).result (session.straight.cursors source).result := by
  rw [cursors, cursors, getElem?_sources_straight]
  cases session.sources[source]? with
  | none => exact alike_self session _
  | some found =>
      simp only [Option.map_some, Source.ownColumns_straight]
      exact alike_self session _

theorem alike_nulls (session : Session) (source : Nat) :
    Alike (session.nulls source).result (session.straight.nulls source).result := by
  rw [nulls, nulls, getElem?_sources_straight]
  cases session.sources[source]? with
  | none => exact alike_self session _
  | some found =>
      simp only [Option.map_some, Source.straight, linkedReadings_straight]
      exact alike_self session _

theorem alike_tellApplications (session : Session) (sieve : Nat) :
    Alike (session.tellApplications sieve).result
      (session.straight.tellApplications sieve).result := by
  rw [tellApplications, tellApplications, sieves_straight]
  cases session.sieves[sieve]? with
  | none => exact alike_self session _
  | some counted => exact alike_self session _

theorem alike_showSieve (session : Session) (sieve : Nat) :
    Alike (session.showSieve sieve).result (session.straight.showSieve sieve).result := by
  rw [showSieve, showSieve, sieves_straight]
  cases session.sieves[sieve]? with
  | none => exact alike_self session _
  | some counted => exact alike_self session _

theorem alike_values (session : Session) (snapshot : Nat) :
    Alike (session.values snapshot).result (session.straight.values snapshot).result := by
  rw [values, values, snapshots_straight]
  cases session.snapshots[snapshot]? with
  | none => exact alike_self session _
  | some kept => exact alike_self session _

/-!
## Steps that make sieves, judge rows or load

Binding goes by the paths of the readers, and a bound sieve by what is behind its links.
-/

theorem alike_openSieve (session : Session) (sieve : Except Failure Sieve) :
    Alike (session.openSieve sieve).result (session.straight.openSieve sieve).result := by
  cases sieve with
  | error failure => exact alike_self session _
  | ok sieve => exact alike_of_commutes (fun before => before.addSieve sieve) rfl _

theorem alike_withDelimiter (session : Session) (sieve : Nat) (delimiter : Char) :
    Alike (session.withDelimiter sieve delimiter).result
      (session.straight.withDelimiter sieve delimiter).result := by
  rw [withDelimiter, withDelimiter, sieves_straight]
  cases session.sieves[sieve]? with
  | none => exact alike_self session _
  | some counted =>
      simp only
      cases counted.content.withOptions (Options.standard.withDelimiter delimiter) with
      | error failure => exact alike_self session _
      | ok derived =>
          exact alike_of_commutes (fun before => before.addDerived derived counted.counter) rfl _

theorem alike_isMatch (session : Session) (bound : Nat) :
    Alike (session.isMatch bound).result (session.straight.isMatch bound).result := by
  rw [isMatch, isMatch, getElem?_bounds_straight]
  cases session.bounds[bound]? with
  | none => exact alike_self session _
  | some counted =>
      simp only [Option.map_some, BoundSieve.behindLinks_straight]
      exact alike_of_commutes (fun before => before.count counted.counter _) rfl _

theorem alike_evaluate (session : Session) (source bound : Nat) :
    Alike (session.step (.evaluate source bound)).result
      (session.straight.step (.evaluate source bound)).result := by
  rw [step_evaluate, step_evaluate]
  have hevaluable : session.straight.evaluable? source bound =
      (session.evaluable? source bound).map fun parts =>
        (parts.1.straight, parts.2.1,
          ⟨parts.2.2.content.mapReaders Link.straight, parts.2.2.counter⟩) := by
    rw [evaluable?, evaluable?, getElem?_sources_straight, getElem?_bounds_straight]
    cases session.sources[source]? with
    | none => rfl
    | some found =>
        cases session.bounds[bound]? with
        | none => rfl
        | some counted =>
            rcases found with ⟨links, origin⟩
            cases origin <;> rfl
  rw [hevaluable]
  cases session.evaluable? source bound with
  | none => exact alike_self session _
  | some parts =>
      rcases parts with ⟨found, batch, counted⟩
      simp only [Option.map_some, BoundSieve.behindLinks_straight, Source.handles_straight,
        shelf_straight]
      generalize counted.content.behindLinks.evaluate found.handles batch.rows session.shelf =
        judged
      exact alike_of_commutes
        (fun before =>
          { before.count counted.counter judged.applications with shelf := judged.result.2 })
        rfl _

theorem alike_siftWith {α : Type} (session : Session) (source sieve : Nat)
    (sifting : Batch → Sieve → Traced (Except Failure α)) (answer : α → Answer) :
    Alike (session.siftWith source sieve sifting answer).result
      (session.straight.siftWith source sieve sifting answer).result := by
  have hbatch : session.straight.sources[source]?.bind Source.batch? =
      session.sources[source]?.bind Source.batch? := by
    rw [getElem?_sources_straight]
    cases session.sources[source]? <;> rfl
  rw [siftWith, siftWith, hbatch, sieves_straight]
  cases session.sources[source]?.bind Source.batch? with
  | none => exact alike_self session _
  | some batch =>
      cases session.sieves[sieve]? with
      | none => exact alike_self session _
      | some counted =>
          simp only [Traced.result_bind]
          cases (sifting batch counted.content).result with
          | error failure =>
              exact alike_of_commutes (fun before => before.count counted.counter _) rfl _
          | ok result =>
              exact alike_of_commutes (fun before => before.count counted.counter _) rfl _

theorem alike_load (session : Session) (group : ReaderGroup) (types : Option (List PhysicalType)) :
    Alike (session.load group types).result (session.straight.load group types).result := by
  -- the links of the group differ, what they show does not
  have hreadings : (session.straight.groupLinks group).map session.shelf.linkedReadings =
      (session.groupLinks group).map session.shelf.linkedReadings := by
    cases group with
    | source source =>
        simp only [groupLinks, getElem?_sources_straight, Option.map_map]
        congr 1
        funext found
        exact linkedReadings_straight session.shelf found.links
    | bound bound =>
        simp only [groupLinks, getElem?_bounds_straight, Option.map_map]
        congr 1
        funext counted
        simp only [Function.comp_apply, Shelf.linkedReadings_eq, BoundSieve.mapReaders,
          List.map_map]
        rfl
  rw [load, load]
  cases hlinks : session.groupLinks group with
  | none =>
      rw [hlinks, Option.map_none, Option.map_eq_none_iff] at hreadings
      rw [hreadings]
      exact alike_self session _
  | some links =>
      rw [hlinks, Option.map_some] at hreadings
      rcases Option.map_eq_some_iff.mp hreadings with ⟨others, hothers, hsame⟩
      rw [hothers]
      simp only [shelf_straight, hsame]
      split
      · exact alike_self session _
      · exact alike_of_commutes (fun before => before.addSnapshot _) rfl _

/-!
## Steps that move cursors or set values
-/

theorem alike_set (session : Session) (source reader : Nat) (value : Value) :
    Alike (session.step (.set source reader value)).result
      (session.straight.step (.set source reader value)).result := by
  rw [step_set, step_set, settable?_straight]
  cases session.settable? source reader with
  | none => exact alike_self session _
  | some handle =>
      exact alike_of_commutes
        (fun before => { before with shelf := before.shelf.set handle value }) rfl _

theorem alike_seek (session : Session) (source row : Nat) (reader : Option Nat) :
    Alike (session.step (.seek source row reader)).result
      (session.straight.step (.seek source row reader)).result := by
  rw [step_seek, step_seek, addressed_straight]
  cases session.addressed source reader with
  | none => exact alike_self session _
  | some handles =>
      exact alike_of_commutes
        (fun before => { before with shelf := before.shelf.seek handles row }) rfl _

/-!
## Any step, any run
-/

/-- How links lead to readers makes no difference to what a step answers. -/
theorem alike_step (session : Session) (step : Step) :
    Alike (session.step step).result (session.straight.step step).result := by
  cases step with
  | openBatch batch => exact alike_openBatch session batch
  | openColumns columns => exact alike_openColumns session columns
  | openSettables readers => exact alike_openReaders session _ _
  | duplicate source => exact alike_duplicate session source
  | share source => exact alike_share session source
  | pick readers => exact alike_pick session readers
  | set source reader value => exact alike_set session source reader value
  | seek source row reader => exact alike_seek session source row reader
  | cursors source => exact alike_cursors session source
  | nulls source => exact alike_nulls session source
  | read source reader accessor => exact alike_read session source reader accessor
  | readValue source reader type => exact alike_readValue session source reader type
  | ofColumns paths predicate => exact alike_openSieve session _
  | build calls => exact alike_openSieve session _
  | withDelimiter sieve delimiter => exact alike_withDelimiter session sieve delimiter
  | applications sieve => exact alike_tellApplications session sieve
  | showSieve sieve => exact alike_showSieve session sieve
  | showBound bound => exact alike_showBound session bound
  | bind sieve source => exact alike_bind session sieve source
  | isMatch bound => exact alike_isMatch session bound
  | evaluate source bound => exact alike_evaluate session source bound
  | matchMask source sieve => exact alike_siftWith session source sieve _ _
  | matchingRows source sieve => exact alike_siftWith session source sieve _ _
  | sift source sieve => exact alike_siftWith session source sieve _ _
  | load group types => exact alike_load session group types
  | get snapshot index question => exact alike_get session snapshot index question
  | values snapshot => exact alike_values session snapshot
  | compare left right => exact alike_compare session left right

/-- What is answered to the steps of a run, one answer for each. -/
def answers (session : Session) : List Step → List (Except Refusal Answer)
  | [] => []
  | step :: rest => (session.step step).result.2 :: answers (session.step step).result.1 rest

theorem answers_straight (session : Session) (steps : List Step) :
    session.straight.answers steps = session.answers steps := by
  induction steps generalizing session with
  | nil => rfl
  | cons step rest ih =>
      rcases alike_step session step with ⟨hanswer, hstraight⟩
      rw [answers, answers, hanswer, ← ih (session.step step).result.1, hstraight, ih]

/-- Sessions that differ only in how links lead to readers answer all steps the same, for ever. -/
theorem answers_eq_of_straight_eq (hsame : left.straight = right.straight) (steps : List Step) :
    left.answers steps = right.answers steps := by
  rw [← answers_straight left, hsame, answers_straight right]

end Session
end RowSieve
