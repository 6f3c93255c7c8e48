import RowSieve.Session.Step
import RowSieve.Sieve.Sift

/-!
# Running a session

Each step either is answered or refused.  A refused step makes nothing, and a step that names
something that does not exist does nothing at all.  What a step logs, and how often it applies a
predicate, is traced; the applications are added to the counter of the sieve they belong to.
-/

namespace RowSieve
namespace Session

/-- The session after a step, with the answer. -/
abbrev Reply := Traced (Session × Except Refusal Answer)

def noSuchSlot (session : Session) : Reply :=
  return (session, .error .noSuchSlot)

def fail (session : Session) (failure : Failure) : Reply :=
  return (session, .error (.failed failure))

def reply (session : Session) (answer : Answer) : Reply :=
  return (session, .ok answer)

def replyTo (session : Session) (answer : Except Failure Answer) : Reply :=
  match answer with
  | .ok answer => session.reply answer
  | .error failure => session.fail failure

/-! ## Sources -/

/-- Makes a source of readers that are put on the shelf for it. -/
def openReaders (session : Session) (readers : List Reader) (origin : Origin) : Reply :=
  (session.addReaders readers origin).reply
    (.source session.sources.length (readers.map fun reader => (reader.path, reader.declared)))

/-- Makes a source of the leaves of a batch. -/
def openBatch (session : Session) (batch : Batch) : Reply := do
  let readers := Shelf.ofColumns batch.leafColumns
  Traced.logAll batch.skippedEvents
  (session.addReaders readers (.batch batch)).reply
    (.batchSource session.sources.length
      (readers.map fun reader => (reader.path, reader.declared)) batch.rows)

/-- Makes a source of single columns, unless one of them cannot be read. -/
def openColumns (session : Session) (columns : List (ColumnPath × Column)) : Reply :=
  match columns.mapM fun column => LeafColumn.ofColumn column.1 column.2 with
  | .error failure => session.fail failure
  | .ok columns => session.openReaders (Shelf.ofColumns columns) .columns

def openSettables (session : Session) (readers : List (ColumnPath × PhysicalType × Value)) :
    Reply :=
  session.openReaders (readers.map fun reader => .settable reader.1 reader.2.1 reader.2.2) .settable

/-- Makes a source of copies of a source's columns, which start where those stand. -/
def duplicate (session : Session) (source : Nat) : Reply :=
  match session.sources[source]? with
  | none => session.noSuchSlot
  | some source =>
      session.openReaders (source.ownColumns.filterMap fun handle => session.shelf[handle]?)
        .columns

/-- Makes a source of links to readers that are on the shelf already. -/
def shareLinks (session : Session) (links : List Link) : Reply :=
  (session.addShared links).reply
    (.source session.sources.length
      ((session.shelf.linkedReadings links).map fun reading => (reading.path, reading.declared)))

/-- Makes a source of one more reference to each of a source's readers. -/
def share (session : Session) (source : Nat) : Reply :=
  match session.sources[source]? with
  | none => session.noSuchSlot
  | some source => session.shareLinks (source.links.map .reference)

def pick (session : Session) (readers : List (Nat × Nat)) : Reply :=
  match session.pickLinks readers with
  | none => session.noSuchSlot
  | some links => session.shareLinks links

/-! ## Readers -/

def set (session : Session) (source reader : Nat) (value : Value) : Reply :=
  match session.sources[source]?.bind fun source => source.ownSettables[reader]? with
  | none => session.noSuchSlot
  | some handle => ({ session with shelf := session.shelf.set handle value } : Session).reply .done

def seek (session : Session) (source row : Nat) (reader : Option Nat) : Reply :=
  match session.sources[source]? with
  | none => session.noSuchSlot
  | some source =>
      match reader with
      | none =>
          ({ session with shelf := session.shelf.seek source.ownColumns row } : Session).reply .done
      | some reader =>
          match source.ownColumns[reader]? with
          | none => session.noSuchSlot
          | some handle =>
              ({ session with shelf := session.shelf.seek [handle] row } : Session).reply .done

def cursors (session : Session) (source : Nat) : Reply :=
  match session.sources[source]? with
  | none => session.noSuchSlot
  | some source =>
      let cursors := source.ownColumns.filterMap fun handle =>
        session.shelf[handle]?.bind Reader.cursor?
      session.reply (.cursors (cursors.map fun cursor => cursor.1)
        (cursors.map fun cursor => cursor.2))

def nulls (session : Session) (source : Nat) : Reply :=
  match session.sources[source]? with
  | none => session.noSuchSlot
  | some source =>
      session.reply (.nulls ((session.shelf.linkedReadings source.links).map Reading.isNull))

def reading? (session : Session) (source reader : Nat) : Option (Reading Failure) := do
  let source ← session.sources[source]?
  let link ← source.links[reader]?
  session.shelf.linked? link

def read (session : Session) (source reader : Nat) (accessor : Accessor) : Reply :=
  match session.reading? source reader with
  | none => session.noSuchSlot
  | some reading => session.replyTo ((reading.get accessor).map (.payload accessor))

def readValue (session : Session) (source reader : Nat) (type : PhysicalType) : Reply :=
  match session.reading? source reader with
  | none => session.noSuchSlot
  | some reading => session.replyTo ((reading.read type).map .value)

/-! ## Sieves -/

/-- The answer that describes the sieve of the given number. -/
def sieveAnswer (number : Nat) (sieve : Sieve) : Answer :=
  .sieve number sieve.paths sieve.options.delimiter

def openSieve (session : Session) (sieve : Except Failure Sieve) : Reply :=
  match sieve with
  | .error failure => session.fail failure
  | .ok sieve => (session.addSieve sieve).reply (sieveAnswer session.sieves.length sieve)

def withDelimiter (session : Session) (sieve : Nat) (delimiter : Char) : Reply :=
  match session.sieves[sieve]? with
  | none => session.noSuchSlot
  | some counted =>
      match counted.content.withOptions (Options.standard.withDelimiter delimiter) with
      | .error failure => session.fail failure
      | .ok derived =>
          (session.addDerived derived counted.counter).reply
            (sieveAnswer session.sieves.length derived)

def tellApplications (session : Session) (sieve : Nat) : Reply :=
  match session.sieves[sieve]? with
  | none => session.noSuchSlot
  | some counted => session.reply (.applications (session.applications counted.counter))

def showSieve (session : Session) (sieve : Nat) : Reply :=
  match session.sieves[sieve]? with
  | none => session.noSuchSlot
  | some counted => session.reply (.shown counted.content.text)

def showBound (session : Session) (bound : Nat) : Reply :=
  match session.bounds[bound]? with
  | none => session.noSuchSlot
  | some counted => session.reply (.shown counted.content.text)

def bind (session : Session) (sieve source : Nat) : Reply :=
  match session.sieves[sieve]?, session.sources[source]? with
  | some counted, some source => do
      let bound ← counted.content.bind
        (fun reader => session.shelf.linkedPath reader.1) source.links.zipIdx
      match bound with
      | .error failure => session.fail failure
      | .ok bound =>
          (session.addBound (bound.mapReaders fun reader => reader.1) counted.counter).reply
            (.bound session.bounds.length (bound.readers.map fun reader => reader.2))
  | _, _ => session.noSuchSlot

/-! ## Judging rows -/

def isMatch (session : Session) (bound : Nat) : Reply :=
  match session.bounds[bound]? with
  | none => session.noSuchSlot
  | some counted =>
      let judged := counted.content.behindLinks.isMatch session.shelf
      let after := session.count counted.counter judged.applications
      do
        let verdict ← judged
        after.reply (.verdict verdict (after.applications counted.counter))

/-- Judges every row of a source's batch, moving the cursors of that source. -/
def evaluate (session : Session) (source bound : Nat) : Reply :=
  match session.sources[source]?, session.bounds[bound]? with
  | some source, some counted =>
      match source.batch? with
      | none => session.noSuchSlot
      | some batch =>
          let judged :=
            counted.content.behindLinks.evaluate source.handles batch.rows session.shelf
          let after := session.count counted.counter judged.applications
          do
            let (mask, shelf) ← judged
            ({ after with shelf := shelf } : Session).reply
              (.evaluated mask (after.applications counted.counter))
  | _, _ => session.noSuchSlot

/-- Sifts the batch of a source in one of the ways that leave the shelf alone. -/
def siftWith {α : Type} (session : Session) (source sieve : Nat)
    (sifting : Batch → Sieve → Traced (Except Failure α)) (answer : α → Answer) : Reply :=
  match session.sources[source]?.bind Source.batch?, session.sieves[sieve]? with
  | some batch, some counted =>
      let sifted := sifting batch counted.content
      do
        let result ← sifted
        (session.count counted.counter sifted.applications).replyTo (result.map answer)
  | _, _ => session.noSuchSlot

/-! ## Snapshots -/

/-- The readers of a group; those of a bound sieve are given by reference. -/
def groupLinks (session : Session) : ReaderGroup → Option (List Link)
  | .source source => session.sources[source]?.map Source.links
  | .bound bound =>
      session.bounds[bound]?.map fun counted => counted.content.readers.map .reference

def load (session : Session) (group : ReaderGroup) (types : Option (List PhysicalType)) : Reply :=
  match session.groupLinks group with
  | none => session.noSuchSlot
  | some links =>
      let readings := session.shelf.linkedReadings links
      let loaded :=
        match types with
        | some types => Snapshot.load readings types
        | none => Snapshot.loadDeclared readings
      match loaded with
      | .error failure => session.fail failure
      | .ok snapshot =>
          (session.addSnapshot snapshot).reply
            (.snapshot session.snapshots.length snapshot.values)

def get (session : Session) (snapshot index : Nat) (question : Question) : Reply :=
  match session.snapshots[snapshot]? with
  | none => session.noSuchSlot
  | some snapshot =>
      session.replyTo <|
        match question with
        | .payload accessor => (snapshot.get index accessor).map (.payload accessor)
        | .text => (snapshot.getText index).map .text
        | .value => (snapshot.value index).map .value
        | .type => (snapshot.physicalType index).map .type

def values (session : Session) (snapshot : Nat) : Reply :=
  match session.snapshots[snapshot]? with
  | none => session.noSuchSlot
  | some snapshot => session.reply (.values snapshot.values)

def compare (session : Session) (left right : Nat) : Reply :=
  match session.snapshots[left]?, session.snapshots[right]? with
  | some left, some right => session.reply (.equal (left.equals right))
  | _, _ => session.noSuchSlot

/-! ## Steps -/

/-- The session after a step, with the answer. -/
def step (session : Session) : Step → Reply
  | .openBatch batch => session.openBatch batch
  | .openColumns columns => session.openColumns columns
  | .openSettables readers => session.openSettables readers
  | .duplicate source => session.duplicate source
  | .share source => session.share source
  | .pick readers => session.pick readers
  | .set source reader value => session.set source reader value
  | .seek source row reader => session.seek source row reader
  | .cursors source => session.cursors source
  | .nulls source => session.nulls source
  | .read source reader accessor => session.read source reader accessor
  | .readValue source reader type => session.readValue source reader type
  | .ofColumns paths predicate => session.openSieve (.ok (Sieve.ofColumns paths predicate))
  | .build calls => session.openSieve (Draft.ofCalls calls).build
  | .withDelimiter sieve delimiter => session.withDelimiter sieve delimiter
  | .applications sieve => session.tellApplications sieve
  | .showSieve sieve => session.showSieve sieve
  | .showBound bound => session.showBound bound
  | .bind sieve source => session.bind sieve source
  | .isMatch bound => session.isMatch bound
  | .evaluate source bound => session.evaluate source bound
  | .matchMask source sieve => session.siftWith source sieve Batch.matchMask .mask
  | .matchingRows source sieve => session.siftWith source sieve Batch.matchingRows .rows
  | .sift source sieve => session.siftWith source sieve Batch.sift .batch
  | .load group types => session.load group types
  | .get snapshot index question => session.get snapshot index question
  | .values snapshot => session.values snapshot
  | .compare left right => session.compare left right

def run (session : Session) : List Step → Session
  | [] => session
  | step :: steps => run (session.step step).result.1 steps

end Session
end RowSieve
