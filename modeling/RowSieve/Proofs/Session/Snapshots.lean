import RowSieve.Proofs.Session.Transparency
import RowSieve.Proofs.Snapshot.Retelling

/-!
# What snapshots tell

A snapshot tells what its readers showed when it was loaded.  Readers that are moved or set later,
or anything else that is done in the session, change none of its answers.
-/

namespace RowSieve

/-- What a snapshot answers when it is asked about one of its values. -/
def Snapshot.answer (snapshot : Snapshot) (index : Nat) : Question → Except Failure Answer
  | .payload accessor => (snapshot.get index accessor).map (.payload accessor)
  | .text => (snapshot.getText index).map .text
  | .value => (snapshot.value index).map .value
  | .type => (snapshot.physicalType index).map .type

theorem Snapshot.answer_outside {snapshot : Snapshot} {index : Nat}
    (hindex : snapshot.values.length ≤ index) (question : Question) :
    snapshot.answer index question =
      .error (.indexOutOfBounds index snapshot.values.length) := by
  cases question with
  | payload accessor =>
      rw [answer, get_outside hindex]
      rfl
  | text =>
      rw [answer, getText_outside hindex]
      rfl
  | value =>
      rw [answer, value_outside hindex]
      rfl
  | type =>
      rw [answer, physicalType_outside hindex]
      rfl

theorem Shelf.forall₂_linkedReadings {shelf : Shelf} {links : List Link}
    (hinside : ∀ link ∈ links, link.handle < shelf.length) :
    List.Forall₂ (fun link reading => shelf.linked? link = some reading) links
      (shelf.linkedReadings links) := by
  induction links with
  | nil => exact .nil
  | cons link rest ih =>
      rcases List.forall_mem_cons.mp hinside with ⟨hhere, hrest⟩
      have hshown : shelf.linked? link = some shelf[link.handle].reading := by
        rw [linked?_eq, List.getElem?_eq_getElem hhere]
        rfl
      rw [linkedReadings, List.filterMap_cons_some hshown]
      exact .cons hshown (ih hrest)

namespace Session

variable {session : Session} {group : ReaderGroup} {types : Option (List PhysicalType)}
  {number : Nat}

/-!
## Loading
-/

theorem inside_of_groupLinks (hsound : session.Sound) {links : List Link}
    (hlinks : session.groupLinks group = some links) :
    ∀ link ∈ links, link.handle < session.shelf.length := by
  cases group with
  | source source =>
      rcases Option.map_eq_some_iff.mp hlinks with ⟨found, hsource, hgroup⟩
      rw [← hgroup]
      exact hsound.inside found (List.mem_of_getElem? hsource)
  | bound bound =>
      rcases Option.map_eq_some_iff.mp hlinks with ⟨counted, hbound, hgroup⟩
      rw [← hgroup]
      intro link hlink
      rcases List.mem_map.mp hlink with ⟨target, htarget, hreference⟩
      rw [← hreference]
      exact hsound.bounds_inside counted (List.mem_of_getElem? hbound) target htarget

/-- What is loaded through links: the values under the given types or under the declared ones. -/
def loadFrom (session : Session) (links : List Link) (types : Option (List PhysicalType)) :
    Except Failure Snapshot :=
  let readings := session.shelf.linkedReadings links
  Snapshot.load readings (types.getD (readings.map Reading.declared))

theorem loadFrom_none (session : Session) (links : List Link) :
    session.loadFrom links none = Snapshot.loadDeclared (session.shelf.linkedReadings links) :=
  Snapshot.load_declared _

theorem load_refused {links : List Link} (hlinks : session.groupLinks group = some links)
    {failure : Failure} (hload : session.loadFrom links types = .error failure) :
    session.load group types = session.fail failure := by
  rw [load, hlinks]
  cases types with
  | some types =>
      have hgiven : Snapshot.load _ types = .error failure := hload
      simp only [hgiven]
  | none =>
      rw [loadFrom_none] at hload
      simp only [hload]

theorem load_accepted {links : List Link} (hlinks : session.groupLinks group = some links)
    {snapshot : Snapshot} (hload : session.loadFrom links types = .ok snapshot) :
    session.load group types =
      (session.addSnapshot snapshot).reply
        (.snapshot session.snapshots.length snapshot.values) := by
  rw [load, hlinks]
  cases types with
  | some types =>
      have hgiven : Snapshot.load _ types = .ok snapshot := hload
      simp only [hgiven]
  | none =>
      rw [loadFrom_none] at hload
      simp only [hload]

theorem loaded_of_step {values : List Value}
    (hloaded : (session.step (.load group types)).result.2 = .ok (.snapshot number values)) :
    ∃ links snapshot, session.groupLinks group = some links ∧
      session.loadFrom links types = .ok snapshot ∧ snapshot.values = values ∧
      number = session.snapshots.length ∧
      (session.step (.load group types)).result.1 = session.addSnapshot snapshot := by
  rw [show session.step (.load group types) = session.load group types from rfl] at hloaded ⊢
  cases hlinks : session.groupLinks group with
  | none =>
      rw [load, hlinks] at hloaded
      cases hloaded
  | some links =>
      cases hload : session.loadFrom links types with
      | error failure =>
          rw [load_refused hlinks hload] at hloaded
          cases hloaded
      | ok snapshot =>
          rw [load_accepted hlinks hload] at hloaded ⊢
          cases hloaded
          exact ⟨links, snapshot, rfl, hload, rfl, rfl, rfl⟩

/-!
## Asking
-/

theorem step_get {snapshot : Snapshot} (hsnapshot : session.snapshots[number]? = some snapshot)
    (index : Nat) (question : Question) :
    (session.step (.get number index question)).result =
      (session, (snapshot.answer index question).mapError .failed) := by
  have hreply : ∀ answer : Except Failure Answer,
      (session.replyTo answer).result = (session, answer.mapError .failed) := by
    intro answer
    cases answer <;> rfl
  show (session.get number index question).result = _
  rw [get, hsnapshot]
  cases question <;> exact hreply _

/-- A snapshot answers after any run as it did when it was made. -/
theorem step_get_of_made (snapshot : Snapshot) (more : List Step) (index : Nat)
    (question : Question) :
    (((session.addSnapshot snapshot).run more).step
        (.get session.snapshots.length index question)).result =
      ((session.addSnapshot snapshot).run more,
        (snapshot.answer index question).mapError .failed) := by
  have hmade : (session.addSnapshot snapshot).snapshots[session.snapshots.length]? =
      some snapshot := List.getElem?_concat_length
  have hkept := getElem?_of_grown (extends_run (session.addSnapshot snapshot) more).snapshots hmade
  exact step_get hkept index question

/-- A snapshot gives back what was loaded and nothing else.  Beyond its values every question is
refused.  At a place it gives the payload that the reading there gave for the type there, to the one
accessor for that type; other accessors, and who asks for a text where there are no bytes of free
length, are told the type.  So a place answers to one accessor, or to one and as a text.  In a
session that can come about the answers of a snapshot stay the same through any run, whatever
becomes of the readers it was loaded from. -/
theorem snapshots_tell_what_was_loaded :
    (∀ (readings : List (Reading Failure)) (types : List PhysicalType) (snapshot : Snapshot),
      Snapshot.load readings types = .ok snapshot →
      (∀ index, readings.length ≤ index → ∀ question,
        snapshot.answer index question = .error (.indexOutOfBounds index readings.length)) ∧
      ∀ index reading type, readings[index]? = some reading → types[index]? = some type →
        snapshot.Retells index reading type ∧
        (∀ (accessor other : Accessor) payload another,
          snapshot.get index accessor = .ok payload → snapshot.get index other = .ok another →
          accessor = other) ∧
        ∀ text (accessor : Accessor) payload,
          snapshot.getText index = .ok text → snapshot.get index accessor = .ok payload →
          type = .binary ∧ accessor = .binary) ∧
    ∀ steps group types number values,
      let session := empty.run steps
      let after := (session.step (.load group types)).result
      after.2 = .ok (.snapshot number values) →
      ∃ links shown made, session.groupLinks group = some links ∧
        List.Forall₂ (fun link reading => session.shelf.linked? link = some reading) links shown ∧
        Snapshot.load shown (types.getD (shown.map Reading.declared)) = .ok made ∧
        made.values = values ∧
        ∀ more index question, ((after.1.run more).step (.get number index question)).result =
          (after.1.run more, (made.answer index question).mapError .failed) := by
  constructor
  · intro readings types snapshot hload
    constructor
    · intro index hindex question
      rw [← Snapshot.length_values_of_load hload] at hindex ⊢
      exact Snapshot.answer_outside hindex question
    · intro index reading type hreading htype
      have hretells := Snapshot.retells_of_load hload hreading htype
      refine ⟨hretells, ?_, ?_⟩
      · intro accessor other payload another hget hother
        exact hretells.accessor_eq hget hother
      · intro text accessor payload htext hget
        exact hretells.binary_of_text htext hget
  · intro steps group types number values session after hloaded
    rcases loaded_of_step hloaded with ⟨links, made, hlinks, hmade, hvalues, hnumber, hafter⟩
    have hsound : session.Sound := sound_run sound_empty steps
    refine ⟨links, session.shelf.linkedReadings links, made, hlinks, ?_, hmade, hvalues, ?_⟩
    · exact Shelf.forall₂_linkedReadings (inside_of_groupLinks hsound hlinks)
    · intro more index question
      rw [hnumber, show after.1 = session.addSnapshot made from hafter]
      exact step_get_of_made made more index question

/-- A year, a name and a badge are kept, the badge as bytes of fixed length.  The year is set to
something that is no number after that, and the snapshot still tells the year. -/
theorem snapshots_tell_what_was_loaded_badge :
    let readers : List (ColumnPath × PhysicalType × Value) :=
      [(["year"], .int32, .int32 1998), (["name"], .binary, .binary [69, 111, 115]),
        (["badge"], .fixedLenByteArray, .fixedLenByteArray [7, 9])]
    let readings := readers.map fun reader =>
      (Reader.settable reader.1 reader.2.1 reader.2.2).reading
    let kept : Snapshot := ⟨readers.map fun reader => reader.2.2⟩
    let loaded := ((empty.run [.openSettables readers]).step (.load (.source 0) none)).result
    Snapshot.load readings [.int32, .binary, .fixedLenByteArray] = .ok kept ∧
    (∀ question, kept.answer 3 question = .error (.indexOutOfBounds 3 3)) ∧
    kept.get 0 .long = .error (.typeMismatch 0 .int64 .int32) ∧
    (∃ payload, kept.get 2 .binary = .ok payload) ∧
    kept.getText 2 = .error (.typeMismatch 2 .binary .fixedLenByteArray) ∧
    loaded.2 = .ok (.snapshot 0 kept.values) ∧
    ((loaded.1.run [.set 0 0 (.boolean true)]).step (.get 0 0 (.payload .integer))).result.2 =
      .ok (.payload .integer 1998) := by
  intro readers readings kept loaded
  have hload : Snapshot.load readings [.int32, .binary, .fixedLenByteArray] = .ok kept := rfl
  have hloaded : loaded.2 = .ok (.snapshot 0 kept.values) := rfl
  rcases snapshots_tell_what_was_loaded with ⟨hloads, hsessions⟩
  rcases hloads readings _ kept hload with ⟨houtside, hinside⟩
  rcases hinside 0 _ _ rfl rfl with ⟨hyear, _⟩
  rcases hinside 2 _ _ rfl rfl with ⟨hbadge, _⟩
  rcases hsessions [.openSettables readers] (.source 0) none 0 kept.values hloaded with
    ⟨links, shown, made, _, _, _, hvalues, hanswers⟩
  have hmade : made = kept := congrArg Snapshot.mk hvalues
  refine ⟨hload, houtside 3 (by decide), hyear.refused .long (by decide),
    (hbadge.given_iff .binary).mpr (by decide), hbadge.no_text (by decide), hloaded, ?_⟩
  rw [hanswers [.set 0 0 (.boolean true)] 0 (.payload .integer), hmade]
  rfl

end Session
end RowSieve
