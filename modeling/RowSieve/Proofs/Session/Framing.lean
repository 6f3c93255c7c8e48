import RowSieve.Proofs.Batch.Rows
import RowSieve.Proofs.Session.Ownership

/-!
# What a step leaves alone

Only three kinds of steps touch readers that are there already: one moves the cursors it is
addressed to, one moves those of the batch that is evaluated, and one sets a value.  No step changes
a sieve, a bound sieve or a snapshot once it is made, and a refused step makes none and moves
nothing.
-/

namespace RowSieve

/-- The step is of a kind that moves cursors or sets values. -/
def Step.Disturbs : Step → Prop
  | .set .. | .seek .. | .evaluate .. => True
  | _ => False

namespace Shelf

/-- Behind the handles are leaf columns, which come to stand at `row`, and all other readers are as
before. -/
structure Moves (handles : List Handle) (row : Nat) (before after : Shelf) : Prop where
  length_eq : after.length = before.length
  moved : ∀ handle ∈ handles, ∃ column cursor, before[handle]? = some (.leaf column cursor) ∧
    after[handle]? = some (.leaf column row)
  others : ∀ handle, handle ∉ handles → after[handle]? = before[handle]?

/-- Behind the handle is a settable reader, which gets the value, and all other readers are as
before. -/
structure Sets (handle : Handle) (value : Value) (before after : Shelf) : Prop where
  length_eq : after.length = before.length
  valued : ∃ path declared current, before[handle]? = some (.settable path declared current) ∧
    after[handle]? = some (.settable path declared value)
  others : ∀ other, other ≠ handle → after[other]? = before[other]?

variable {shelf : Shelf}

theorem moves_seek {handles : List Handle}
    (hleaves : ∀ handle ∈ handles, ∃ column cursor, shelf[handle]? = some (.leaf column cursor))
    (row : Nat) :
    Moves handles row shelf (shelf.seek handles row) := by
  have hmoved := movedTo_seek handles row shelf
  constructor
  · exact hmoved.length_eq
  · intro handle hhandle
    rcases hleaves handle hhandle with ⟨column, cursor, hreader⟩
    exact ⟨column, cursor, hreader, hmoved.moved handle hhandle column cursor hreader⟩
  · exact hmoved.others

theorem sets_set {handle : Handle}
    (hsettable : ∃ path declared current, shelf[handle]? = some (.settable path declared current))
    (value : Value) :
    Sets handle value shelf (shelf.set handle value) := by
  constructor
  · exact length_set handle value shelf
  · rcases hsettable with ⟨path, declared, current, hreader⟩
    refine ⟨path, declared, current, hreader, ?_⟩
    rw [getElem?_set, hreader, Option.map_some, if_pos rfl]
    rfl
  · intro other hother
    rw [getElem?_set]
    simp [Ne.symm hother]

end Shelf

namespace Session

/-- All that there is in `before` is in `after` in the same place, cursors and values aside. -/
structure Extends (before after : Session) : Prop where
  shelf : before.shelf.Keeps after.shelf
  sources : before.sources <+: after.sources
  sieves : before.sieves <+: after.sieves
  bounds : before.bounds <+: after.bounds
  snapshots : before.snapshots <+: after.snapshots

/-- Nothing is made, moved or set; applications may have been counted. -/
structure Rests (before after : Session) : Prop where
  shelf : after.shelf = before.shelf
  sources : after.sources = before.sources
  sieves : after.sieves = before.sieves
  bounds : after.bounds = before.bounds
  snapshots : after.snapshots = before.snapshots

variable {session before after : Session} {step : Step} {answer : Except Refusal Answer}

/-!
## Effects
-/

theorem extends_of_effect (heffect : Effect before step after answer) : before.Extends after := by
  have hshelf := before.shelf.keeps_refl
  have hsources := before.sources.prefix_refl
  have hsieves := before.sieves.prefix_refl
  have hbounds := before.bounds.prefix_refl
  have hsnapshots := before.snapshots.prefix_refl
  cases heffect with
  | nothing => exact ⟨hshelf, hsources, hsieves, hbounds, hsnapshots⟩
  | opened _ =>
      exact ⟨Shelf.keeps_append _ _, List.prefix_append _ _, hsieves, hbounds, hsnapshots⟩
  | duplicated _ =>
      exact ⟨Shelf.keeps_append _ _, List.prefix_append _ _, hsieves, hbounds, hsnapshots⟩
  | shared _ => exact ⟨hshelf, List.prefix_append _ _, hsieves, hbounds, hsnapshots⟩
  | picked _ => exact ⟨hshelf, List.prefix_append _ _, hsieves, hbounds, hsnapshots⟩
  | moved _ => exact ⟨Shelf.keeps_seek _ _ _, hsources, hsieves, hbounds, hsnapshots⟩
  | valued _ => exact ⟨Shelf.keeps_set _ _ _, hsources, hsieves, hbounds, hsnapshots⟩
  | sieved _ _ => exact ⟨hshelf, hsources, List.prefix_append _ _, hbounds, hsnapshots⟩
  | derived _ _ => exact ⟨hshelf, hsources, List.prefix_append _ _, hbounds, hsnapshots⟩
  | bound _ _ _ => exact ⟨hshelf, hsources, hsieves, List.prefix_append _ _, hsnapshots⟩
  | counted _ _ _ => exact ⟨hshelf, hsources, hsieves, hbounds, hsnapshots⟩
  | evaluated _ _ _ _ =>
      exact ⟨Shelf.keeps_evaluate _ _ _ _, hsources, hsieves, hbounds, hsnapshots⟩
  | loaded _ => exact ⟨hshelf, hsources, hsieves, hbounds, List.prefix_append _ _⟩

theorem rests_of_refused {refusal : Refusal}
    (heffect : Effect before step after (.error refusal)) :
    before.Rests after := by
  cases heffect with
  | nothing => exact ⟨rfl, rfl, rfl, rfl, rfl⟩
  | counted _ _ _ => exact ⟨rfl, rfl, rfl, rfl, rfl⟩

theorem getElem?_shelf_of_effect (heffect : Effect before step after answer)
    (hstep : ¬ step.Disturbs) {handle : Handle} (hhandle : handle < before.shelf.length) :
    after.shelf[handle]? = before.shelf[handle]? := by
  cases heffect with
  | opened _ => exact List.getElem?_append_left hhandle
  | duplicated _ => exact List.getElem?_append_left hhandle
  | moved _ => exact absurd trivial hstep
  | valued _ => exact absurd trivial hstep
  | evaluated _ _ _ _ => exact absurd trivial hstep
  | _ => rfl

/-!
## The three kinds of steps that disturb

Each of them reaches what it is addressed to, or it is refused.
-/

theorem leaves_of_addressed (hsound : session.Sound) {source : Nat} {reader : Option Nat}
    {handles : List Handle} (haddressed : session.addressed source reader = some handles) :
    ∀ handle ∈ handles, ∃ column cursor, session.shelf[handle]? = some (.leaf column cursor) := by
  rcases Option.bind_eq_some_iff.mp haddressed with ⟨found, hsource, hhandles⟩
  have hfits := hsound.fits found (List.mem_of_getElem? hsource)
  intro handle hhandle
  apply Source.exists_leaf_of_mem hfits
  cases reader with
  | none =>
      cases hhandles
      exact hhandle
  | some place =>
      rcases Option.map_eq_some_iff.mp hhandles with ⟨only, honly, hsingle⟩
      rw [← hsingle] at hhandle
      rw [List.mem_singleton.mp hhandle]
      exact List.mem_of_getElem? honly

theorem step_seek (session : Session) (source row : Nat) (reader : Option Nat) :
    (session.step (.seek source row reader)).result =
      match session.addressed source reader with
      | none => (session, .error .noSuchSlot)
      | some handles => ({ session with shelf := session.shelf.seek handles row }, .ok .done) := by
  show (session.seek source row reader).result = _
  rw [seek, addressed]
  cases session.sources[source]? with
  | none => rfl
  | some found =>
      cases reader with
      | none => rfl
      | some place =>
          simp only [Option.bind_some]
          cases found.ownColumns[place]? <;> rfl

theorem step_set (session : Session) (source reader : Nat) (value : Value) :
    (session.step (.set source reader value)).result =
      match session.settable? source reader with
      | none => (session, .error .noSuchSlot)
      | some handle => ({ session with shelf := session.shelf.set handle value }, .ok .done) := by
  show (session.set source reader value).result = _
  rw [set, settable?]
  cases session.sources[source]?.bind fun found => found.ownSettables[reader]? <;> rfl

/-- The source and its batch, and the bound sieve by which it is to be evaluated. -/
def evaluable? (session : Session) (source bound : Nat) :
    Option (Source × Batch × Counted (BoundSieve Link)) :=
  match session.sources[source]?, session.bounds[bound]? with
  | some found, some counted => found.batch?.map fun batch => (found, batch, counted)
  | _, _ => none

theorem step_evaluate (session : Session) (source bound : Nat) :
    (session.step (.evaluate source bound)).result =
      match session.evaluable? source bound with
      | none => (session, .error .noSuchSlot)
      | some (found, batch, counted) =>
          let judged :=
            counted.content.behindLinks.evaluate found.handles batch.rows session.shelf
          let after := session.count counted.counter judged.applications
          ({ after with shelf := judged.result.2 },
            .ok (.evaluated judged.result.1 (after.applications counted.counter))) := by
  show (session.evaluate source bound).result = _
  rw [evaluate, evaluable?]
  cases session.sources[source]? with
  | none => rfl
  | some found =>
      cases session.bounds[bound]? with
      | none => rfl
      | some counted =>
          simp only
          cases found.batch? <;> rfl

theorem ownColumns_of_batch? {found : Source} {batch : Batch} (hbatch : found.batch? = some batch) :
    found.origin = .batch batch ∧ found.ownColumns = found.handles := by
  rcases found with ⟨links, origin⟩
  cases origin with
  | batch whole =>
      cases hbatch
      exact ⟨rfl, rfl⟩
  | _ => cases hbatch

theorem evaluable?_eq_some {source bound : Nat} {found : Source} {batch : Batch}
    {counted : Counted (BoundSieve Link)}
    (hevaluable : session.evaluable? source bound = some (found, batch, counted)) :
    session.sources[source]? = some found ∧ found.batch? = some batch ∧
      session.bounds[bound]? = some counted := by
  rw [evaluable?] at hevaluable
  cases hsource : session.sources[source]? with
  | none =>
      rw [hsource] at hevaluable
      cases hevaluable
  | some given =>
      cases hbound : session.bounds[bound]? with
      | none =>
          rw [hsource, hbound] at hevaluable
          cases hevaluable
      | some sieve =>
          rw [hsource, hbound] at hevaluable
          rcases Option.map_eq_some_iff.mp hevaluable with ⟨whole, hbatch, hparts⟩
          cases hparts
          exact ⟨rfl, hbatch, rfl⟩

theorem moves_evaluate (hsound : session.Sound) {source : Nat} {found : Source} {batch : Batch}
    (hsource : session.sources[source]? = some found) (hbatch : found.batch? = some batch)
    (bound : BoundSieve Handle) :
    (batch.rows = 0 →
      (bound.evaluate found.handles batch.rows session.shelf).result.2 = session.shelf) ∧
    ∀ last, batch.rows = last + 1 →
      Shelf.Moves found.ownColumns last session.shelf
        (bound.evaluate found.handles batch.rows session.shelf).result.2 := by
  have hfinal := bound.final_evaluate found.handles batch.rows session.shelf
  have hown := (ownColumns_of_batch? hbatch).2
  have hfits := hsound.fits found (List.mem_of_getElem? hsource)
  rw [hfinal]
  constructor
  · intro hnone
    rw [if_pos hnone]
  · intro last hlast
    have hrows : batch.rows ≠ 0 := by omega
    have hprevious : batch.rows - 1 = last := by omega
    rw [if_neg hrows, hprevious, ← hown]
    exact Shelf.moves_seek (fun _ hhandle => Source.exists_leaf_of_mem hfits hhandle) last

theorem seek_moves (hsound : session.Sound) (source row : Nat) (reader : Option Nat) :
    let after := (session.step (.seek source row reader)).result
    match session.addressed source reader with
    | none => after.2 = .error .noSuchSlot
    | some handles =>
        after.2 = .ok .done ∧ Shelf.Moves handles row session.shelf after.1.shelf := by
  intro after
  have hafter : after = _ := step_seek session source row reader
  cases haddressed : session.addressed source reader with
  | none =>
      rw [haddressed] at hafter
      rw [hafter]
  | some handles =>
      rw [haddressed] at hafter
      rw [hafter]
      exact ⟨rfl, Shelf.moves_seek (leaves_of_addressed hsound haddressed) row⟩

/-- An evaluation is refused, or it leaves the columns of the batch at the last row. -/
theorem evaluate_moves (hsound : session.Sound) (source bound : Nat) :
    let after := (session.step (.evaluate source bound)).result
    match session.evaluable? source bound with
    | none => after.2 = .error .noSuchSlot
    | some (found, batch, _) =>
        (∃ mask applications, after.2 = .ok (.evaluated mask applications)) ∧
        (batch.rows = 0 → after.1.shelf = session.shelf) ∧
        ∀ last, batch.rows = last + 1 →
          Shelf.Moves found.ownColumns last session.shelf after.1.shelf := by
  intro after
  have hafter : after = _ := step_evaluate session source bound
  cases hevaluable : session.evaluable? source bound with
  | none =>
      rw [hevaluable] at hafter
      rw [hafter]
  | some parts =>
      rcases parts with ⟨found, batch, counted⟩
      rcases evaluable?_eq_some hevaluable with ⟨hsource, hbatch, _⟩
      rw [hevaluable] at hafter
      rw [hafter]
      exact ⟨⟨_, _, rfl⟩, moves_evaluate hsound hsource hbatch _⟩

theorem set_sets (hsound : session.Sound) (source reader : Nat) (value : Value) :
    let after := (session.step (.set source reader value)).result
    match session.settable? source reader with
    | none => after.2 = .error .noSuchSlot
    | some handle =>
        after.2 = .ok .done ∧ Shelf.Sets handle value session.shelf after.1.shelf := by
  intro after
  have hafter : after = _ := step_set session source reader value
  cases hhandle : session.settable? source reader with
  | none =>
      rw [hhandle] at hafter
      rw [hafter]
  | some handle =>
      rcases Option.bind_eq_some_iff.mp hhandle with ⟨found, hsource, hplace⟩
      have hfits := hsound.fits found (List.mem_of_getElem? hsource)
      have hsettable := Source.exists_settable_of_mem hfits (List.mem_of_getElem? hplace)
      rw [hhandle] at hafter
      rw [hafter]
      exact ⟨rfl, Shelf.sets_set hsettable value⟩

theorem step_bind (session : Session) (sieve source : Nat) :
    (session.step (.bind sieve source)).result =
      match session.sieves[sieve]?, session.sources[source]? with
      | some counted, some found =>
          match (counted.content.bind (fun reader => session.shelf.linkedPath reader.1)
              found.links.zipIdx).result with
          | .error failure => (session, .error (.failed failure))
          | .ok bound =>
              (session.addBound (bound.mapReaders fun reader => reader.1) counted.counter,
                .ok (.bound session.bounds.length (bound.readers.map fun reader => reader.2)))
      | _, _ => (session, .error .noSuchSlot) := by
  show (session.bind sieve source).result = _
  rw [bind]
  cases session.sieves[sieve]? with
  | none => rfl
  | some counted =>
      cases session.sources[source]? with
      | none => rfl
      | some found =>
          simp only [Traced.result_bind]
          cases (counted.content.bind (fun reader => session.shelf.linkedPath reader.1)
              found.links.zipIdx).result <;> rfl

/-!
## Runs
-/

theorem extends_refl (session : Session) : session.Extends session where
  shelf := session.shelf.keeps_refl
  sources := session.sources.prefix_refl
  sieves := session.sieves.prefix_refl
  bounds := session.bounds.prefix_refl
  snapshots := session.snapshots.prefix_refl

theorem Extends.trans {middle : Session} (hfirst : before.Extends middle)
    (hsecond : middle.Extends after) :
    before.Extends after where
  shelf := hfirst.shelf.trans hsecond.shelf
  sources := hfirst.sources.trans hsecond.sources
  sieves := hfirst.sieves.trans hsecond.sieves
  bounds := hfirst.bounds.trans hsecond.bounds
  snapshots := hfirst.snapshots.trans hsecond.snapshots

theorem extends_step (session : Session) (step : Step) :
    session.Extends (session.step step).result.1 :=
  extends_of_effect (effect_step session step)

theorem getElem?_of_grown {α : Type} {earlier later : List α} (hgrown : earlier <+: later)
    {place : Nat} {item : α} (hitem : earlier[place]? = some item) :
    later[place]? = some item := by
  rcases List.getElem?_eq_some_iff.mp hitem with ⟨hbound, hget⟩
  rw [List.prefix_iff_getElem?.mp hgrown place hbound, hget]

theorem extends_run (session : Session) (steps : List Step) :
    session.Extends (session.run steps) := by
  induction steps generalizing session with
  | nil => exact extends_refl session
  | cons step rest ih => exact (extends_step session step).trans (ih (session.step step).result.1)

/-- In any session that can come about, every step keeps all that was made, and it leaves all
readers alone unless it is of a kind that disturbs.  A step of such a kind disturbs exactly the
readers that it is addressed to, or it is refused for want of them.  A refused step makes
nothing. -/
theorem step_disturbs_addressed (steps : List Step) :
    let session := empty.run steps
    (∀ step : Step,
      session.Extends (session.step step).result.1 ∧
      (¬ step.Disturbs → ∀ handle, handle < session.shelf.length →
        (session.step step).result.1.shelf[handle]? = session.shelf[handle]?) ∧
      (∀ refusal, (session.step step).result.2 = .error refusal →
        session.Rests (session.step step).result.1)) ∧
    (∀ source row reader,
      let after := (session.step (.seek source row reader)).result
      match session.addressed source reader with
      | none => after.2 = .error .noSuchSlot
      | some handles =>
          after.2 = .ok .done ∧ Shelf.Moves handles row session.shelf after.1.shelf) ∧
    (∀ source bound,
      let after := (session.step (.evaluate source bound)).result
      match session.evaluable? source bound with
      | none => after.2 = .error .noSuchSlot
      | some (found, batch, _) =>
          (∃ mask applications, after.2 = .ok (.evaluated mask applications)) ∧
          (batch.rows = 0 → after.1.shelf = session.shelf) ∧
          ∀ last, batch.rows = last + 1 →
            Shelf.Moves found.ownColumns last session.shelf after.1.shelf) ∧
    (∀ source reader value,
      let after := (session.step (.set source reader value)).result
      match session.settable? source reader with
      | none => after.2 = .error .noSuchSlot
      | some handle =>
          after.2 = .ok .done ∧ Shelf.Sets handle value session.shelf after.1.shelf) := by
  intro session
  have hsound : session.Sound := sound_run sound_empty steps
  refine ⟨?_, ?_, ?_, ?_⟩
  · intro step
    have heffect := effect_step session step
    refine ⟨extends_of_effect heffect, ?_, ?_⟩
    · intro hstep handle hhandle
      exact getElem?_shelf_of_effect heffect hstep hhandle
    · intro refusal hrefused
      rw [hrefused] at heffect
      exact rests_of_refused heffect
  · intro source row reader
    exact seek_moves hsound source row reader
  · intro source bound
    exact evaluate_moves hsound source bound
  · intro source reader value
    exact set_sets hsound source reader value

/-- Four cars and a limit.  One column is moved, all cars are judged, the limit is set.  A move of
the fifth column, of which there is none, changes nothing. -/
theorem step_disturbs_addressed_cars :
    let session := empty.run
      [.openBatch Batch.cars, .openSettables [(["limit"], .int64, .int64 5)],
        .ofColumns ["model"] fun _ => true, .bind 0 0]
    let moved := (session.step (.seek 0 2 (some 1))).result
    let judged := (session.step (.evaluate 0 0)).result
    let limited := (session.step (.set 1 0 (.int64 7))).result
    let refused := (session.step (.seek 0 2 (some 4))).result
    moved.2 = .ok .done ∧ Shelf.Moves [1] 2 session.shelf moved.1.shelf ∧
    (moved.1.step (.cursors 0)).result.2 = .ok (.cursors [0, 2, 0, 0] [4, 4, 4, 4]) ∧
    (∃ mask applications, judged.2 = .ok (.evaluated mask applications)) ∧
    Shelf.Moves [0, 1, 2, 3] 3 session.shelf judged.1.shelf ∧
    (judged.1.step (.cursors 0)).result.2 = .ok (.cursors [3, 3, 3, 3] [4, 4, 4, 4]) ∧
    limited.2 = .ok .done ∧ Shelf.Sets 4 (.int64 7) session.shelf limited.1.shelf ∧
    refused.2 = .error .noSuchSlot ∧ session.Rests refused.1 := by
  intro session moved judged limited refused
  rcases step_disturbs_addressed
    [.openBatch Batch.cars, .openSettables [(["limit"], .int64, .int64 5)],
      .ofColumns ["model"] fun _ => true, .bind 0 0] with ⟨hall, hseeks, hevaluates, hsets⟩
  have hmoved := hseeks 0 2 (some 1)
  have hjudged := hevaluates 0 0
  have hlimited := hsets 1 0 (.int64 7)
  have hrefused := hseeks 0 2 (some 4)
  have hcolumn : session.addressed 0 (some 1) = some [1] := by decide +kernel
  have hmissing : session.addressed 0 (some 4) = none := by decide +kernel
  have hsettable : session.settable? 1 0 = some 4 := by decide +kernel
  have hevaluable : ∃ found counted,
      session.evaluable? 0 0 = some (found, Batch.cars, counted) ∧
        found.ownColumns = [0, 1, 2, 3] :=
    ⟨_, _, rfl, rfl⟩
  rcases hevaluable with ⟨found, counted, hevaluable, hown⟩
  simp only [session, hcolumn] at hmoved
  simp only [session, hmissing] at hrefused
  simp only [session, hsettable] at hlimited
  simp only [session, hevaluable, hown] at hjudged
  have hrests := (hall (.seek 0 2 (some 4))).2.2 .noSuchSlot hrefused
  exact ⟨hmoved.1, hmoved.2, rfl, hjudged.1, hjudged.2.2 3 rfl, rfl, hlimited.1, hlimited.2,
    hrefused, hrests⟩

end Session
end RowSieve
