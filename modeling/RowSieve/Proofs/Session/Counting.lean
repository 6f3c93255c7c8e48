import RowSieve.Proofs.Session.Transparency
import RowSieve.Proofs.Sieve.Verdict

/-!
# How often predicates are applied

Sieves that are made of one another share a predicate, and so do the bound sieves that are made of
them.  They are a family, and what is told of one of them is how often the predicate of the family
was applied.  Each step is due to apply a predicate a certain number of times, which depends on what
there is when the step is taken.  It applies it exactly that often, and what is told is the sum of
what was due.
-/

namespace RowSieve

namespace Step

/-- The step makes a sieve of another, or binds one. -/
def Derives : Step → Prop
  | .withDelimiter .. | .bind .. => True
  | _ => False

def Evaluates : Step → Prop
  | .evaluate .. => True
  | _ => False

end Step

/-!
## Families
-/

/-- The families of sieves, numbered as they were founded.  A sieve that is not made of another
founds a family with its predicate; what is made of a sieve, bound or not, is of its family. -/
structure Families where
  founded : List Predicate
  sieves : List Nat
  bounds : List Nat

namespace Families

def empty : Families where
  founded := []
  sieves := []
  bounds := []

def found (families : Families) (predicate : Predicate) : Families :=
  { families with
    founded := families.founded ++ [predicate]
    sieves := families.sieves ++ [families.founded.length] }

/-- The families after a step, by its answer. -/
def after (families : Families) : Step → Except Refusal Answer → Families
  | .ofColumns _ predicate, .ok _ => families.found predicate
  | .build calls, .ok _ => (Draft.ofCalls calls).predicate?.elim families families.found
  | .withDelimiter sieve _, .ok _ =>
      { families with sieves := families.sieves ++ families.sieves[sieve]?.toList }
  | .bind sieve _, .ok _ =>
      { families with bounds := families.bounds ++ families.sieves[sieve]?.toList }
  | _, _ => families

/-- The family of the sieve by which a step judges. -/
def judging? (families : Families) : Step → Option Nat
  | .isMatch bound | .evaluate _ bound => families.bounds[bound]?
  | .matchMask _ sieve | .matchingRows _ sieve | .sift _ sieve => families.sieves[sieve]?
  | _ => none

end Families

/-!
## What is due
-/

/-- How many rows a sieve judges when it sifts the batch: all of them, unless it cannot be bound. -/
def Batch.rowsJudged (batch : Batch) (sieve : Sieve) : Nat :=
  match (sieve.bind LeafColumn.path batch.leafColumns).result with
  | .ok _ => batch.rows
  | .error _ => 0

namespace Session

/-- How many rows are to be judged when the batch of a source is sifted. -/
def dueToSift (session : Session) (source sieve : Nat) : Nat :=
  match session.sources[source]?.bind Source.batch?, session.sieves[sieve]? with
  | some batch, some counted => batch.rowsJudged counted.content
  | _, _ => 0

/-- How often a step is to apply a predicate. -/
def due (session : Session) : Step → Nat
  | .isMatch bound => if bound < session.bounds.length then 1 else 0
  | .evaluate source bound =>
      match session.evaluable? source bound with
      | some (_, batch, _) => batch.rows
      | none => 0
  | .matchMask source sieve | .matchingRows source sieve | .sift source sieve =>
      session.dueToSift source sieve
  | _ => 0

/-- How often the steps of a run are to apply the predicate of a family. -/
def dueTo (session : Session) (families : Families) (family : Nat) : List Step → Nat
  | [] => 0
  | step :: rest =>
      let reply := (session.step step).result
      (if families.judging? step = some family then session.due step else 0) +
        dueTo reply.1 (families.after step reply.2) family rest

/-- The families after a run. -/
def familiesAfter (session : Session) (families : Families) : List Step → Families
  | [] => families
  | step :: rest =>
      let reply := (session.step step).result
      familiesAfter reply.1 (families.after step reply.2) rest

/-- What the links show to a predicate. -/
def views (session : Session) (links : List Link) : List (Reading Failure.Kind) :=
  (session.shelf.linkedReadings links).map (Reading.mapFailure Failure.kind)

/-- The families are those of the session: what is counted together is of one family, and has the
predicate of the family. -/
structure Knows (session : Session) (families : Families) : Prop where
  sieves : families.sieves = session.sieves.map Counted.counter
  bounds : families.bounds = session.bounds.map Counted.counter
  founded : families.founded.length = session.counters.length
  of_sieve : ∀ counted ∈ session.sieves,
    families.founded[counted.counter]? = some counted.content.predicate
  of_bound : ∀ counted ∈ session.bounds,
    families.founded[counted.counter]? = some counted.content.predicate

variable {session before after : Session} {families : Families} {step : Step}

/-!
## The families of a session
-/

theorem knows_empty : empty.Knows Families.empty where
  sieves := rfl
  bounds := rfl
  founded := rfl
  of_sieve := nofun
  of_bound := nofun

theorem knows_of_same (hknows : before.Knows families) (hsieves : after.sieves = before.sieves)
    (hbounds : after.bounds = before.bounds)
    (hcounters : after.counters.length = before.counters.length) :
    after.Knows families where
  sieves := by rw [hsieves, hknows.sieves]
  bounds := by rw [hbounds, hknows.bounds]
  founded := by rw [hcounters, hknows.founded]
  of_sieve := by
    rw [hsieves]
    exact hknows.of_sieve
  of_bound := by
    rw [hbounds]
    exact hknows.of_bound

theorem getElem?_founded_append (predicate : Predicate) {family : Nat} {other : Predicate}
    (hfamily : families.founded[family]? = some other) :
    (families.founded ++ [predicate])[family]? = some other := by
  rw [List.getElem?_append_left (List.getElem?_eq_some_iff.mp hfamily).1]
  exact hfamily

theorem knows_addSieve (hknows : session.Knows families) (sieve : Sieve) :
    (session.addSieve sieve).Knows (families.found sieve.predicate) where
  sieves := by
    simp only [Families.found, addSieve, List.map_append, hknows.sieves, hknows.founded]
    rfl
  bounds := hknows.bounds
  founded := by
    simp only [Families.found, addSieve, List.length_append, hknows.founded]
    rfl
  of_sieve := by
    intro counted hcounted
    rcases List.mem_append.mp hcounted with hold | hnew
    · exact getElem?_founded_append sieve.predicate (hknows.of_sieve counted hold)
    · rw [List.mem_singleton.mp hnew]
      show (families.founded ++ [sieve.predicate])[session.counters.length]? = _
      rw [← hknows.founded]
      exact List.getElem?_concat_length
  of_bound := fun counted hcounted =>
    getElem?_founded_append sieve.predicate (hknows.of_bound counted hcounted)

theorem family_of_sieve (hknows : session.Knows families) {sieve : Nat} {counted : Counted Sieve}
    (hsieve : session.sieves[sieve]? = some counted) :
    families.sieves[sieve]? = some counted.counter := by
  rw [hknows.sieves, List.getElem?_map, hsieve]
  rfl

theorem family_of_bound (hknows : session.Knows families) {bound : Nat}
    {counted : Counted (BoundSieve Link)} (hbound : session.bounds[bound]? = some counted) :
    families.bounds[bound]? = some counted.counter := by
  rw [hknows.bounds, List.getElem?_map, hbound]
  rfl

theorem knows_addDerived (hknows : session.Knows families) {sieve : Nat} {counted : Counted Sieve}
    (hsieve : session.sieves[sieve]? = some counted) {content : Sieve}
    (hpredicate : content.predicate = counted.content.predicate) :
    (session.addDerived content counted.counter).Knows
      { families with sieves := families.sieves ++ families.sieves[sieve]?.toList } where
  sieves := by
    rw [family_of_sieve hknows hsieve]
    simp only [addDerived, List.map_append, hknows.sieves]
    rfl
  bounds := hknows.bounds
  founded := hknows.founded
  of_sieve := by
    intro other hother
    rcases List.mem_append.mp hother with hold | hnew
    · exact hknows.of_sieve other hold
    · rw [List.mem_singleton.mp hnew]
      rw [hpredicate]
      exact hknows.of_sieve counted (List.mem_of_getElem? hsieve)
  of_bound := hknows.of_bound

theorem knows_addBound (hknows : session.Knows families) {sieve : Nat} {counted : Counted Sieve}
    (hsieve : session.sieves[sieve]? = some counted) {bound : BoundSieve Link}
    (hpredicate : bound.predicate = counted.content.predicate) :
    (session.addBound bound counted.counter).Knows
      { families with bounds := families.bounds ++ families.sieves[sieve]?.toList } where
  sieves := hknows.sieves
  bounds := by
    rw [family_of_sieve hknows hsieve]
    simp only [addBound, List.map_append, hknows.bounds]
    rfl
  founded := hknows.founded
  of_sieve := hknows.of_sieve
  of_bound := by
    intro other hother
    rcases List.mem_append.mp hother with hold | hnew
    · exact hknows.of_bound other hold
    · rw [List.mem_singleton.mp hnew]
      rw [hpredicate]
      exact hknows.of_sieve counted (List.mem_of_getElem? hsieve)

theorem predicate?_of_build {draft : Draft} {sieve : Sieve} (hbuild : draft.build = .ok sieve) :
    draft.predicate? = some sieve.predicate := by
  rw [Draft.build] at hbuild
  cases hpredicate : draft.predicate? with
  | none =>
      rw [hpredicate] at hbuild
      cases hbuild
  | some predicate =>
      rw [hpredicate] at hbuild
      simp only [Failure.require] at hbuild
      cases hvalid : draft.options.validate with
      | error failure =>
          rw [hvalid] at hbuild
          cases hbuild
      | ok _ =>
          rw [hvalid] at hbuild
          cases hbuild
          rfl

theorem predicate_of_withOptions {sieve derived : Sieve} {options : Options}
    (hderived : sieve.withOptions options = .ok derived) :
    derived.predicate = sieve.predicate := by
  rw [Sieve.withOptions] at hderived
  cases hvalid : options.validate with
  | error failure =>
      rw [hvalid] at hderived
      cases hderived
  | ok _ =>
      rw [hvalid] at hderived
      cases hderived
      rfl

theorem knows_of_effect {answer : Except Refusal Answer}
    (heffect : Effect before step after answer) (hfounds : ¬ step.Founds)
    (hderives : ¬ step.Derives) (hknows : before.Knows families) :
    after.Knows families := by
  cases heffect with
  | sieved hstep _ => exact absurd hstep hfounds
  | derived _ _ => exact absurd trivial hderives
  | bound _ _ _ => exact absurd trivial hderives
  | counted _ _ _ => exact knows_of_same hknows rfl rfl (List.length_modify _ _ _)
  | evaluated _ _ _ _ => exact knows_of_same hknows rfl rfl (List.length_modify _ _ _)
  | _ => exact knows_of_same hknows rfl rfl rfl

theorem knows_step (hknows : session.Knows families) (step : Step) :
    (session.step step).result.1.Knows (families.after step (session.step step).result.2) := by
  cases step with
  | ofColumns paths predicate => exact knows_addSieve hknows (Sieve.ofColumns paths predicate)
  | build calls =>
      show (session.openSieve (Draft.ofCalls calls).build).result.1.Knows
        (families.after _ (session.openSieve (Draft.ofCalls calls).build).result.2)
      cases hbuild : (Draft.ofCalls calls).build with
      | error failure => exact hknows
      | ok sieve =>
          -- a draft is finished only if it has a predicate, and that founds the family
          show (session.addSieve sieve).Knows
            ((Draft.ofCalls calls).predicate?.elim families families.found)
          rw [predicate?_of_build hbuild]
          exact knows_addSieve hknows sieve
  | withDelimiter sieve delimiter =>
      simp only [Session.step, withDelimiter]
      cases hsieve : session.sieves[sieve]? with
      | none => exact hknows
      | some counted =>
          simp only
          cases hderived :
              counted.content.withOptions (Options.standard.withDelimiter delimiter) with
          | error failure => exact hknows
          | ok derived =>
              exact knows_addDerived hknows hsieve (predicate_of_withOptions hderived)
  | bind sieve source =>
      rw [step_bind]
      cases hsieve : session.sieves[sieve]? with
      | none => exact hknows
      | some counted =>
          cases session.sources[source]? with
          | none => exact hknows
          | some found =>
              simp only
              cases hbound : (counted.content.bind
                  (fun reader => session.shelf.linkedPath reader.1) found.links.zipIdx).result with
              | error failure => exact hknows
              | ok bound =>
                  exact knows_addBound hknows hsieve (Sieve.bind_eq_ok_iff.mp hbound).2
  | _ => exact knows_of_effect (effect_step session _) id id hknows

theorem knows_run (hknows : session.Knows families) (steps : List Step) :
    (session.run steps).Knows (session.familiesAfter families steps) := by
  induction steps generalizing session families with
  | nil => exact hknows
  | cons step rest ih => exact ih (knows_step hknows step)

end Session

/-!
## Sifting a batch

Whichever way a batch is sifted, the predicate is applied once to each row, or not at all if the
sieve cannot be bound.
-/

namespace Batch

variable (batch : Batch) (sieve : Sieve)

theorem rowsJudged_eq :
    batch.rowsJudged sieve =
      match sieve.missing? batch.leafPaths with
      | some _ => 0
      | none => batch.rows := by
  rw [rowsJudged, Sieve.result_bind, leafPaths]
  cases sieve.missing? (batch.leafColumns.map LeafColumn.path) <;> rfl

theorem applications_matchMask : (batch.matchMask sieve).applications = batch.rowsJudged sieve := by
  rw [Traced.applications, shown_matchMask, rowsJudged_eq]
  cases sieve.missing? batch.leafPaths with
  | some text => rfl
  | none =>
      simp only [List.length_map]
      exact length_viewRows batch

theorem applications_matchingRows :
    (batch.matchingRows sieve).applications = batch.rowsJudged sieve := by
  rw [matchingRows, Traced.applications_bind, applications_matchMask]
  rfl

theorem applications_sift : (batch.sift sieve).applications = batch.rowsJudged sieve := by
  rw [sift, Traced.applications_bind, applications_matchMask]
  rfl

end Batch

theorem BoundSieve.applications_evaluate (bound : BoundSieve Handle) (own : List Handle)
    (rows : Nat) (shelf : Shelf) :
    (bound.evaluate own rows shelf).applications = rows := by
  rw [Traced.applications, bound.shown_evaluate own rows shelf, List.length_map, List.length_range]

namespace Session

variable {session before after : Session} {families : Families} {step : Step} {family : Nat}

/-!
## What a step applies
-/

theorem applications_siftWith {α : Type} {sifting : Batch → Sieve → Traced (Except Failure α)}
    (hsifting : ∀ batch sieve, (sifting batch sieve).applications = batch.rowsJudged sieve)
    (session : Session) (source sieve : Nat) (answer : α → Answer) :
    (session.siftWith source sieve sifting answer).applications =
      session.dueToSift source sieve := by
  rw [siftWith, dueToSift]
  cases session.sources[source]?.bind Source.batch? with
  | none => rfl
  | some batch =>
      cases session.sieves[sieve]? with
      | none => rfl
      | some counted =>
          simp only [Traced.applications_bind, hsifting]
          cases (sifting batch counted.content).result <;> rfl

theorem applications_of_tells (htells : step.Tells) : (session.step step).applications = 0 := by
  rcases step_of_tells htells with ⟨told, hstep⟩
  rw [hstep]
  rfl

theorem applications_bind (session : Session) (sieve source : Nat) :
    (session.bind sieve source).applications = 0 := by
  rw [Session.bind]
  split
  · rw [Traced.applications_bind, Traced.applications, Sieve.shown_of_bind]
    split <;> rfl
  · rfl

theorem applications_isMatch (session : Session) (bound : Nat) :
    (session.isMatch bound).applications = session.due (.isMatch bound) := by
  rw [isMatch, due]
  cases hbound : session.bounds[bound]? with
  | none =>
      rw [if_neg (Nat.not_lt.mpr (List.getElem?_eq_none_iff.mp hbound))]
      rfl
  | some counted =>
      rw [if_pos (List.getElem?_eq_some_iff.mp hbound).1]
      rfl

theorem applications_evaluate (session : Session) (source bound : Nat) :
    (session.evaluate source bound).applications = session.due (.evaluate source bound) := by
  rw [evaluate, due, evaluable?]
  cases session.sources[source]? with
  | none => rfl
  | some found =>
      cases session.bounds[bound]? with
      | none => rfl
      | some counted =>
          simp only
          cases found.batch? with
          | none => rfl
          | some batch =>
              simp only [Traced.applications_bind, BoundSieve.applications_evaluate]
              rfl

/-- Every step applies a predicate exactly as often as is due. -/
theorem applications_step (session : Session) (step : Step) :
    (session.step step).applications = session.due step := by
  cases step with
  | openBatch batch => rfl
  | openColumns columns =>
      simp only [Session.step, openColumns]
      split <;> rfl
  | openSettables readers => rfl
  | duplicate source =>
      simp only [Session.step, duplicate]
      split <;> rfl
  | share source =>
      simp only [Session.step, share]
      split <;> rfl
  | pick readers =>
      simp only [Session.step, pick]
      split <;> rfl
  | set source reader value =>
      simp only [Session.step, set]
      split <;> rfl
  | seek source row reader =>
      simp only [Session.step, seek]
      repeat' split
      all_goals rfl
  | ofColumns paths predicate => rfl
  | build calls =>
      simp only [Session.step, openSieve]
      split <;> rfl
  | withDelimiter sieve delimiter =>
      simp only [Session.step, withDelimiter]
      repeat' split
      all_goals rfl
  | bind sieve source => exact applications_bind session sieve source
  | isMatch bound => exact applications_isMatch session bound
  | evaluate source bound => exact applications_evaluate session source bound
  | matchMask source sieve =>
      exact applications_siftWith Batch.applications_matchMask session source sieve _
  | matchingRows source sieve =>
      exact applications_siftWith Batch.applications_matchingRows session source sieve _
  | sift source sieve =>
      exact applications_siftWith Batch.applications_sift session source sieve _
  | load group types =>
      simp only [Session.step, load]
      repeat' split
      all_goals rfl
  | _ => exact applications_of_tells trivial

/-!
## What is counted
-/

theorem applications_count (session : Session) {counter : Nat}
    (hcounter : counter < session.counters.length) (added family : Nat) :
    (session.count counter added).applications family =
      session.applications family + if counter = family then added else 0 := by
  rw [applications, applications, count, List.getElem?_modify]
  by_cases hsame : counter = family
  · rw [← hsame, List.getElem?_eq_getElem hcounter]
    simp
  · simp [hsame]

theorem applications_addSieve (session : Session) (sieve : Sieve) (family : Nat) :
    (session.addSieve sieve).applications family = session.applications family := by
  show (session.counters ++ [0])[family]?.getD 0 = session.counters[family]?.getD 0
  rcases Nat.lt_or_ge family session.counters.length with hfamily | hfamily
  · rw [List.getElem?_append_left hfamily]
  · rw [List.getElem?_append_right hfamily, List.getElem?_eq_none hfamily]
    cases family - session.counters.length <;> rfl

theorem counter_of_sieve (hknows : session.Knows families) {sieve : Nat} {counted : Counted Sieve}
    (hsieve : session.sieves[sieve]? = some counted) :
    counted.counter < session.counters.length := by
  rw [← hknows.founded]
  exact (List.getElem?_eq_some_iff.mp
    (hknows.of_sieve counted (List.mem_of_getElem? hsieve))).1

theorem counter_of_bound (hknows : session.Knows families) {bound : Nat}
    {counted : Counted (BoundSieve Link)} (hbound : session.bounds[bound]? = some counted) :
    counted.counter < session.counters.length := by
  rw [← hknows.founded]
  exact (List.getElem?_eq_some_iff.mp
    (hknows.of_bound counted (List.mem_of_getElem? hbound))).1

theorem applications_of_effect {answer : Except Refusal Answer}
    (heffect : Effect before step after answer) (hjudges : ¬ step.Judges)
    (hevaluates : ¬ step.Evaluates) (family : Nat) :
    after.applications family = before.applications family := by
  cases heffect with
  | counted hstep _ _ => exact absurd hstep hjudges
  | evaluated _ _ _ _ => exact absurd trivial hevaluates
  | @sieved _ sieve _ _ _ => exact applications_addSieve before sieve family
  | _ => rfl

theorem counted_siftWith {α : Type} {sifting : Batch → Sieve → Traced (Except Failure α)}
    (hsifting : ∀ batch sieve, (sifting batch sieve).applications = batch.rowsJudged sieve)
    (hknows : session.Knows families) (source sieve : Nat) (answer : α → Answer) (family : Nat) :
    (session.siftWith source sieve sifting answer).result.1.applications family =
      session.applications family +
        if families.sieves[sieve]? = some family then session.dueToSift source sieve else 0 := by
  rw [siftWith, dueToSift]
  cases session.sources[source]?.bind Source.batch? with
  | none => simp [noSuchSlot]
  | some batch =>
      cases hsieve : session.sieves[sieve]? with
      | none => simp [noSuchSlot]
      | some counted =>
          have hcount := applications_count session (counter_of_sieve hknows hsieve)
            (batch.rowsJudged counted.content) family
          simp only [Traced.result_bind, hsifting, family_of_sieve hknows hsieve,
            Option.some.injEq]
          rw [← hcount]
          cases (sifting batch counted.content).result <;> rfl

/-- A step adds what is due to the count of the family that it judges by, and to no other. -/
theorem counted_step (hknows : session.Knows families) (step : Step) (family : Nat) :
    (session.step step).result.1.applications family =
      session.applications family +
        if families.judging? step = some family then session.due step else 0 := by
  cases step with
  | isMatch bound =>
      show (session.isMatch bound).result.1.applications family =
        session.applications family + if families.bounds[bound]? = some family then
          (if bound < session.bounds.length then 1 else 0) else 0
      rw [isMatch]
      cases hbound : session.bounds[bound]? with
      | none =>
          rw [if_neg (Nat.not_lt.mpr (List.getElem?_eq_none_iff.mp hbound)), ite_self]
          rfl
      | some counted =>
          have hcount := applications_count session (counter_of_bound hknows hbound) 1 family
          rw [if_pos (List.getElem?_eq_some_iff.mp hbound).1]
          simp only [family_of_bound hknows hbound, Option.some.injEq]
          exact hcount
  | evaluate source bound =>
      rw [step_evaluate, due]
      cases hevaluable : session.evaluable? source bound with
      | none => simp
      | some parts =>
          rcases parts with ⟨found, batch, counted⟩
          have hbound := (evaluable?_eq_some hevaluable).2.2
          have hcount := applications_count session (counter_of_bound hknows hbound) batch.rows
            family
          simp only [BoundSieve.applications_evaluate, Families.judging?,
            family_of_bound hknows hbound, Option.some.injEq]
          exact hcount
  | matchMask source sieve =>
      exact counted_siftWith Batch.applications_matchMask hknows source sieve _ family
  | matchingRows source sieve =>
      exact counted_siftWith Batch.applications_matchingRows hknows source sieve _ family
  | sift source sieve =>
      exact counted_siftWith Batch.applications_sift hknows source sieve _ family
  | _ => exact applications_of_effect (effect_step session _) id id family

theorem counted_run (hknows : session.Knows families) (steps : List Step) (family : Nat) :
    (session.run steps).applications family =
      session.applications family + session.dueTo families family steps := by
  induction steps generalizing session families with
  | nil => rfl
  | cons step rest ih =>
      rw [run, ih (knows_step hknows step), counted_step hknows, dueTo, Nat.add_assoc]

/-!
## What a match answers

A bound sieve asks the readers behind its links, and its predicate sees what the links show.
-/

theorem views_behindLinks (session : Session) (bound : BoundSieve Link) :
    session.shelf.views bound.behindLinks.readers = session.views bound.readers := by
  rw [views, Shelf.linkedReadings_eq]
  rfl

theorem verdict_behindLinks (session : Session) (bound : BoundSieve Link) :
    bound.behindLinks.predicate (session.views bound.readers) =
      bound.predicate (session.views bound.readers) := by
  have hlength : (session.views bound.readers).length ≤ bound.readers.length := by
    rw [views, List.length_map]
    exact List.length_filterMap_le _ _
  show bound.predicate (List.zipWith Link.through bound.readers (session.views bound.readers)) = _
  rw [Link.zipWith_through, List.take_of_length_le hlength]

theorem step_isMatch {bound : Nat} {counted : Counted (BoundSieve Link)}
    (hbound : session.bounds[bound]? = some counted) :
    let readings := session.views counted.content.readers
    (session.step (.isMatch bound)).shown = [readings] ∧
    (session.step (.isMatch bound)).result.2 =
      .ok (.verdict (counted.content.predicate readings)
        ((session.count counted.counter 1).applications counted.counter)) := by
  intro readings
  have hviews := views_behindLinks session counted.content
  have hverdict := verdict_behindLinks session counted.content
  show (session.isMatch bound).shown = _ ∧ (session.isMatch bound).result.2 = _
  rw [isMatch, hbound]
  constructor
  · show [session.shelf.views counted.content.behindLinks.readers] = _
    rw [hviews]
  · show Except.ok (Answer.verdict (counted.content.behindLinks.predicate
      (session.shelf.views counted.content.behindLinks.readers)) _) = _
    rw [hviews, hverdict]
    rfl

/-- In any session that can come about, a step applies a predicate as often as is due then, and not
at all to bind or to load.  What is told of a sieve is the sum of what was due to its family since
the beginning.  A match applies the predicate of its family to what the readers show at the moment,
and answers what it says. -/
theorem predicates_applied_as_due (steps : List Step) :
    let session := empty.run steps
    let families := empty.familiesAfter Families.empty steps
    (∀ step, (session.step step).applications = session.due step) ∧
    (∀ sieve counted, session.sieves[sieve]? = some counted → ∃ family,
      families.sieves[sieve]? = some family ∧
      families.founded[family]? = some counted.content.predicate ∧
      (session.step (.applications sieve)).result.2 =
        .ok (.applications (empty.dueTo Families.empty family steps))) ∧
    (∀ bound counted, session.bounds[bound]? = some counted → ∃ family predicate,
      families.bounds[bound]? = some family ∧
      families.founded[family]? = some predicate ∧
      let readings := session.views counted.content.readers
      (session.step (.isMatch bound)).shown = [readings] ∧
      (session.step (.isMatch bound)).result.2 =
        .ok (.verdict (predicate readings) (empty.dueTo Families.empty family steps + 1))) := by
  intro session families
  have hknows : session.Knows families := knows_run knows_empty steps
  have hcounts : ∀ family, session.applications family =
      empty.dueTo Families.empty family steps := by
    intro family
    rw [counted_run knows_empty]
    exact Nat.zero_add _
  refine ⟨applications_step session, ?_, ?_⟩
  · intro sieve counted hsieve
    refine ⟨counted.counter, family_of_sieve hknows hsieve,
      hknows.of_sieve counted (List.mem_of_getElem? hsieve), ?_⟩
    show (session.tellApplications sieve).result.2 = _
    rw [tellApplications, hsieve, ← hcounts]
    rfl
  · intro bound counted hbound
    rcases step_isMatch hbound with ⟨hshown, hanswer⟩
    refine ⟨counted.counter, counted.content.predicate, family_of_bound hknows hbound,
      hknows.of_bound counted (List.mem_of_getElem? hbound), hshown, ?_⟩
    rw [hanswer, applications_count session (counter_of_bound hknows hbound), if_pos rfl, hcounts]

/-- Two sieves share a predicate, a third has one of its own and asks for a column that cannot be
read.  The cars are judged by each of them, and once more where the readers come to stand. -/
theorem predicates_applied_as_due_cars :
    let known := (Condition.not (.isNull 0)).predicate
    let steps : List Step :=
      [.openBatch Batch.cars, .ofColumns ["engine.capacity"] known, .withDelimiter 0 '/',
        .ofColumns ["doors"] known, .bind 0 0, .evaluate 0 0, .matchMask 0 1, .matchMask 0 2,
        .isMatch 0]
    let session := empty.run steps
    (session.step (.matchingRows 0 1)).applications = 4 ∧
    (session.step (.matchingRows 0 2)).applications = 0 ∧
    (session.step (.bind 0 0)).applications = 0 ∧
    (session.step (.applications 0)).result.2 = .ok (.applications 9) ∧
    (session.step (.applications 1)).result.2 = .ok (.applications 9) ∧
    (session.step (.applications 2)).result.2 = .ok (.applications 0) ∧
    ∃ readings, (session.step (.isMatch 0)).shown = [readings] ∧
      (readings.map fun reading => (reading.get .integer).toOption) = [some 3000] ∧
      (session.step (.isMatch 0)).result.2 = .ok (.verdict true 10) := by
  intro known steps session
  rcases predicates_applied_as_due steps with ⟨happlied, htold, hmatched⟩
  have hsieves : session.sieves.length = 3 := by decide +kernel
  have hfamilies : (empty.familiesAfter Families.empty steps).sieves = [0, 0, 1] := by
    decide +kernel
  have htells : ∀ sieve family, [0, 0, 1][sieve]? = some family →
      (session.step (.applications sieve)).result.2 =
        .ok (.applications (empty.dueTo Families.empty family steps)) := by
    intro sieve family hfamily
    have hinside : sieve < session.sieves.length :=
      hsieves ▸ (List.getElem?_eq_some_iff.mp hfamily).1
    rcases htold sieve _ (List.getElem?_eq_getElem hinside) with ⟨told, hof, _, hanswer⟩
    rw [hfamilies, hfamily] at hof
    rw [hanswer, Option.some.inj hof]
  have hfirst : empty.dueTo Families.empty 0 steps = 9 := by decide +kernel
  have hsecond : empty.dueTo Families.empty 1 steps = 0 := by decide +kernel
  have hsifted : session.due (.matchingRows 0 1) = 4 := by decide +kernel
  have hmissing : session.due (.matchingRows 0 2) = 0 := by decide +kernel
  refine ⟨(happlied _).trans hsifted, (happlied _).trans hmissing, happlied _, ?_, ?_, ?_, ?_⟩
  · rw [htells 0 0 rfl, hfirst]
  · rw [htells 1 0 rfl, hfirst]
  · rw [htells 2 1 rfl, hsecond]
  · have hbounds : (empty.familiesAfter Families.empty steps).bounds = [0] := by decide +kernel
    have hfounded : (empty.familiesAfter Families.empty steps).founded = [known, known] := rfl
    have hreadings : session.bounds[0]?.map (fun counted =>
        (session.views counted.content.readers).map fun reading =>
          (reading.get .integer).toOption) = some [some 3000] := by
      decide +kernel
    have hverdict : session.bounds[0]?.map (fun counted =>
        known (session.views counted.content.readers)) = some true := by
      decide +kernel
    rcases Option.map_eq_some_iff.mp hreadings with ⟨counted, hbound, hread⟩
    rw [hbound, Option.map_some] at hverdict
    rcases hmatched 0 counted hbound with ⟨family, predicate, hfamily, hpredicate, hshown, hanswer⟩
    rw [hbounds] at hfamily
    rw [hfounded, ← Option.some.inj hfamily] at hpredicate
    refine ⟨_, hshown, hread, ?_⟩
    rw [hanswer, ← Option.some.inj hfamily, hfirst, ← Option.some.inj hpredicate]
    exact congrArg (fun verdict => Except.ok (Answer.verdict verdict 10)) (Option.some.inj hverdict)

end Session
end RowSieve
