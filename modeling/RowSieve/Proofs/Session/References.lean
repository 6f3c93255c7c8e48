import RowSieve.Proofs.Session.Transparency

/-!
# Readers that go back to other readers

A source can be made of references to the readers of another, or of readers picked from several, and
so on from the sources made thus.  Whatever the way, such a reader leads to the same place on the
shelf as the one it goes back to, so they show the same at every moment, and it makes no difference
which of them is asked.
-/

namespace RowSieve

/-- The steps that ask the readers of a source, one of them or all, as they depend on the source. -/
inductive Step.Asks : (Nat → Step) → Prop
  | nulls : Asks fun source => .nulls source
  | read (reader : Nat) (accessor : Accessor) : Asks fun source => .read source reader accessor
  | readValue (reader : Nat) (type : PhysicalType) :
      Asks fun source => .readValue source reader type
  | bind (sieve : Nat) : Asks fun source => .bind sieve source
  | load (types : Option (List PhysicalType)) : Asks fun source => .load (.source source) types

namespace Session

/-- The first reader was made from the second by references and picks, however many of them and
whatever steps lay between.  Readers are given by their source and their place there. -/
inductive GoesBackTo (original : Nat × Nat) : Session → Nat × Nat → Prop
  | itself {session : Session} (hreader : (session.reading? original.1 original.2).isSome) :
      GoesBackTo original session original
  | referred {session : Session} {source place : Nat}
      (hback : GoesBackTo original session (source, place)) :
      GoesBackTo original (session.step (.share source)).result.1 (session.sources.length, place)
  | picked {session : Session} {readers : List (Nat × Nat)} {reader : Nat × Nat} {place : Nat}
      {answer : Answer} (hanswer : (session.step (.pick readers)).result.2 = .ok answer)
      (hplace : readers[place]? = some reader) (hback : GoesBackTo original session reader) :
      GoesBackTo original (session.step (.pick readers)).result.1 (session.sources.length, place)
  | later {session : Session} {reader : Nat × Nat} (step : Step)
      (hback : GoesBackTo original session reader) :
      GoesBackTo original (session.step step).result.1 reader

/-- The readers of the second source go back to those of the first, place by place. -/
def Refers (session : Session) (source other : Nat) : Prop :=
  ∃ found rival, session.sources[source]? = some found ∧ session.sources[other]? = some rival ∧
    rival.links.length = found.links.length ∧
    ∀ place, place < found.links.length → GoesBackTo (source, place) session (other, place)

/-- The place on the shelf to which a reader leads. -/
def end? (session : Session) (reader : Nat × Nat) : Option Handle :=
  session.sources[reader.1]?.bind fun found => found.links[reader.2]?.map Link.handle

variable {session before after : Session} {original reader : Nat × Nat} {source other : Nat}

/-!
## Where readers lead
-/

theorem reading?_eq (session : Session) (source place : Nat) :
    session.reading? source place =
      (session.end? (source, place)).bind fun handle =>
        session.shelf[handle]?.map Reader.reading := by
  show (session.sources[source]?.bind fun found =>
      found.links[place]?.bind session.shelf.linked?) = _
  rw [end?]
  cases session.sources[source]? with
  | none => rfl
  | some found =>
      show found.links[place]?.bind session.shelf.linked? = (found.links[place]?.map _).bind _
      cases found.links[place]? with
      | none => rfl
      | some link => exact session.shelf.linked?_eq link

theorem end?_of_extends (hextends : before.Extends after) {handle : Handle}
    (hend : before.end? reader = some handle) :
    after.end? reader = some handle := by
  rcases Option.bind_eq_some_iff.mp hend with ⟨found, hsource, hplace⟩
  exact Option.bind_eq_some_iff.mpr
    ⟨found, getElem?_of_grown hextends.sources hsource, hplace⟩

theorem end?_shared (session : Session) (links : List Link) (place : Nat) :
    (session.addShared links).end? (session.sources.length, place) =
      links[place]?.map Link.handle := by
  show ((session.sources ++ [_])[session.sources.length]?.bind _) = _
  rw [List.getElem?_concat_length]
  rfl

theorem session_share {found : Source} (hsource : session.sources[source]? = some found) :
    (session.step (.share source)).result.1 =
      session.addShared (found.links.map .reference) := by
  show (session.share source).result.1 = _
  rw [share, hsource]
  rfl

theorem session_pick {readers : List (Nat × Nat)} {answer : Answer}
    (hanswer : (session.step (.pick readers)).result.2 = .ok answer) :
    ∃ links, session.pickLinks readers = some links ∧
      (session.step (.pick readers)).result.1 = session.addShared links := by
  change (session.pick readers).result.2 = _ at hanswer
  show ∃ links, _ ∧ (session.pick readers).result.1 = _
  rw [pick] at hanswer ⊢
  cases hlinks : session.pickLinks readers with
  | none =>
      rw [hlinks] at hanswer
      cases hanswer
  | some links => exact ⟨links, rfl, rfl⟩

/-- A reader leads to the same place on the shelf as the one it goes back to. -/
theorem end_of_goesBackTo (hback : GoesBackTo original session reader) :
    ∃ handle, session.end? original = some handle ∧ session.end? reader = some handle ∧
      handle < session.shelf.length := by
  induction hback with
  | itself hreader =>
      rw [reading?_eq] at hreader
      rcases Option.isSome_iff_exists.mp hreader with ⟨reading, hreading⟩
      rcases Option.bind_eq_some_iff.mp hreading with ⟨handle, hend, hshown⟩
      rcases Option.map_eq_some_iff.mp hshown with ⟨shown, hstands, _⟩
      exact ⟨handle, hend, hend, (List.getElem?_eq_some_iff.mp hstands).1⟩
  | @referred session source place _ ih =>
      rcases ih with ⟨handle, horiginal, hreader, hinside⟩
      rcases Option.bind_eq_some_iff.mp hreader with ⟨found, hsource, hplace⟩
      have hextends := extends_step session (.share source)
      have hshared := session_share hsource
      refine ⟨handle, end?_of_extends hextends horiginal, ?_, ?_⟩
      · rw [hshared, end?_shared, List.getElem?_map, Option.map_map]
        exact hplace
      · rw [hshared]
        exact hinside
  | @picked session readers reader place answer hanswer hplace _ ih =>
      rcases ih with ⟨handle, horiginal, hreader, hinside⟩
      have hextends := extends_step session (.pick readers)
      rcases session_pick hanswer with ⟨links, hlinks, hpicked⟩
      rcases List.getElem?_eq_some_iff.mp hplace with ⟨hbound, hchosen⟩
      rcases List.forall₂_iff_get.mp (picked_of_pickLinks hlinks) with ⟨hlength, hfound⟩
      have hlink := hfound place hbound (hlength ▸ hbound)
      refine ⟨handle, end?_of_extends hextends horiginal, ?_, ?_⟩
      · rw [hpicked, end?_shared, List.getElem?_eq_getElem (hlength ▸ hbound)]
        have hends := congrArg (Option.map Link.handle) hlink
        rw [Option.map_bind, List.get_eq_getElem, hchosen] at hends
        exact hends.symm.trans hreader
      · rw [hpicked]
        exact hinside
  | @later session reader step _ ih =>
      rcases ih with ⟨handle, horiginal, hreader, hinside⟩
      have hextends := extends_step session step
      refine ⟨handle, end?_of_extends hextends horiginal, end?_of_extends hextends hreader, ?_⟩
      rcases hextends.shelf handle _ (List.getElem?_eq_getElem hinside) with ⟨_, hstands, _⟩
      exact (List.getElem?_eq_some_iff.mp hstands).1

theorem goesBackTo_run (hback : GoesBackTo original session reader) (steps : List Step) :
    GoesBackTo original (session.run steps) reader :=
  run_induction (P := fun session => GoesBackTo original session reader)
    (fun _ step hbefore => .later step hbefore) hback steps

theorem reading_of_goesBackTo (hback : GoesBackTo original session reader) :
    ∃ reading, session.reading? original.1 original.2 = some reading ∧
      session.reading? reader.1 reader.2 = some reading := by
  rcases end_of_goesBackTo hback with ⟨handle, horiginal, hreader, hinside⟩
  refine ⟨session.shelf[handle].reading, ?_, ?_⟩
  · rw [reading?_eq, horiginal, Option.bind_some, List.getElem?_eq_getElem hinside]
    rfl
  · rw [reading?_eq, hreader, Option.bind_some, List.getElem?_eq_getElem hinside]
    rfl

/-!
## Sources of references
-/

theorem refers_share (hsound : session.Sound) {found : Source}
    (hsource : session.sources[source]? = some found) :
    Refers (session.step (.share source)).result.1 source session.sources.length := by
  have hshared := session_share hsource
  have hextends := extends_step session (.share source)
  refine ⟨found, ⟨found.links.map .reference, .shared⟩,
    getElem?_of_grown hextends.sources hsource, ?_, List.length_map _, ?_⟩
  · rw [hshared]
    exact List.getElem?_concat_length
  · intro place hplace
    have hlink := List.getElem?_eq_getElem hplace
    have hinside := inside_of_lookup hsound
      (Option.bind_eq_some_iff.mpr ⟨found, hsource, hlink⟩)
    have hend : session.end? (source, place) = some found.links[place].handle := by
      rw [end?, hsource, Option.bind_some, hlink]
      rfl
    have hreading : (session.reading? source place).isSome := by
      rw [reading?_eq, hend, Option.bind_some, List.getElem?_eq_getElem hinside]
      rfl
    have hitself : GoesBackTo (source, place) session (source, place) := .itself hreading
    exact hitself.referred

theorem refers_run (hrefers : session.Refers source other) (steps : List Step) :
    (session.run steps).Refers source other := by
  rcases hrefers with ⟨found, rival, hsource, hother, hlength, hback⟩
  have hextends := extends_run session steps
  refine ⟨found, rival, getElem?_of_grown hextends.sources hsource,
    getElem?_of_grown hextends.sources hother, hlength, ?_⟩
  intro place hplace
  exact goesBackTo_run (hback place hplace) steps

theorem handles_of_refers (hrefers : session.Refers source other) :
    ∃ found rival, session.sources[source]? = some found ∧ session.sources[other]? = some rival ∧
      rival.handles = found.handles := by
  rcases hrefers with ⟨found, rival, hsource, hother, hlength, hback⟩
  refine ⟨found, rival, hsource, hother, ?_⟩
  apply List.ext_getElem?
  intro place
  rcases Nat.lt_or_ge place found.links.length with hplace | hplace
  · rcases end_of_goesBackTo (hback place hplace) with ⟨handle, horiginal, hreader, _⟩
    rw [end?, hsource] at horiginal
    rw [end?, hother] at hreader
    rw [Source.handles, Source.handles, List.getElem?_map, List.getElem?_map]
    exact hreader.trans horiginal.symm
  · rw [List.getElem?_eq_none, List.getElem?_eq_none]
    · rwa [Source.handles, List.length_map]
    · rwa [Source.handles, List.length_map, hlength]

theorem links_straight_of_handles {found rival : Source}
    (hhandles : rival.handles = found.handles) :
    rival.links.map Link.straight = found.links.map Link.straight := by
  have hdirect := congrArg (List.map Link.direct) hhandles
  rw [Source.handles, Source.handles, List.map_map, List.map_map] at hdirect
  exact hdirect

/-!
## Asking either source

A sieve that is bound to references is bound to the readers at their ends, and these show the same.
-/

theorem reading?_of_refers (hrefers : session.Refers source other) (place : Nat) :
    session.reading? other place = session.reading? source place := by
  rcases handles_of_refers hrefers with ⟨found, rival, hsource, hother, hhandles⟩
  have hplace : rival.handles[place]? = found.handles[place]? := by
    rw [hhandles]
  rw [Source.handles, Source.handles, List.getElem?_map, List.getElem?_map] at hplace
  rw [reading?_eq, reading?_eq, end?, end?, hsource, hother, Option.bind_some, Option.bind_some,
    hplace]

theorem alike_bind_of_refers (hrefers : session.Refers source other) (sieve : Nat) :
    Alike (session.step (.bind sieve other)).result (session.step (.bind sieve source)).result := by
  rcases handles_of_refers hrefers with ⟨found, rival, hsource, hother, hhandles⟩
  have hstraight : (session.straight.step (.bind sieve other)).result =
      (session.straight.step (.bind sieve source)).result := by
    have hlinks : rival.straight.links = found.straight.links := links_straight_of_handles hhandles
    rw [step_bind, step_bind, getElem?_sources_straight, getElem?_sources_straight, hsource, hother]
    cases session.straight.sieves[sieve]? with
    | none => rfl
    | some counted => simp only [Option.map_some, hlinks]
  have hreferred := alike_bind session sieve other
  have hdirect := alike_bind session sieve source
  rw [hstraight] at hreferred
  exact ⟨hreferred.answer_eq.trans hdirect.answer_eq.symm,
    hreferred.straight_eq.trans hdirect.straight_eq.symm⟩

theorem linkedReadings_of_handles (shelf : Shelf) {found rival : Source}
    (hhandles : rival.handles = found.handles) :
    shelf.linkedReadings rival.links = shelf.linkedReadings found.links := by
  rw [Shelf.linkedReadings_eq, Shelf.linkedReadings_eq]
  exact congrArg shelf.readings hhandles

theorem load_of_refers (hrefers : session.Refers source other)
    (types : Option (List PhysicalType)) :
    session.load (.source other) types = session.load (.source source) types := by
  rcases handles_of_refers hrefers with ⟨found, rival, hsource, hother, hhandles⟩
  have hreadings := linkedReadings_of_handles session.shelf hhandles
  simp only [load, groupLinks, hsource, hother, Option.map_some, hreadings]

theorem nulls_of_refers (hrefers : session.Refers source other) :
    session.nulls other = session.nulls source := by
  rcases handles_of_refers hrefers with ⟨found, rival, hsource, hother, hhandles⟩
  have hreadings := linkedReadings_of_handles session.shelf hhandles
  simp only [nulls, hsource, hother, hreadings]

theorem alike_refl (result : Session × Except Refusal Answer) : Alike result result :=
  ⟨rfl, rfl⟩

/-- Whatever the readers of a source are asked, those of a source of references to it answer the
same, and nothing that follows tells which of them was asked. -/
theorem alike_of_refers (hrefers : session.Refers source other) {ask : Nat → Step}
    (hask : Step.Asks ask) :
    Alike (session.step (ask other)).result (session.step (ask source)).result := by
  cases hask with
  | nulls =>
      simp only [Session.step, nulls_of_refers hrefers]
      exact alike_refl _
  | read reader accessor =>
      simp only [Session.step, Session.read, reading?_of_refers hrefers]
      exact alike_refl _
  | readValue reader type =>
      simp only [Session.step, Session.readValue, reading?_of_refers hrefers]
      exact alike_refl _
  | bind sieve => exact alike_bind_of_refers hrefers sieve
  | load types =>
      simp only [Session.step, load_of_refers hrefers]
      exact alike_refl _

theorem answers_of_refers (hrefers : session.Refers source other) {ask : Nat → Step}
    (hask : Step.Asks ask) (rest : List Step) :
    session.answers (ask other :: rest) = session.answers (ask source :: rest) := by
  rcases alike_of_refers hrefers hask with ⟨hanswer, hstraight⟩
  rw [answers, answers, hanswer, answers_eq_of_straight_eq hstraight]

end Session
end RowSieve
