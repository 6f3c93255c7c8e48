import RowSieve.Proofs.Session.Framing
import RowSieve.Proofs.Sieve.Drafting

/-!
# Delimiters of the sieves of a session

Every way to a sieve looks at the delimiter, so no sieve of a session has a blank one, and asking
for such a sieve leaves everything as it is.
-/

namespace RowSieve
namespace Session

variable {session before after : Session} {step : Step} {answer : Except Refusal Answer}

/-- All sieves of the session came about in one of the ways to a sieve. -/
def AllObtained (session : Session) : Prop :=
  ∀ counted ∈ session.sieves, counted.content.Obtained

theorem allObtained_append (hobtained : session.AllObtained) {sieve : Sieve}
    (hsieve : sieve.Obtained) (counter : Nat)
    (hsieves : after.sieves = session.sieves ++ [⟨sieve, counter⟩]) :
    after.AllObtained := by
  intro counted hcounted
  rw [hsieves] at hcounted
  rcases List.mem_append.mp hcounted with hold | hnew
  · exact hobtained counted hold
  · rw [List.mem_singleton.mp hnew]
    exact hsieve

theorem allObtained_of_effect (hobtained : before.AllObtained)
    (heffect : Effect before step after answer) :
    after.AllObtained := by
  cases heffect with
  | sieved _ hsieve => exact allObtained_append hobtained hsieve _ rfl
  | derived hsieve hcontent =>
      have hcounted := hobtained _ (List.mem_of_getElem? hsieve)
      exact allObtained_append hobtained (.withOptions hcounted hcontent) _ rfl
  | _ => exact hobtained

theorem allObtained_empty : empty.AllObtained := by
  intro counted hcounted
  cases hcounted

theorem allObtained_run (steps : List Step) : (empty.run steps).AllObtained :=
  run_induction (P := AllObtained)
    (fun session step hbefore => allObtained_of_effect hbefore (effect_step session step))
    allObtained_empty steps

theorem step_withDelimiter_of_blank {sieve : Nat} {counted : Counted Sieve}
    (hsieve : session.sieves[sieve]? = some counted) {delimiter : Char}
    (hblank : Text.isBlank delimiter = true) :
    (session.step (.withDelimiter sieve delimiter)).result =
      (session, .error (.failed (Options.standard.withDelimiter delimiter).refusal)) := by
  have hrefused : counted.content.withOptions (Options.standard.withDelimiter delimiter) =
      .error (Options.standard.withDelimiter delimiter).refusal :=
    Sieve.withOptions_of_blank hblank
  show (session.withDelimiter sieve delimiter).result = _
  simp only [withDelimiter, hsieve, hrefused]
  rfl

/-- A sieve put together call by call is the one made of columns and given options: of all paths
that were named, of the last predicate, without which nothing is made, and with the last options,
which are refused just if their delimiter is blank.  So no sieve has a blank delimiter, in whatever
way it was made and in whatever session, though options may hold one.  A sieve of which another was
to be made with such a delimiter stays, and so does all else. -/
theorem sieves_are_never_blank :
    (∀ calls, Draft.Finishes calls) ∧
    (∀ sieve : Sieve, sieve.Obtained → Text.isBlank sieve.options.delimiter = false) ∧
    (∀ (options : Options) (delimiter : Char),
      (options.withDelimiter delimiter).delimiter = delimiter) ∧
    ∀ steps,
      let session := empty.run steps
      (∀ counted ∈ session.sieves, counted.content.Obtained ∧
        Text.isBlank counted.content.options.delimiter = false) ∧
      ∀ sieve delimiter counted, session.sieves[sieve]? = some counted →
        let after := (session.step (.withDelimiter sieve delimiter)).result
        after.1.sieves[sieve]? = some counted ∧
        (Text.isBlank delimiter = true →
          after = (session,
            .error (.failed (Options.standard.withDelimiter delimiter).refusal))) := by
  refine ⟨Draft.finishes, ?_, Options.delimiter_withDelimiter, ?_⟩
  · intro sieve hobtained
    exact Sieve.obtained_iff.mp hobtained
  · intro steps session
    constructor
    · intro counted hcounted
      have hobtained := allObtained_run steps counted hcounted
      exact ⟨hobtained, Sieve.obtained_iff.mp hobtained⟩
    · intro sieve delimiter counted hsieve after
      constructor
      · exact getElem?_of_grown (extends_step session _).sieves hsieve
      · intro hblank
        exact step_withDelimiter_of_blank hsieve hblank

/-- Paths are named before and after the predicate, which is given twice, and a blank delimiter is
taken back.  Without a predicate that delimiter is not even looked at.  The sieve outlives the wish
for an ideographic space. -/
theorem sieves_are_never_blank_slashed :
    let blank := Options.standard.withDelimiter ' '
    let slash := Options.standard.withDelimiter '/'
    let never : Predicate := fun _ => false
    let all : Predicate := fun _ => true
    let calls : List Draft.Call :=
      [.options blank, .column "a", .predicate never, .columns ["b", "a"], .predicate all,
        .options slash]
    let session := empty.run [.build calls]
    (Draft.ofCalls calls).build = (Sieve.ofColumns ["a", "b", "a"] all).withOptions slash ∧
    (Draft.ofCalls [.column "a", .options blank]).build = .error (.nullArgument "predicate") ∧
    (Draft.ofCalls [.predicate all, .options blank]).build = .error blank.refusal ∧
    Text.isBlank '\u3000' = true ∧
    (session.step (.withDelimiter 0 '\u3000')).result =
      (session, .error (.failed (Options.standard.withDelimiter '\u3000').refusal)) := by
  intro blank slash never all calls session
  have hblank : Text.isBlank '\u3000' = true := by decide
  rcases sieves_are_never_blank with ⟨hfinishes, _, _, hsessions⟩
  refine ⟨?_, ?_, ?_, hblank, ?_⟩
  · rcases (hfinishes calls).given ⟨all, by simp [calls]⟩ with ⟨predicate, hlast, hbuild, _⟩
    cases hlast
    exact hbuild
  · apply (hfinishes [.column "a", .options blank]).missing
    intro predicate hcall
    simp at hcall
  · rcases (hfinishes [.predicate all, .options blank]).given ⟨all, List.mem_cons_self⟩ with
      ⟨_, _, _, hrefused, _⟩
    exact hrefused.mpr (by decide)
  · exact ((hsessions [.build calls]).2 0 '\u3000' _ rfl).2 hblank

end Session
end RowSieve
