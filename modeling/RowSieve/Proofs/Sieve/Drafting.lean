import Mathlib.Data.List.Induction
import RowSieve.Sieve.Basic

/-!
# What a draft comes to

A sieve that is put together call by call is the one made of all paths that were named, in the order
of the calls, and of the last predicate, and then given the last options.  On neither way is a blank
delimiter let in.
-/

namespace RowSieve

namespace Options

/-- What is told of a delimiter that is white space. -/
def refusal (options : Options) : Failure :=
  .invalidArgument
    s!"path delimiter {Text.quoteChar options.delimiter} must not be whitespace"

variable {options : Options}

theorem validate_of_blank (hblank : Text.isBlank options.delimiter = true) :
    options.validate = .error options.refusal := by
  rw [validate, hblank]
  rfl

theorem delimiter_withDelimiter (options : Options) (delimiter : Char) :
    (options.withDelimiter delimiter).delimiter = delimiter :=
  rfl

end Options

namespace Sieve

variable {sieve derived : Sieve} {options : Options}

theorem withOptions_of_blank (hblank : Text.isBlank options.delimiter = true) :
    sieve.withOptions options = .error options.refusal := by
  rw [withOptions, Options.validate_of_blank hblank]
  rfl

theorem withOptions_eq_ok_iff :
    sieve.withOptions options = .ok derived ↔
      Text.isBlank options.delimiter = false ∧ derived = { sieve with options := options } := by
  rw [← Options.validate_eq_ok_iff, withOptions]
  cases options.validate <;> simp [Except.map, eq_comm]

theorem withOptions_of_not_blank (hblank : Text.isBlank options.delimiter = false) :
    sieve.withOptions options = .ok { sieve with options := options } :=
  withOptions_eq_ok_iff.mpr ⟨hblank, rfl⟩

theorem not_blank_of_withOptions (hderived : sieve.withOptions options = .ok derived) :
    Text.isBlank derived.options.delimiter = false := by
  rcases withOptions_eq_ok_iff.mp hderived with ⟨hblank, hmade⟩
  rw [hmade]
  exact hblank

end Sieve

namespace Draft

/-!
## Calls

A call adds its paths, and what else it gives takes the place of what was given before.
-/

namespace Call

def paths : Call → List String
  | .column path => [path]
  | .columns paths => paths
  | .predicate _ | .options _ => []

def predicate? : Call → Option Predicate
  | .predicate given => some given
  | .column _ | .columns _ | .options _ => none

def options? : Call → Option Options
  | .options given => some given
  | .column _ | .columns _ | .predicate _ => none

end Call

/-- All paths that are named, in the order of the calls. -/
def namedPaths (calls : List Call) : List String :=
  calls.flatMap Call.paths

def lastPredicate? (calls : List Call) : Option Predicate :=
  (calls.filterMap Call.predicate?).getLast?

/-- The last options that are given, or the standard ones if there are none. -/
def lastOptions (calls : List Call) : Options :=
  (calls.filterMap Call.options?).getLast?.getD .standard

variable {calls : List Call} {predicate : Predicate}

theorem add_eq (draft : Draft) (call : Call) :
    draft.add call = ⟨draft.paths ++ call.paths, call.predicate?.or draft.predicate?,
      call.options?.getD draft.options⟩ := by
  cases call with
  | predicate given => rw [add, Call.paths, List.append_nil]; rfl
  | options given => rw [add, Call.paths, List.append_nil]; rfl
  | _ => rfl

theorem ofCalls_append_singleton (calls : List Call) (call : Call) :
    ofCalls (calls ++ [call]) = (ofCalls calls).add call := by
  rw [ofCalls, List.foldl_append]
  rfl

theorem namedPaths_append_singleton (calls : List Call) (call : Call) :
    namedPaths (calls ++ [call]) = namedPaths calls ++ call.paths := by
  rw [namedPaths, List.flatMap_append, List.flatMap_singleton, namedPaths]

theorem getLast?_filterMap_append_singleton {α β : Type} (f : α → Option β) (xs : List α) (x : α) :
    ((xs ++ [x]).filterMap f).getLast? = (f x).or (xs.filterMap f).getLast? := by
  rw [List.filterMap_append, List.getLast?_append]
  cases hfound : f x with
  | none => rw [List.filterMap_cons_none hfound]; rfl
  | some y => rw [List.filterMap_cons_some hfound]; rfl

/-- Paths add up, and of predicates and of options the last are kept. -/
theorem ofCalls_eq (calls : List Call) :
    ofCalls calls = ⟨namedPaths calls, lastPredicate? calls, lastOptions calls⟩ := by
  -- the last call decides what is kept, so the induction takes calls off from the end
  induction calls using List.reverseRecOn with
  | nil => rfl
  | append_singleton calls call ih =>
      have hoptions : lastOptions (calls ++ [call]) = call.options?.getD (lastOptions calls) := by
        rw [lastOptions, getLast?_filterMap_append_singleton, lastOptions]
        cases call.options? <;> rfl
      rw [ofCalls_append_singleton, ih, add_eq, namedPaths_append_singleton, hoptions,
        lastPredicate?, lastPredicate?, getLast?_filterMap_append_singleton]

/-!
## Finishing
-/

theorem lastPredicate?_eq_none_iff :
    lastPredicate? calls = none ↔ ∀ predicate, .predicate predicate ∉ calls := by
  rw [lastPredicate?, List.getLast?_eq_none_iff, List.filterMap_eq_nil_iff]
  constructor
  · intro hnone given hcall
    cases hnone _ hcall
  · intro hnone call hcall
    cases call with
    | predicate given => exact absurd hcall (hnone given)
    | _ => rfl

theorem build_of_no_predicate (hnone : ∀ predicate, .predicate predicate ∉ calls) :
    (ofCalls calls).build = .error (.nullArgument "predicate") := by
  rw [ofCalls_eq, build, lastPredicate?_eq_none_iff.mpr hnone]
  rfl

theorem build_of_lastPredicate? (hlast : lastPredicate? calls = some predicate) :
    (ofCalls calls).build =
      (Sieve.ofColumns (namedPaths calls) predicate).withOptions (lastOptions calls) := by
  rw [ofCalls_eq]
  exact build_of_predicate hlast

/-- What comes of finishing the calls. -/
structure Finishes (calls : List Call) : Prop where
  missing : (∀ predicate, .predicate predicate ∉ calls) →
    (ofCalls calls).build = .error (.nullArgument "predicate")
  given : (∃ predicate, .predicate predicate ∈ calls) →
    ∃ predicate, lastPredicate? calls = some predicate ∧
      (ofCalls calls).build =
        (Sieve.ofColumns (namedPaths calls) predicate).withOptions (lastOptions calls) ∧
      ((ofCalls calls).build = .error (lastOptions calls).refusal ↔
        Text.isBlank (lastOptions calls).delimiter = true) ∧
      ((∃ sieve, (ofCalls calls).build = .ok sieve) ↔
        Text.isBlank (lastOptions calls).delimiter = false)

theorem exists_lastPredicate? (hgiven : ∃ predicate, .predicate predicate ∈ calls) :
    ∃ predicate, lastPredicate? calls = some predicate := by
  apply Option.ne_none_iff_exists'.mp
  intro hnone
  rcases hgiven with ⟨predicate, hcall⟩
  exact lastPredicate?_eq_none_iff.mp hnone predicate hcall

theorem finishes (calls : List Call) : Finishes calls where
  missing := build_of_no_predicate
  given := by
    intro hgiven
    rcases exists_lastPredicate? hgiven with ⟨predicate, hlast⟩
    refine ⟨predicate, hlast, build_of_lastPredicate? hlast, ?_⟩
    rw [build_of_lastPredicate? hlast]
    cases hblank : Text.isBlank (lastOptions calls).delimiter with
    | true => simp [Sieve.withOptions_of_blank hblank]
    | false => simp [Sieve.withOptions_of_not_blank hblank]

theorem not_blank_of_build {sieve : Sieve} (hbuild : (ofCalls calls).build = .ok sieve) :
    Text.isBlank sieve.options.delimiter = false := by
  cases hlast : lastPredicate? calls with
  | none =>
      rw [build_of_no_predicate (lastPredicate?_eq_none_iff.mp hlast)] at hbuild
      cases hbuild
  | some predicate =>
      rw [build_of_lastPredicate? hlast] at hbuild
      exact Sieve.not_blank_of_withOptions hbuild

end Draft

/-!
## Ways to a sieve
-/

namespace Sieve

/-- The sieve can be made: of columns, by finishing a draft, or of a sieve that can be made by
giving it other options.  A copy of a sieve is that sieve and no way of its own. -/
inductive Obtained : Sieve → Prop
  | ofColumns (paths : List String) (predicate : Predicate) : Obtained (ofColumns paths predicate)
  | built {calls : List Draft.Call} {sieve : Sieve}
      (finished : (Draft.ofCalls calls).build = .ok sieve) : Obtained sieve
  | withOptions {sieve derived : Sieve} {options : Options} (obtained : Obtained sieve)
      (accepted : sieve.withOptions options = .ok derived) : Obtained derived

theorem not_blank_of_obtained {sieve : Sieve} (hobtained : sieve.Obtained) :
    Text.isBlank sieve.options.delimiter = false := by
  induction hobtained with
  | ofColumns paths predicate => rfl
  | built hfinished => exact Draft.not_blank_of_build hfinished
  | withOptions _ haccepted _ => exact not_blank_of_withOptions haccepted

/-- Just the sieves whose delimiter is not blank can be made. -/
theorem obtained_iff {sieve : Sieve} :
    sieve.Obtained ↔ Text.isBlank sieve.options.delimiter = false := by
  constructor
  · exact not_blank_of_obtained
  · intro hblank
    exact .withOptions (.ofColumns sieve.paths sieve.predicate) (withOptions_of_not_blank hblank)

end Sieve
end RowSieve
