import RowSieve.Failure
import RowSieve.Reading
import RowSieve.Text

/-!
# Sieves

A sieve names the columns that it wants to see and holds a predicate on what they show.  It is made
before any column exists.  Once there are columns it is bound to the first column at each requested
path.
-/

namespace RowSieve

/-!
## Options

How requested paths are written.  Options may name any delimiter; only a sieve refuses one that is
white space.
-/

/-- How the requested paths of a sieve are read. -/
structure Options where
  delimiter : Char
  deriving DecidableEq

namespace Options

/-- Paths are dotted unless something else is asked for. -/
def standard : Options := ⟨'.'⟩

def withDelimiter (_ : Options) (delimiter : Char) : Options :=
  ⟨delimiter⟩

/-- Refuses a blank delimiter. -/
def validate (options : Options) : Except Failure Unit :=
  Failure.check (!Text.isBlank options.delimiter)
    s!"path delimiter {Text.quoteChar options.delimiter} must not be whitespace"

theorem validate_eq_ok_iff {options : Options} :
    options.validate = .ok () ↔ Text.isBlank options.delimiter = false := by
  cases blank : Text.isBlank options.delimiter <;> simp [validate, Failure.check, blank]

def text (options : Options) : String :=
  "FilterOptions \x7b path_delimiter: " ++ Text.quoteChar options.delimiter ++ " \x7d"

end Options

/-!
## Sieves with and without readers
-/

/-- Judges a row by what the columns show there.  Of a failing accessor only the kind of failure
can be seen. -/
abbrev Predicate := List (Reading Failure.Kind) → Bool

/-- Requested columns and a predicate on what they show. -/
structure Sieve where
  paths : List String
  predicate : Predicate
  options : Options

/-- A sieve whose requested columns were found among readers of type `ρ`. -/
structure BoundSieve (ρ : Type) where
  readers : List ρ
  predicate : Predicate

namespace Sieve

/-- The sieve that applies `predicate` to the columns at the dotted `paths`. -/
def ofColumns (paths : List String) (predicate : Predicate) : Sieve where
  paths := paths
  predicate := predicate
  options := .standard

/-- The same sieve with other options, if they are acceptable. -/
def withOptions (sieve : Sieve) (options : Options) : Except Failure Sieve :=
  options.validate.map fun _ => { sieve with options := options }

def text (sieve : Sieve) : String :=
  "UnboundFilter \x7b paths: [" ++ ", ".intercalate (sieve.paths.map Text.quoteString) ++
    "], options: " ++ sieve.options.text ++ ", .. \x7d"

end Sieve

namespace BoundSieve

variable {ρ σ : Type}

def mapReaders (f : ρ → σ) (bound : BoundSieve ρ) : BoundSieve σ where
  readers := bound.readers.map f
  predicate := bound.predicate

def text (bound : BoundSieve ρ) : String :=
  s!"BoundFilter \x7b columns: {bound.readers.length}, .. \x7d"

end BoundSieve

/-!
## Drafts

A sieve can be put together call by call: paths accumulate, and of several predicates or options the
last counts.  A draft becomes a sieve once it has a predicate and acceptable options.
-/

/-- What is known so far of a sieve. -/
structure Draft where
  paths : List String
  predicate? : Option Predicate
  options : Options

namespace Draft

inductive Call
  | column (path : String)
  | columns (paths : List String)
  | predicate (predicate : Predicate)
  | options (options : Options)

def empty : Draft where
  paths := []
  predicate? := none
  options := .standard

def add (draft : Draft) : Call → Draft
  | .column path => { draft with paths := draft.paths ++ [path] }
  | .columns paths => { draft with paths := draft.paths ++ paths }
  | .predicate predicate => { draft with predicate? := some predicate }
  | .options options => { draft with options := options }

def ofCalls (calls : List Call) : Draft :=
  calls.foldl add empty

/-- The finished sieve.  A missing predicate is reported before an unacceptable delimiter. -/
def build (draft : Draft) : Except Failure Sieve :=
  match Failure.require "predicate" draft.predicate? with
  | .error failure => .error failure
  | .ok predicate =>
      match draft.options.validate with
      | .error failure => .error failure
      | .ok () => .ok ⟨draft.paths, predicate, draft.options⟩

theorem build_of_predicate {draft : Draft} {predicate : Predicate}
    (h : draft.predicate? = some predicate) :
    draft.build = (Sieve.ofColumns draft.paths predicate).withOptions draft.options := by
  simp only [build, Failure.require, h, Sieve.withOptions, Sieve.ofColumns]
  cases draft.options.validate <;> rfl

end Draft

end RowSieve
