import RowSieve.Proofs.Path.Splitting
import RowSieve.Proofs.Sieve.Binding
import RowSieve.Proofs.Sieve.Drafting

/-!
# Columns within reach

A reader can be asked for by a text when it is the first at its path and its path can be written
with the sieve's delimiter, and then there is one text only that asks for it.  So a column whose
name holds the delimiter is out of reach, and it never gets in the way of the nested column that is
written like it.
-/

namespace RowSieve
namespace Sieve

variable {ρ : Type} {sieve : Sieve} {predicate : Predicate} {pathOf : ρ → ColumnPath}
  {available : List ρ} {delimiter : Char} {text : String} {place : Nat} {reader : ρ}

/-!
## Asking for one column

Readers are told apart by their places, since two of them may have the same path.
-/

/-- Bound to the readers, the sieve gets the one at `place` and no other. -/
def Takes (sieve : Sieve) (pathOf : ρ → ColumnPath) (available : List ρ) (place : Nat) : Prop :=
  ∃ bound, (sieve.bind (fun entry => pathOf entry.1) available.zipIdx).result = .ok bound ∧
    bound.readers.map Prod.snd = [place]

/-- The sieve that asks for `text` alone, its segments being told apart by the delimiter, gets the
reader at `place`. -/
def Reaches (delimiter : Char) (predicate : Predicate) (pathOf : ρ → ColumnPath)
    (available : List ρ) (text : String) (place : Nat) : Prop :=
  ∃ sieve, (ofColumns [text] predicate).withOptions (Options.standard.withDelimiter delimiter) =
      .ok sieve ∧
    sieve.Takes pathOf available place

theorem firstAt_zipIdx {path : ColumnPath} {entry : ρ × Nat} :
    FirstAt (fun entry => pathOf entry.1) available.zipIdx path place entry ↔
      FirstAt pathOf available path place entry.1 ∧ entry.2 = place := by
  have hentry : ∀ (place : Nat) (entry : ρ × Nat), available.zipIdx[place]? = some entry ↔
      available[place]? = some entry.1 ∧ entry.2 = place := by
    intro place numbered
    rcases numbered with ⟨reader, number⟩
    rw [List.getElem?_zipIdx, Option.map_eq_some_iff]
    simp [eq_comm]
  constructor
  · intro hfirst
    rcases (hentry place entry).mp hfirst.found with ⟨hfound, hnumber⟩
    refine ⟨⟨hfound, hfirst.path_eq, ?_⟩, hnumber⟩
    intro earlier other hearlier hother
    exact hfirst.least earlier (other, earlier) hearlier ((hentry _ _).mpr ⟨hother, rfl⟩)
  · intro hboth
    rcases hboth with ⟨hfirst, hnumber⟩
    refine ⟨(hentry place entry).mpr ⟨hfirst.found, hnumber⟩, hfirst.path_eq, ?_⟩
    intro earlier other hearlier hother
    exact hfirst.least earlier other.1 hearlier ((hentry _ _).mp hother).1

theorem takes_iff (hpaths : sieve.paths = [text]) :
    sieve.Takes pathOf available place ↔
      ∃ reader, FirstAt pathOf available (.parse sieve.options.delimiter text) place reader := by
  constructor
  · intro hbound
    rcases hbound with ⟨bound, hbound, hplace⟩
    have hfound := resolve_eq_ok_iff.mp (bind_eq_ok_iff.mp hbound).1
    rw [hpaths, List.forall₂_cons_left_iff] at hfound
    rcases hfound with ⟨entry, others, hentry, hothers, hreaders⟩
    rw [List.forall₂_nil_left_iff] at hothers
    rw [hreaders, hothers, List.map_singleton, List.singleton_inj] at hplace
    rcases lookup_eq_some_iff.mp hentry with ⟨first, hfirst⟩
    rcases firstAt_zipIdx.mp hfirst with ⟨hfirst, hnumber⟩
    rw [← hnumber, hplace] at hfirst
    exact ⟨entry.1, hfirst⟩
  · intro hfirst
    rcases hfirst with ⟨reader, hfirst⟩
    refine ⟨⟨[(reader, place)], sieve.predicate⟩, ?_, rfl⟩
    rw [bind_eq_ok_iff, resolve_eq_ok_iff, hpaths]
    refine ⟨.cons ?_ .nil, rfl⟩
    exact lookup_eq_some_iff.mpr ⟨place, firstAt_zipIdx.mpr ⟨hfirst, rfl⟩⟩

theorem reaches_iff (hdelimiter : Text.isBlank delimiter = false) :
    Reaches delimiter predicate pathOf available text place ↔
      ∃ reader, FirstAt pathOf available (.parse delimiter text) place reader := by
  constructor
  · intro hmade
    rcases hmade with ⟨sieve, hmade, htakes⟩
    rw [(withOptions_eq_ok_iff.mp hmade).2] at htakes
    exact (takes_iff rfl).mp htakes
  · intro hfirst
    exact ⟨_, withOptions_eq_ok_iff.mpr ⟨hdelimiter, rfl⟩, (takes_iff rfl).mpr hfirst⟩

/-!
## What a reader must be like
-/

theorem parse_of_firstAt
    (hreader : available[place]? = some reader)
    (hfirst : ∃ other, FirstAt pathOf available (.parse delimiter text) place other) :
    ColumnPath.parse delimiter text = pathOf reader := by
  rcases hfirst with ⟨other, hfirst⟩
  cases hreader.symm.trans hfirst.found
  exact hfirst.path_eq.symm

theorem written_of_reaches
    (hdelimiter : Text.isBlank delimiter = false) (hreader : available[place]? = some reader)
    (hreaches : Reaches delimiter predicate pathOf available text place) :
    (pathOf reader).Writable delimiter ∧ text = (pathOf reader).join delimiter :=
  ColumnPath.parse_eq_iff.mp (parse_of_firstAt hreader ((reaches_iff hdelimiter).mp hreaches))

/-- There is a text that leads to the reader if its path can be written and no earlier reader lies
there. -/
theorem exists_text_iff (hreader : available[place]? = some reader) :
    (∃ text, ∃ other, FirstAt pathOf available (.parse delimiter text) place other) ↔
      (pathOf reader).Writable delimiter ∧
        ∀ earlier other, earlier < place → available[earlier]? = some other →
          pathOf other ≠ pathOf reader := by
  constructor
  · intro hfirst
    rcases hfirst with ⟨text, hfirst⟩
    have hspelled := parse_of_firstAt hreader hfirst
    rcases hfirst with ⟨_, hfirst⟩
    have hleast := hfirst.least
    rw [hspelled] at hleast
    exact ⟨(ColumnPath.parse_eq_iff.mp hspelled).1, hleast⟩
  · intro hreached
    rcases hreached with ⟨hwritable, hleast⟩
    refine ⟨(pathOf reader).join delimiter, reader, ?_⟩
    rw [ColumnPath.parse_join hwritable]
    exact ⟨hreader, rfl, hleast⟩

/-- A reader is within reach when its path has a segment, none of its segments holds the delimiter
and no earlier reader has the same path.  The text that reaches it is then its joined path; no other
does, in particular not one with some of the segments at its end missing or with more of them.  In
dotted texts a column with a dot in its name is out of reach, and the text that it is shown as leads
to the nested column that is shown alike, in whatever order the two come. -/
theorem reached_iff_first_and_writable
    (pathOf : ρ → ColumnPath) (available : List ρ) (predicate : Predicate)
    (hdelimiter : Text.isBlank delimiter = false) (hreader : available[place]? = some reader) :
    ((∃ text, Reaches delimiter predicate pathOf available text place) ↔
      pathOf reader ≠ [] ∧ (∀ segment ∈ pathOf reader, delimiter ∉ segment.toList) ∧
        ∀ earlier other, earlier < place → available[earlier]? = some other →
          pathOf other ≠ pathOf reader) ∧
    (∀ text, Reaches delimiter predicate pathOf available text place →
      text = (pathOf reader).join delimiter) ∧
    (∀ path : ColumnPath, path ≠ [] → path ≠ pathOf reader →
      path <+: pathOf reader ∨ pathOf reader <+: path →
      ¬ Reaches delimiter predicate pathOf available (path.join delimiter) place) ∧
    ((∃ segment ∈ pathOf reader, '.' ∈ segment.toList) →
      (∀ text, ¬ (ofColumns [text] predicate).Takes pathOf available place) ∧
      ∀ there nested, FirstAt pathOf available (pathOf nested) there nested →
        pathOf nested ≠ [] → (∀ segment ∈ pathOf nested, '.' ∉ segment.toList) →
        (pathOf nested).dotted = (pathOf reader).dotted →
        there ≠ place ∧
          (ofColumns [(pathOf reader).dotted] predicate).Takes pathOf available there) := by
  refine ⟨?_, ?_, ?_, ?_⟩
  · simp only [reaches_iff hdelimiter]
    rw [exists_text_iff hreader]
    constructor
    · intro hreached
      rcases hreached with ⟨hwritable, hleast⟩
      exact ⟨hwritable.nonempty, hwritable.free, hleast⟩
    · intro hreached
      rcases hreached with ⟨hsome, hfree, hleast⟩
      exact ⟨⟨hsome, hfree⟩, hleast⟩
  · intro text hreaches
    exact (written_of_reaches hdelimiter hreader hreaches).2
  · intro path hsome hother hprefix hreaches
    rcases written_of_reaches hdelimiter hreader hreaches with ⟨hwritable, hsame⟩
    rcases hprefix with hshorter | hlonger
    · exact ColumnPath.join_ne_of_prefix delimiter hsome hshorter hother hsame
    · exact ColumnPath.join_ne_of_prefix delimiter hwritable.nonempty hlonger hother.symm hsame.symm
  · intro hdotted
    rcases hdotted with ⟨segment, hsegment, hdot⟩
    constructor
    · intro text htakes
      have hspelled := parse_of_firstAt hreader ((takes_iff rfl).mp htakes)
      exact (ColumnPath.parse_eq_iff.mp hspelled).1.free segment hsegment hdot
    · intro there nested hfirst hsome hfree hshown
      constructor
      · intro hsame
        have hfound := hfirst.found
        rw [hsame, hreader] at hfound
        cases hfound
        exact hfree segment hsegment hdot
      · refine (takes_iff rfl).mpr ⟨nested, ?_⟩
        have hspelled : ColumnPath.parse '.' (pathOf reader).dotted = pathOf nested := by
          rw [← hshown]
          exact ColumnPath.parse_join ⟨hsome, hfree⟩
        show FirstAt pathOf available (ColumnPath.parse '.' (pathOf reader).dotted) there nested
        rw [hspelled]
        exact hfirst

/-- A column with a dotted name, the nested column that is shown alike and a repetition of it, and
one without a name. -/
def lookalikes : List ColumnPath :=
  [["engine.capacity"], ["engine", "capacity"], ["engine", "capacity"], []]

/-- Dotted, the nested column is reached by the text that both are shown as, and not by the name of
its struct; the column with the dotted name is reached when the delimiter is another one.  The
repetition and the column without a name are not reached at all. -/
theorem reached_iff_first_and_writable_lookalikes :
    let approve : Predicate := fun _ => true
    Text.isBlank '.' = false ∧ Text.isBlank '/' = false ∧
    lookalikes[0]? = some ["engine.capacity"] ∧ lookalikes[1]? = some ["engine", "capacity"] ∧
    lookalikes[2]? = some ["engine", "capacity"] ∧ lookalikes[3]? = some [] ∧
    Reaches '.' approve id lookalikes "engine.capacity" 1 ∧
    ¬ Reaches '.' approve id lookalikes "engine" 1 ∧
    Reaches '/' approve id lookalikes "engine.capacity" 0 ∧
    (∀ text, ¬ (ofColumns [text] approve).Takes id lookalikes 0) ∧
    (ofColumns ["engine.capacity"] approve).Takes id lookalikes 1 ∧
    (¬ ∃ text, Reaches '.' approve id lookalikes text 2) ∧
    ¬ ∃ text, Reaches '.' approve id lookalikes text 3 := by
  intro approve
  have hdot : Text.isBlank '.' = false := by decide
  have hslash : Text.isBlank '/' = false := by decide
  rcases reached_iff_first_and_writable id lookalikes approve hslash
    (show lookalikes[0]? = some ["engine.capacity"] from rfl) with ⟨hdotted, hslashed, _, hhidden⟩
  rcases reached_iff_first_and_writable id lookalikes approve hdot
    (show lookalikes[1]? = some ["engine", "capacity"] from rfl) with ⟨hnested, hspelled, hproper, _⟩
  rcases reached_iff_first_and_writable id lookalikes approve hdot
    (show lookalikes[2]? = some ["engine", "capacity"] from rfl) with ⟨hrepeated, _⟩
  rcases reached_iff_first_and_writable id lookalikes approve hdot
    (show lookalikes[3]? = some [] from rfl) with ⟨hnameless, _⟩
  rcases hhidden ⟨"engine.capacity", by decide, by decide⟩ with ⟨hnever, hlead⟩
  have hearlier : ∀ earlier other, earlier < 1 → lookalikes[earlier]? = some other →
      other ≠ ["engine", "capacity"] := by
    intro earlier other hearlier hother
    cases Nat.lt_one_iff.mp hearlier
    cases hother
    decide
  refine ⟨hdot, hslash, rfl, rfl, rfl, rfl, ?_, ?_, ?_, hnever, ?_, ?_, ?_⟩
  · rcases hnested.mpr ⟨by decide, by decide, hearlier⟩ with ⟨text, htext⟩
    rw [hspelled text htext] at htext
    exact htext
  · exact hproper ["engine"] (by decide) (by decide) (.inl (by decide))
  · rcases hdotted.mpr ⟨by decide, by decide, fun _ _ hnone => nomatch hnone⟩ with ⟨text, htext⟩
    rw [hslashed text htext] at htext
    exact htext
  · exact (hlead 1 ["engine", "capacity"] ⟨rfl, rfl, hearlier⟩ (by decide) (by decide) rfl).2
  · intro hreached
    exact (hrepeated.mp hreached).2.2 1 ["engine", "capacity"] (by decide) rfl rfl
  · intro hreached
    exact (hnameless.mp hreached).1 rfl

end Sieve
end RowSieve
