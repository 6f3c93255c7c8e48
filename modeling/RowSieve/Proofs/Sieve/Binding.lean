import Mathlib.Data.List.Find
import Mathlib.Data.List.Forall2
import Mathlib.Data.List.Nodup
import Mathlib.Logic.Equiv.Fin.Basic
import RowSieve.Sieve.Sift

/-!
# What binding depends on

A sieve is bound to the first reader at each path that it requests.  The order of the readers
matters only between readers with the same path, and readers that come after the first at a path do
not matter at all.  If a path has no reader then the earliest such path is reported.
-/

namespace RowSieve
namespace Sieve

variable {ρ : Type} {options : Options} {pathOf : ρ → ColumnPath} {available : List ρ}

/-!
## The first reader at a path

It is the one that is found when the readers are looked through in order.
-/

/-- The reader at `place` lies at the path, and none before it does. -/
structure FirstAt (pathOf : ρ → ColumnPath) (available : List ρ) (path : ColumnPath)
    (place : Nat) (reader : ρ) : Prop where
  found : available[place]? = some reader
  path_eq : pathOf reader = path
  least : ∀ earlier other, earlier < place → available[earlier]? = some other →
    pathOf other ≠ path

theorem lookup_eq_some_iff {text : String} {reader : ρ} :
    lookup options pathOf available text = some reader ↔
      ∃ place, FirstAt pathOf available (.parse options.delimiter text) place reader := by
  rw [lookup, List.find?_eq_some_iff_getElem]
  constructor
  · rintro ⟨hpath, place, hplace, hreader, hleast⟩
    refine ⟨place, List.getElem?_eq_some_iff.mpr ⟨hplace, hreader⟩, eq_of_beq hpath, ?_⟩
    intro earlier other hearlier hother hsame
    rcases List.getElem?_eq_some_iff.mp hother with ⟨_, hget⟩
    have hmismatch := hleast earlier hearlier
    rw [hget, hsame] at hmismatch
    simp at hmismatch
  · rintro ⟨place, hfirst⟩
    rcases List.getElem?_eq_some_iff.mp hfirst.found with ⟨hplace, hreader⟩
    refine ⟨beq_iff_eq.mpr hfirst.path_eq, place, hplace, hreader, ?_⟩
    intro earlier hearlier
    have hother := List.getElem?_eq_getElem (Nat.lt_trans hearlier hplace)
    simpa using hfirst.least earlier _ hearlier hother

theorem lookup_eq_none_iff {text : String} :
    lookup options pathOf available text = none ↔
      ∀ reader ∈ available, pathOf reader ≠ .parse options.delimiter text := by
  simp [lookup]

theorem isSome_lookup_iff {text : String} :
    (lookup options pathOf available text).isSome = true ↔
      ∃ reader ∈ available, pathOf reader = .parse options.delimiter text := by
  simp [lookup]

theorem path_of_lookup {text : String} {reader : ρ}
    (hfound : lookup options pathOf available text = some reader) :
    reader ∈ available ∧ pathOf reader = .parse options.delimiter text := by
  rcases lookup_eq_some_iff.mp hfound with ⟨place, hfirst⟩
  exact ⟨List.mem_of_getElem? hfirst.found, hfirst.path_eq⟩

/-!
## Resolving several paths

What comes of it depends on what is found at each of the paths, and on nothing else.
-/

theorem resolve_eq
    (options : Options) (pathOf : ρ → ColumnPath) (available : List ρ) (texts : List String) :
    resolve options pathOf available texts =
      match texts.find? fun text => (lookup options pathOf available text).isNone with
      | some text => .error text
      | none => .ok (texts.filterMap (lookup options pathOf available)) := by
  induction texts with
  | nil => rfl
  | cons text rest ih =>
      rw [resolve, List.find?_cons, List.filterMap_cons]
      cases hfound : lookup options pathOf available text with
      | none => rfl
      | some reader =>
          simp only [Option.isNone_some, ih]
          cases rest.find? fun text => (lookup options pathOf available text).isNone <;> rfl

theorem resolve_eq_ok_iff {texts : List String} {readers : List ρ} :
    resolve options pathOf available texts = .ok readers ↔
      List.Forall₂ (fun text reader => lookup options pathOf available text = some reader)
        texts readers := by
  induction texts generalizing readers with
  | nil =>
      rw [List.forall₂_nil_left_iff, resolve, Except.ok.injEq]
      exact eq_comm
  | cons text rest ih =>
      rw [resolve, List.forall₂_cons_left_iff]
      cases hfound : lookup options pathOf available text with
      | none => simp
      | some reader =>
          constructor
          · intro hresolved
            cases hrest : resolve options pathOf available rest with
            | error missing =>
                rw [hrest] at hresolved
                cases hresolved
            | ok others =>
                rw [hrest] at hresolved
                cases hresolved
                exact ⟨reader, others, rfl, ih.mp hrest, rfl⟩
          · rintro ⟨first, others, hfirst, hothers, hreaders⟩
            cases hfirst
            rw [ih.mpr hothers, hreaders]
            rfl

theorem resolve_eq_error_iff {texts : List String} {missing : String} :
    resolve options pathOf available texts = .error missing ↔
      ∃ before after, texts = before ++ missing :: after ∧
        lookup options pathOf available missing = none ∧
        ∀ text ∈ before, (lookup options pathOf available text).isSome = true := by
  rw [resolve_eq]
  constructor
  · intro hresolved
    cases hfind : texts.find? fun text => (lookup options pathOf available text).isNone with
    | none =>
        rw [hfind] at hresolved
        cases hresolved
    | some text =>
        rw [hfind] at hresolved
        cases hresolved
        rcases List.find?_eq_some_iff_append.mp hfind with ⟨hnone, before, after, hsplit, hbefore⟩
        refine ⟨before, after, hsplit, Option.isNone_iff_eq_none.mp hnone, ?_⟩
        intro earlier hearlier
        simpa using hbefore earlier hearlier
  · rintro ⟨before, after, hsplit, hnone, hbefore⟩
    have hfind : (texts.find? fun text => (lookup options pathOf available text).isNone) =
        some missing := by
      refine List.find?_eq_some_iff_append.mpr ⟨Option.isNone_iff_eq_none.mpr hnone, before,
        after, hsplit, ?_⟩
      intro earlier hearlier
      simpa using hbefore earlier hearlier
    rw [hfind]

theorem resolve_congr {other : List ρ} {texts : List String}
    (hlookup : ∀ text ∈ texts,
      lookup options pathOf other text = lookup options pathOf available text) :
    resolve options pathOf other texts = resolve options pathOf available texts := by
  induction texts with
  | nil => rfl
  | cons text rest ih =>
      rcases List.forall_mem_cons.mp hlookup with ⟨hhere, hrest⟩
      rw [resolve, resolve, hhere, ih hrest]

/-- Once all paths are resolved, each of them has found one of the readers, and each reader was
found at one of the paths. -/
theorem found_of_resolved {texts : List String} {readers : List ρ}
    (hresolved : resolve options pathOf available texts = .ok readers) :
    (∀ text ∈ texts, ∃ reader ∈ readers, lookup options pathOf available text = some reader) ∧
      ∀ reader ∈ readers, ∃ text ∈ texts, lookup options pathOf available text = some reader := by
  have hfound := resolve_eq_ok_iff.mp hresolved
  clear hresolved
  induction hfound with
  | nil => simp
  | cons hhere _ ih =>
      rcases ih with ⟨htexts, hreaders⟩
      constructor
      · intro text htext
        rcases List.mem_cons.mp htext with hsame | hrest
        · exact ⟨_, List.mem_cons_self, hsame ▸ hhere⟩
        · rcases htexts text hrest with ⟨reader, hreader, hfound⟩
          exact ⟨reader, List.mem_cons_of_mem _ hreader, hfound⟩
      · intro reader hreader
        rcases List.mem_cons.mp hreader with hsame | hrest
        · exact ⟨_, List.mem_cons_self, hsame ▸ hhere⟩
        · rcases hreaders reader hrest with ⟨text, htext, hfound⟩
          exact ⟨text, List.mem_cons_of_mem _ htext, hfound⟩

/-!
## Binding
-/

/-- The earliest requested path that is none of the given ones. -/
def missing? (sieve : Sieve) (paths : List ColumnPath) : Option String :=
  sieve.paths.find? fun text => !paths.contains (ColumnPath.parse sieve.options.delimiter text)

theorem isNone_lookup
    (options : Options) (pathOf : ρ → ColumnPath) (available : List ρ) (text : String) :
    (lookup options pathOf available text).isNone =
      !(available.map pathOf).contains (ColumnPath.parse options.delimiter text) := by
  induction available with
  | nil => rfl
  | cons reader rest ih =>
      rw [lookup, List.find?_cons, List.map_cons, List.contains_cons]
      rw [Bool.beq_comm (a := ColumnPath.parse options.delimiter text)]
      cases hpath : pathOf reader == ColumnPath.parse options.delimiter text with
      | true => rfl
      | false => exact ih

theorem missing?_map (sieve : Sieve) (pathOf : ρ → ColumnPath) (available : List ρ) :
    sieve.missing? (available.map pathOf) =
      sieve.paths.find? fun text => (lookup sieve.options pathOf available text).isNone := by
  simp only [missing?, isNone_lookup]

theorem result_bind (sieve : Sieve) (pathOf : ρ → ColumnPath) (available : List ρ) :
    (sieve.bind pathOf available).result =
      match sieve.missing? (available.map pathOf) with
      | some text => .error (.unresolvedColumn text)
      | none =>
          .ok ⟨sieve.paths.filterMap (lookup sieve.options pathOf available), sieve.predicate⟩ := by
  rw [bind, resolve_eq, missing?_map]
  cases sieve.paths.find? fun text => (lookup sieve.options pathOf available text).isNone <;> rfl

variable {sieve : Sieve}

theorem missing?_eq_none_iff {paths : List ColumnPath} :
    sieve.missing? paths = none ↔
      ∀ text ∈ sieve.paths, ColumnPath.parse sieve.options.delimiter text ∈ paths := by
  simp [missing?]

theorem bind_eq_ok_iff {bound : BoundSieve ρ} :
    (sieve.bind pathOf available).result = .ok bound ↔
      resolve sieve.options pathOf available sieve.paths = .ok bound.readers ∧
        bound.predicate = sieve.predicate := by
  rcases bound with ⟨readers, predicate⟩
  rw [bind]
  cases resolve sieve.options pathOf available sieve.paths with
  | error missing => simp
  | ok found => simp [eq_comm]

theorem exists_bind_iff :
    (∃ bound, (sieve.bind pathOf available).result = .ok bound) ↔
      sieve.missing? (available.map pathOf) = none := by
  rw [result_bind]
  cases sieve.missing? (available.map pathOf) with
  | none => exact ⟨fun _ => rfl, fun _ => ⟨_, rfl⟩⟩
  | some text => simp

theorem bind_eq_error_iff {failure : Failure} :
    (sieve.bind pathOf available).result = .error failure ↔
      ∃ missing, resolve sieve.options pathOf available sieve.paths = .error missing ∧
        failure = .unresolvedColumn missing := by
  rw [bind]
  cases resolve sieve.options pathOf available sieve.paths with
  | error missing => simp [eq_comm]
  | ok found => simp

theorem shown_of_bind (sieve : Sieve) (pathOf : ρ → ColumnPath) (available : List ρ) :
    (sieve.bind pathOf available).shown = [] := by
  rw [bind]
  cases resolve sieve.options pathOf available sieve.paths <;> rfl

/-- The path that a requested text spells: what stands between the delimiters, be it empty or
not. -/
def spelled (sieve : Sieve) (text : String) : ColumnPath :=
  (text.toList.splitOn sieve.options.delimiter).map String.ofList

theorem spelled_eq_parse (sieve : Sieve) :
    sieve.spelled = ColumnPath.parse sieve.options.delimiter := by
  funext text
  rw [spelled, ColumnPath.parse, ColumnPath.segments_eq_splitOn]

/-- Binding is exact, and all or nothing.  It succeeds when each requested path has a reader, and
the bound readers are then, path by path, the first ones.  Otherwise it reports the earliest path
that has none, as it was written.  What the predicate is plays no part, and it is not applied. -/
theorem bind_takes_firsts (sieve : Sieve) (pathOf : ρ → ColumnPath) (available : List ρ) :
    ((∃ bound, (sieve.bind pathOf available).result = .ok bound) ↔
      ∀ text ∈ sieve.paths, ∃ reader ∈ available, pathOf reader = sieve.spelled text) ∧
    (∀ bound, (sieve.bind pathOf available).result = .ok bound ↔
      List.Forall₂
        (fun text reader => ∃ place,
          FirstAt pathOf available (sieve.spelled text) place reader)
        sieve.paths bound.readers ∧
      bound.predicate = sieve.predicate) ∧
    (∀ failure, (sieve.bind pathOf available).result = .error failure ↔
      ∃ before missing after, sieve.paths = before ++ missing :: after ∧
        failure = .unresolvedColumn missing ∧
        (∀ reader ∈ available, pathOf reader ≠ sieve.spelled missing) ∧
        ∀ text ∈ before, ∃ reader ∈ available, pathOf reader = sieve.spelled text) ∧
    (sieve.bind pathOf available).applications = 0 := by
  rw [spelled_eq_parse]
  refine ⟨?_, ?_, ?_, ?_⟩
  · rw [exists_bind_iff, missing?_eq_none_iff]
    simp only [List.mem_map]
  · intro bound
    rw [bind_eq_ok_iff, resolve_eq_ok_iff]
    simp only [lookup_eq_some_iff]
  · intro failure
    rw [bind_eq_error_iff]
    simp only [resolve_eq_error_iff, lookup_eq_none_iff, isSome_lookup_iff]
    constructor
    · rintro ⟨missing, ⟨before, after, hsplit, hnone, hbefore⟩, hfailure⟩
      exact ⟨before, missing, after, hsplit, hfailure, hnone, hbefore⟩
    · rintro ⟨before, missing, after, hsplit, hfailure, hnone, hbefore⟩
      exact ⟨missing, ⟨before, after, hsplit, hnone, hbefore⟩, hfailure⟩
  · rw [Traced.applications, shown_of_bind]
    rfl

/-- A path that is asked for twice gets its first reader twice, an empty segment is one like any
other, and with slashes between segments dots belong to the names of fields.  Of two paths without a
reader the earlier is reported. -/
theorem bind_takes_firsts_slashed :
    let readers : List (Nat × ColumnPath) :=
      [(0, ["a"]), (1, ["b", ""]), (2, ["a"]), (3, ["b.c"])]
    let sieve : Sieve := ⟨["a", "b/", "b.c", "a"], fun _ => true, ⟨'/'⟩⟩
    let other : Sieve := ⟨["a", "b", "b/c"], fun _ => true, ⟨'/'⟩⟩
    sieve.paths.map sieve.spelled = [["a"], ["b", ""], ["b.c"], ["a"]] ∧
    (sieve.bind Prod.snd readers).result =
      .ok ⟨[(0, ["a"]), (1, ["b", ""]), (3, ["b.c"]), (0, ["a"])], sieve.predicate⟩ ∧
    (other.bind Prod.snd readers).result = .error (.unresolvedColumn "b") ∧
    (other.bind Prod.snd readers).applications = 0 := by
  intro readers sieve other
  rcases bind_takes_firsts sieve Prod.snd readers with ⟨_, hbound, _, _⟩
  rcases bind_takes_firsts other Prod.snd readers with ⟨_, _, hfailed, hnever⟩
  have hfirst : ∀ text reader, lookup sieve.options Prod.snd readers text = some reader →
      ∃ place, FirstAt Prod.snd readers (sieve.spelled text) place reader := by
    intro text reader hreader
    rw [spelled_eq_parse]
    exact lookup_eq_some_iff.mp hreader
  refine ⟨by decide +kernel, ?_, ?_, hnever⟩
  · refine (hbound _).mpr ⟨?_, rfl⟩
    exact .cons (hfirst "a" _ rfl) <| .cons (hfirst "b/" _ rfl) <| .cons (hfirst "b.c" _ rfl) <|
      .cons (hfirst "a" _ rfl) .nil
  · exact (hfailed _).mpr
      ⟨["a"], "b", ["b/c"], rfl, rfl, by decide +kernel, by decide +kernel⟩

/-!
## Other lists of readers

Whatever leaves the first reader at each path in its place leaves binding as it was.
-/

/-- The other list holds the same readers in another order, in which any two that lie at the same
path come in the same order as before. -/
structure Reordered (pathOf : ρ → ColumnPath) (available other : List ρ)
    (place : Fin available.length ≃ Fin other.length) : Prop where
  same : ∀ i, other.get (place i) = available.get i
  stable : ∀ i j, i < j → pathOf (available.get i) = pathOf (available.get j) → place i < place j

theorem mem_of_reordered
    {other : List ρ} {place : Fin available.length ≃ Fin other.length}
    (hreordered : Reordered pathOf available other place) {reader : ρ} (hreader : reader ∈ other) :
    reader ∈ available := by
  rcases List.mem_iff_get.mp hreader with ⟨there, hthere⟩
  have hsame := hreordered.same (place.symm there)
  rw [Equiv.apply_symm_apply, hthere] at hsame
  rw [hsame]
  exact List.get_mem available _

theorem firstAt_of_reordered
    {other : List ρ} {place : Fin available.length ≃ Fin other.length}
    (hreordered : Reordered pathOf available other place) {path : ColumnPath} {first : Nat}
    {reader : ρ} (hfirst : FirstAt pathOf available path first reader) :
    ∃ there, FirstAt pathOf other path there reader := by
  rcases List.getElem?_eq_some_iff.mp hfirst.found with ⟨hbound, hreader⟩
  let here : Fin available.length := ⟨first, hbound⟩
  have hthere : other.get (place here) = reader := (hreordered.same here).trans hreader
  refine ⟨place here, ?_, hfirst.path_eq, ?_⟩
  · exact List.getElem?_eq_some_iff.mpr ⟨(place here).isLt, hthere⟩
  · -- whatever lies at the path before that place also came before the first reader
    intro earlier rival hearlier hrival hpath
    rcases List.getElem?_eq_some_iff.mp hrival with ⟨hearlierBound, hget⟩
    let origin := place.symm ⟨earlier, hearlierBound⟩
    have horigin : place origin = ⟨earlier, hearlierBound⟩ := Equiv.apply_symm_apply _ _
    have hrivalHere : available.get origin = rival := by
      rw [← hreordered.same origin, horigin]
      exact hget
    rcases Nat.lt_trichotomy origin.val first with hbefore | hsame | hafter
    · exact hfirst.least origin rival hbefore
        (List.getElem?_eq_some_iff.mpr ⟨origin.isLt, hrivalHere⟩) hpath
    · have hplace : place origin = place here := congrArg place (Fin.ext hsame)
      rw [horigin] at hplace
      exact absurd (congrArg Fin.val hplace) (Nat.ne_of_lt hearlier)
    · have hpaths : pathOf (available.get here) = pathOf (available.get origin) := by
        rw [hrivalHere, hpath, ← hfirst.path_eq]
        exact congrArg pathOf hreader
      have hlater := hreordered.stable here origin hafter hpaths
      rw [horigin] at hlater
      exact absurd hearlier (Nat.lt_asymm hlater)

theorem lookup_of_reordered
    {other : List ρ} {place : Fin available.length ≃ Fin other.length}
    (hreordered : Reordered pathOf available other place) (text : String) :
    lookup options pathOf other text = lookup options pathOf available text := by
  cases hfound : lookup options pathOf available text with
  | none =>
      apply lookup_eq_none_iff.mpr
      intro reader hreader
      exact lookup_eq_none_iff.mp hfound reader (mem_of_reordered hreordered hreader)
  | some reader =>
      rcases lookup_eq_some_iff.mp hfound with ⟨first, hfirst⟩
      exact lookup_eq_some_iff.mpr (firstAt_of_reordered hreordered hfirst)

theorem lookup_of_perm
    {other : List ρ} (hdistinct : (available.map pathOf).Nodup) (hperm : available.Perm other)
    (text : String) :
    lookup options pathOf other text = lookup options pathOf available text := by
  symm
  apply List.find?_eq_find?_of_perm hperm
  intro reader hreader rival hrival
  rcases hreader with ⟨hmem, hpath⟩
  rcases hrival with ⟨hrivalMem, hrivalPath⟩
  apply List.inj_on_of_nodup_map hdistinct hmem hrivalMem
  rw [eq_of_beq hpath, eq_of_beq hrivalPath]

theorem lookup_append {more : List ρ} {text : String} {reader : ρ}
    (hfound : lookup options pathOf available text = some reader) :
    lookup options pathOf (available ++ more) text = some reader := by
  have hfind : (available.find? fun reader => pathOf reader == .parse options.delimiter text) =
      some reader := hfound
  rw [lookup, List.find?_append, hfind]
  rfl

theorem lookup_among_found
    {readers : List ρ}
    (hfound : ∀ reader ∈ readers, ∃ text, lookup options pathOf available text = some reader)
    {text : String} {reader : ρ} (hreader : lookup options pathOf available text = some reader)
    (hmem : reader ∈ readers) :
    lookup options pathOf readers text = some reader := by
  have hpath := (path_of_lookup hreader).2
  rcases Option.isSome_iff_exists.mp (isSome_lookup_iff.mpr ⟨reader, hmem, hpath⟩) with
    ⟨again, hagain⟩
  rcases path_of_lookup hagain with ⟨hagainMem, hagainPath⟩
  -- whatever is found now was first found at a text that spells the same path
  rcases hfound again hagainMem with ⟨other, hother⟩
  have hspelled := (path_of_lookup hother).2.symm.trans hagainPath
  rw [lookup, hspelled] at hother
  rw [hagain, ← hother]
  exact hreader

theorem bind_congr {other : List ρ} (hlength : other.length = available.length)
    (hlookup : ∀ text, lookup sieve.options pathOf other text =
      lookup sieve.options pathOf available text) :
    sieve.bind pathOf other = sieve.bind pathOf available := by
  rw [bind, bind, resolve_congr fun text _ => hlookup text, hlength]

/-- Binding depends on the readers only through the first one at each path.  It does not change
when readers at different paths change places, in particular not under any permutation of readers
at distinct paths.  Once it succeeds, it gives the same readers when further ones are put after the
others, and when those that it gave are all there are. -/
theorem bind_depends_on_firsts (sieve : Sieve) (pathOf : ρ → ColumnPath) (available : List ρ) :
    (∀ other place, Reordered pathOf available other place →
      sieve.bind pathOf other = sieve.bind pathOf available) ∧
    ((available.map pathOf).Nodup → ∀ other, available.Perm other →
      sieve.bind pathOf other = sieve.bind pathOf available) ∧
    (∀ bound, (sieve.bind pathOf available).result = .ok bound →
      (∀ more, (sieve.bind pathOf (available ++ more)).result = .ok bound) ∧
      (sieve.bind pathOf bound.readers).result = .ok bound) := by
  refine ⟨?_, ?_, ?_⟩
  · intro other place hreordered
    have hlength : other.length = available.length := (Fin.equiv_iff_eq.mp ⟨place⟩).symm
    exact bind_congr hlength (lookup_of_reordered hreordered)
  · intro hdistinct other hperm
    exact bind_congr hperm.length_eq.symm (lookup_of_perm hdistinct hperm)
  · intro bound hbound
    rcases bind_eq_ok_iff.mp hbound with ⟨hresolved, hpredicate⟩
    rcases found_of_resolved hresolved with ⟨htexts, hreaders⟩
    constructor
    · intro more
      refine bind_eq_ok_iff.mpr ⟨?_, hpredicate⟩
      rw [← hresolved]
      apply resolve_congr
      intro text htext
      rcases htexts text htext with ⟨reader, _, hfound⟩
      rw [hfound, lookup_append hfound]
    · refine bind_eq_ok_iff.mpr ⟨?_, hpredicate⟩
      rw [← hresolved]
      apply resolve_congr
      intro text htext
      rcases htexts text htext with ⟨reader, hmem, hfound⟩
      have hfoundAll : ∀ reader ∈ bound.readers, ∃ text,
          lookup sieve.options pathOf available text = some reader := by
        intro reader hreader
        rcases hreaders reader hreader with ⟨text, _, hfound⟩
        exact ⟨text, hfound⟩
      rw [hfound, lookup_among_found hfoundAll hfound hmem]

/-- Numbered readers, two of them at one path. -/
def numbered : List (Nat × ColumnPath) :=
  [(0, ["a"]), (1, ["b", "c"]), (2, ["a"])]

/-- The first two of the numbered readers change places, a fourth is put after them, and the sieve
is bound again to what it was bound to; the reader numbered 0 is taken twice each time. -/
theorem bind_depends_on_firsts_numbered :
    let sieve := Sieve.ofColumns ["a", "b.c", "a"] fun _ => true
    let bound : BoundSieve (Nat × ColumnPath) :=
      ⟨[(0, ["a"]), (1, ["b", "c"]), (0, ["a"])], fun _ => true⟩
    Reordered Prod.snd numbered [(1, ["b", "c"]), (0, ["a"]), (2, ["a"])]
      (Equiv.swap (0 : Fin 3) (1 : Fin 3) : Fin 3 ≃ Fin 3) ∧
    sieve.bind Prod.snd [(1, ["b", "c"]), (0, ["a"]), (2, ["a"])] = sieve.bind Prod.snd numbered ∧
    ((numbered.take 2).map Prod.snd).Nodup ∧
    sieve.bind Prod.snd (numbered.take 2).reverse = sieve.bind Prod.snd (numbered.take 2) ∧
    (sieve.bind Prod.snd numbered).result = .ok bound ∧
    (sieve.bind Prod.snd (numbered ++ [(3, ["b", "c"])])).result = .ok bound ∧
    (sieve.bind Prod.snd bound.readers).result = .ok bound := by
  intro sieve bound
  have hreordered : Reordered Prod.snd numbered [(1, ["b", "c"]), (0, ["a"]), (2, ["a"])]
      (Equiv.swap (0 : Fin 3) (1 : Fin 3) : Fin 3 ≃ Fin 3) := ⟨by decide, by decide⟩
  have hdistinct : ((numbered.take 2).map Prod.snd).Nodup := by decide
  have hbound : (sieve.bind Prod.snd numbered).result = .ok bound := by rfl
  rcases bind_depends_on_firsts sieve Prod.snd numbered with ⟨hany, _, hmore⟩
  rcases bind_depends_on_firsts sieve Prod.snd (numbered.take 2) with ⟨_, hperm, _⟩
  rcases hmore bound hbound with ⟨happend, hagain⟩
  exact ⟨hreordered, hany _ _ hreordered, hdistinct, hperm hdistinct _ (List.reverse_perm _).symm,
    hbound, happend _, hagain⟩

end Sieve
end RowSieve
