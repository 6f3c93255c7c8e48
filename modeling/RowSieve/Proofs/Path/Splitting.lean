import RowSieve.ColumnPath

/-!
# Splitting and joining

Reading a text splits it at every delimiter, at none too many and at none too few, so joining the
segments gives the text back.  A path can be written with a delimiter when it has a segment and none
of its segments holds the delimiter; such a path is read back as it was written, and no other path
is ever read.
-/

namespace RowSieve
namespace ColumnPath

variable {delimiter : Char} {path : ColumnPath} {text : String}

/-- The path has a segment, and no segment holds the delimiter. -/
structure Writable (delimiter : Char) (path : ColumnPath) : Prop where
  nonempty : path ≠ []
  free : ∀ segment ∈ path, delimiter ∉ segment.toList

instance (delimiter : Char) (path : ColumnPath) : Decidable (path.Writable delimiter) :=
  decidable_of_iff (path ≠ [] ∧ ∀ segment ∈ path, delimiter ∉ segment.toList)
    ⟨fun h => ⟨h.1, h.2⟩, fun h => ⟨h.nonempty, h.free⟩⟩

/-!
## Splitting
-/

theorem segments_append_delimiter
    {front : List Char} (hfront : delimiter ∉ front) (text : List Char) :
    segments delimiter (front ++ delimiter :: text) = front :: segments delimiter text := by
  rw [segments_eq_splitOn, segments_eq_splitOn]
  exact List.splitOn_append_cons_self_of_not_mem hfront text

theorem length_segments (delimiter : Char) (text : List Char) :
    (segments delimiter text).length = text.count delimiter + 1 := by
  induction text with
  | nil => rfl
  | cons c rest ih =>
      rw [segments_eq_splitOn] at ih ⊢
      rw [List.splitOn_cons_eq_if_modifyHead, List.count_cons]
      by_cases h : c = delimiter
      · simp [h, ih]
      · simp [h, ih]

theorem notMem_of_mem_segments
    {text segment : List Char} (hsegment : segment ∈ segments delimiter text) :
    delimiter ∉ segment := by
  induction text generalizing segment with
  | nil =>
      rw [segments, List.mem_singleton] at hsegment
      rw [hsegment]
      exact List.not_mem_nil
  | cons c rest ih =>
      rw [segments] at hsegment
      by_cases h : c = delimiter
      · rw [if_pos h] at hsegment
        rcases List.mem_cons.mp hsegment with hempty | hlater
        · rw [hempty]
          exact List.not_mem_nil
        · exact ih hlater
      · rw [if_neg h] at hsegment
        cases hparts : segments delimiter rest with
        | nil => exact absurd hparts (segments_ne_nil delimiter rest)
        | cons first more =>
            rw [hparts] at hsegment
            rcases List.mem_cons.mp hsegment with hfirst | hlater
            · rw [hfirst, List.mem_cons, not_or]
              exact ⟨fun hsame => h hsame.symm, ih (hparts ▸ List.mem_cons_self)⟩
            · exact ih (hparts ▸ List.mem_cons_of_mem first hlater)

theorem length_parse (delimiter : Char) (text : String) :
    (parse delimiter text).length = text.toList.count delimiter + 1 := by
  rw [parse, List.length_map, length_segments]

theorem writable_parse (delimiter : Char) (text : String) :
    (parse delimiter text).Writable delimiter where
  nonempty := by
    rw [parse, ne_eq, List.map_eq_nil_iff]
    exact segments_ne_nil delimiter text.toList
  free := by
    intro segment hsegment
    rcases List.mem_map.mp hsegment with ⟨stretch, hstretch, hmade⟩
    rw [← hmade, String.toList_ofList]
    exact notMem_of_mem_segments hstretch

/-!
## Joining

What can be written is read back, and whatever is read can be written.
-/

theorem join_eq_intercalate (delimiter : Char) (path : ColumnPath) :
    path.join delimiter = (String.singleton delimiter).intercalate path := by
  rw [join, ← String.toList_inj, String.toList_ofList, String.toList_intercalate,
    String.toList_singleton]

theorem dotted_eq_intercalate (path : ColumnPath) : path.dotted = ".".intercalate path :=
  join_eq_intercalate '.' path

theorem join_append
    {front back : ColumnPath} (delimiter : Char) (hfront : front ≠ []) (hback : back ≠ []) :
    (front ++ back).join delimiter =
      front.join delimiter ++ String.singleton delimiter ++ back.join delimiter := by
  rw [join_eq_intercalate, join_eq_intercalate, join_eq_intercalate]
  exact String.intercalate_append_of_ne_nil hfront hback

theorem join_ne_of_prefix
    {front whole : ColumnPath} (delimiter : Char) (hfront : front ≠ []) (hstarts : front <+: whole)
    (hproper : front ≠ whole) :
    front.join delimiter ≠ whole.join delimiter := by
  rcases hstarts with ⟨back, hwhole⟩
  have hback : back ≠ [] := by
    intro hnone
    rw [hnone, List.append_nil] at hwhole
    exact hproper hwhole
  intro hsame
  rw [← hwhole, join_append delimiter hfront hback] at hsame
  have hlength := congrArg String.length hsame
  rw [String.length_append, String.length_append, String.length_singleton] at hlength
  omega

theorem parse_join (hwritable : path.Writable delimiter) :
    parse delimiter (path.join delimiter) = path := by
  have hfree : ∀ stretch ∈ path.map String.toList, delimiter ∉ stretch := by
    intro stretch hstretch
    rcases List.mem_map.mp hstretch with ⟨segment, hsegment, hmade⟩
    rw [← hmade]
    exact hwritable.free segment hsegment
  have hsome : path.map String.toList ≠ [] := by
    rw [ne_eq, List.map_eq_nil_iff]
    exact hwritable.nonempty
  rw [parse, join, String.toList_ofList, segments_eq_splitOn,
    List.splitOn_intercalate delimiter hfree hsome, List.map_map]
  simp [Function.comp_def]

/-- A path is read from its written form and from no other text. -/
theorem parse_eq_iff :
    parse delimiter text = path ↔ path.Writable delimiter ∧ text = path.join delimiter := by
  constructor
  · intro hread
    rw [← hread]
    exact ⟨writable_parse delimiter text, (join_parse delimiter text).symm⟩
  · intro hboth
    rcases hboth with ⟨hwritable, htext⟩
    rw [htext]
    exact parse_join hwritable

/-- Splitting and joining are inverse to one another.  A text is split at each of its delimiters and
nowhere else, and joining the segments gives it back; a path that can be written is read back from
its joined segments.  So no two texts are read alike, and what can be written is all that is ever
read. -/
theorem splitting_inverts_joining (delimiter : Char) :
    (∀ text : String,
      (parse delimiter text).length = text.toList.count delimiter + 1 ∧
      parse delimiter text ≠ [] ∧
      (∀ segment ∈ parse delimiter text, delimiter ∉ segment.toList) ∧
      (parse delimiter text).join delimiter = text) ∧
    (∀ path : ColumnPath, path ≠ [] → (∀ segment ∈ path, delimiter ∉ segment.toList) →
      parse delimiter (path.join delimiter) = path) ∧
    (∀ text other, parse delimiter text = parse delimiter other → text = other) ∧
    (∀ path : ColumnPath, (∃ text, parse delimiter text = path) ↔
      path ≠ [] ∧ ∀ segment ∈ path, delimiter ∉ segment.toList) := by
  refine ⟨?_, ?_, ?_, ?_⟩
  · intro text
    have hwritable := writable_parse delimiter text
    exact ⟨length_parse delimiter text, hwritable.nonempty, hwritable.free,
      join_parse delimiter text⟩
  · intro path hsome hfree
    exact parse_join ⟨hsome, hfree⟩
  · intro text other hsame
    rw [← join_parse delimiter text, hsame, join_parse]
  · intro path
    constructor
    · intro hread
      rcases hread with ⟨text, hread⟩
      have hwritable := (parse_eq_iff.mp hread).1
      exact ⟨hwritable.nonempty, hwritable.free⟩
    · intro hmeans
      rcases hmeans with ⟨hsome, hfree⟩
      exact ⟨path.join delimiter, parse_join ⟨hsome, hfree⟩⟩

/-- Empty segments in front, in the middle and at the end are kept both ways, and a segment may hold
a dot when paths are not dotted. -/
theorem splitting_inverts_joining_slashed :
    parse '/' (join '/' ["", "a.b", "", ""]) = ["", "a.b", "", ""] ∧
      join '/' (parse '/' "/a.b//") = "/a.b//" ∧ (parse '/' "/a.b//").length = 4 := by
  rcases splitting_inverts_joining '/' with ⟨htexts, hpaths, _, _⟩
  rcases htexts "/a.b//" with ⟨hlength, _, _, hjoin⟩
  exact ⟨hpaths ["", "a.b", "", ""] (by decide) (by decide), hjoin, hlength⟩

end ColumnPath
end RowSieve
