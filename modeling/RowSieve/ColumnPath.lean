/-!
# Column paths

A column's place in a schema is the list of field names from the top column down to the leaf.  In
text a path is written with its segments around a delimiter.  Reading such a text keeps empty
segments, and joining the segments again gives the text back.
-/

namespace RowSieve

/-- Field names from the top column down to the leaf. -/
abbrev ColumnPath := List String

namespace ColumnPath

/-- The stretches of `text` between the occurrences of `delimiter`, empty ones included. -/
def segments (delimiter : Char) : List Char → List (List Char)
  | [] => [[]]
  | c :: rest =>
      if c = delimiter then [] :: segments delimiter rest
      else
        match segments delimiter rest with
        | [] => [[c]]
        | segment :: more => (c :: segment) :: more

def parse (delimiter : Char) (text : String) : ColumnPath :=
  (segments delimiter text.toList).map String.ofList

def join (delimiter : Char) (path : ColumnPath) : String :=
  String.ofList ([delimiter].intercalate (path.map String.toList))

/-- The path as messages and log events show it. -/
def dotted (path : ColumnPath) : String :=
  path.join '.'

/-! ## Reading and joining -/

theorem segments_eq_splitOn (delimiter : Char) (text : List Char) :
    segments delimiter text = text.splitOn delimiter := by
  induction text with
  | nil => rfl
  | cons c rest ih =>
      rw [segments, ih, List.splitOn_cons_eq_if_modifyHead]
      by_cases h : c = delimiter
      · simp [h]
      · cases parts : rest.splitOn delimiter with
        | nil => exact absurd parts (List.splitOn_ne_nil delimiter rest)
        | cons segment more => simp [h]

theorem segments_ne_nil (delimiter : Char) (text : List Char) :
    segments delimiter text ≠ [] := by
  rw [segments_eq_splitOn]
  exact List.splitOn_ne_nil delimiter text

theorem intercalate_segments (delimiter : Char) (text : List Char) :
    [delimiter].intercalate (segments delimiter text) = text := by
  rw [segments_eq_splitOn]
  exact List.intercalate_splitOn delimiter

theorem join_parse (delimiter : Char) (text : String) :
    join delimiter (parse delimiter text) = text := by
  simp [join, parse, Function.comp_def, intercalate_segments]

end ColumnPath

end RowSieve
