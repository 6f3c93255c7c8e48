import RowSieve.Proofs.Reader.Flattening
import RowSieve.Proofs.Snapshot.Retelling
import RowSieve.Proofs.Text.Utf8

/-!
# Texts that go through bytes

A column of texts is read as bytes, and a snapshot takes bytes for a text again.  Nothing is lost on
the way: bytes are taken for the text that they spell, and they are refused just if they spell none.
-/

namespace RowSieve

/-!
## Cells that show a text
-/

/-- The slots hold texts, which are read as bytes. -/
def LeafType.HoldsText : LeafType → Prop
  | .utf8 | .largeUtf8 => True
  | _ => False

def Cell.text? : Cell → Option String
  | .slot .utf8 text => some text
  | .slot .largeUtf8 text => some text
  | _ => none

namespace LeafType

variable {type : LeafType}

theorem exists_text (htext : type.HoldsText) (slot : type.Slot) :
    ∃ text, (Cell.slot type slot).text? = some text ∧
      Accessor.binary.take? type slot = some (Utf8.encode text) := by
  cases type with
  | utf8 => exact ⟨slot, rfl, rfl⟩
  | largeUtf8 => exact ⟨slot, rfl, rfl⟩
  | _ => cases htext

theorem physicalType?_of_text (htext : type.HoldsText) : type.physicalType? = some .binary := by
  cases type <;> first | rfl | cases htext

theorem ofSlot_of_text (htext : type.HoldsText) (slot : type.Slot) :
    Cell.ofSlot type slot = .slot type slot :=
  Cell.ofSlot_of_readable (by rw [physicalType?_of_text htext]; rfl) slot

end LeafType

/-!
## Bytes taken for a text
-/

namespace Snapshot

variable {snapshot : Snapshot} {index : Nat} {bytes : Bytes}

theorem getText_eq_ok_iff (hvalue : snapshot.value index = .ok (.binary bytes)) {text : String} :
    snapshot.getText index = .ok text ↔ bytes = Utf8.encode text := by
  rw [← Utf8.text?_eq_some_iff]
  cases htext : bytes.text? with
  | some shown => simp [getText_of_text? hvalue htext]
  | none => simp [getText_of_text?_eq_none hvalue htext]

theorem getText_eq_invalid_iff (hvalue : snapshot.value index = .ok (.binary bytes)) :
    snapshot.getText index = .error (.invalidUtf8 index) ↔ Utf8.Malformed bytes := by
  rw [← Utf8.text?_eq_none_iff]
  cases htext : bytes.text? with
  | some shown => simp [getText_of_text? hvalue htext]
  | none => simp [getText_of_text?_eq_none hvalue htext]

end Snapshot

/-!
## Readings that carry a text

Where a column of texts is not null, its reading carries the text in the slot.
-/

/-- The reading gives the bytes of the text.  Loaded as what it declares, by itself or among others,
it comes back as the text. -/
structure Reading.Carries (reading : Reading Failure) (text : String) : Prop where
  declared_eq : reading.declared = .binary
  get_eq : reading.get .binary = .ok (Utf8.encode text)
  loads : ∃ snapshot, Snapshot.loadDeclared [reading] = .ok snapshot
  comes_back : ∀ (readings : List (Reading Failure)) (place : Nat) (snapshot : Snapshot),
    readings[place]? = some reading → Snapshot.loadDeclared readings = .ok snapshot →
    snapshot.get place .binary = .ok (Utf8.encode text) ∧ snapshot.getText place = .ok text

namespace Reading

variable {reading : Reading Failure} {text : String}

theorem carries_of_read (hdeclared : reading.declared = .binary)
    (hread : reading.read .binary = .ok (.binary (Utf8.encode text))) :
    reading.Carries text := by
  constructor
  · exact hdeclared
  · rcases Snapshot.get_of_read hread with ⟨bytes, hget, hbytes⟩
    cases hbytes
    exact hget
  · refine ⟨⟨[.binary (Utf8.encode text)]⟩, ?_⟩
    rw [← Snapshot.load_declared]
    refine (Snapshot.load_eq_ok_iff (List.length_map _).symm).mpr ?_
    exact .cons (hdeclared ▸ hread) .nil
  · intro readings place snapshot hreading hload
    rw [← Snapshot.load_declared] at hload
    have htype : (readings.map Reading.declared)[place]? = some .binary := by
      rw [List.getElem?_map, hreading, Option.map_some, hdeclared]
    rcases Snapshot.value_of_load hload hreading htype with ⟨value, hshown, hvalue⟩
    cases hread.symm.trans hshown
    exact ⟨Snapshot.get_of_payload? hvalue rfl, (Snapshot.getText_eq_ok_iff hvalue).mpr rfl⟩

end Reading

namespace LeafColumn

variable {column : LeafColumn} {row : Nat}

theorem carries (hmade : column.Made) (htext : column.array.type.HoldsText)
    (hinside : row < column.rows) (hpresent : column.isNullAt row = false) :
    ∃ slot text, column.array.values.get? row = some slot ∧
      (Cell.slot column.array.type slot).text? = some text ∧
      (column.readingAt row).Carries text := by
  have hdeclared : column.declared = .binary := by
    have hdeclares := declares_of_made hmade
    rw [LeafType.physicalType?_of_text htext] at hdeclares
    exact (Option.some.inj hdeclares).symm
  rcases Slots.exists_get? hinside with ⟨slot, hslot⟩
  rcases LeafType.exists_text htext slot with ⟨text, hshown, htake⟩
  have hanswers : column.Answers row .binary (.ok (.binary (Utf8.encode text))) :=
    .shown (.inl hdeclared.symm) hinside hpresent hslot htake
  exact ⟨slot, text, hslot, hshown, Reading.carries_of_read hdeclared (read_of_answers hanswers)⟩

theorem carries_cellAt (path : ColumnPath) {array : Leaf} (htext : array.type.HoldsText) :
    ∃ column, ofColumn path (.leaf array) = .ok column ∧
      ∀ row, row < array.rows → column.isNullAt row = false →
        ∃ text, (array.cellAt row).text? = some text ∧ (column.readingAt row).Carries text := by
  have hcolumn : ofColumn path (.leaf array) = .ok ⟨path, .binary, array, array.validity⟩ := by
    simp only [ofColumn, LeafType.physicalType?_of_text htext]
  refine ⟨_, hcolumn, ?_⟩
  intro row hinside hpresent
  rcases carries (.ofColumn hcolumn) htext hinside hpresent with
    ⟨slot, text, hslot, hshown, hcarries⟩
  have hcell : array.cellAt row = .slot array.type slot := by
    have hholds : array.validity.holds row = true := holds_of_present hinside hpresent
    have hget : array.values.get? row = some slot := hslot
    rw [Leaf.cellAt, if_pos hholds, hget]
    exact LeafType.ofSlot_of_text htext slot
  exact ⟨text, hcell ▸ hshown, hcarries⟩

end LeafColumn

namespace Batch

/-- A column of a batch carries what a walk to its leaf finds in the cells of the row. -/
theorem carries_walk {batch : Batch} (hformed : batch.WellFormed) {address : Address}
    {route : Route} (hroute : batch.columns.routeTo? address = some route)
    (htext : route.leaf.type.HoldsText) :
    ∃ (handle : Nat) (column : LeafColumn),
      batch.columns.readableAddresses[handle]? = some address ∧
      batch.leafColumns[handle]? = some column ∧
      ∀ row, row < batch.rows → column.isNullAt row = false →
        ∃ cell text, (Cell.struct (batch.columns.cellsAt row)).walk address = some cell ∧
          cell.text? = some text ∧ (column.readingAt row).Carries text := by
  have hreadable : route.Readable := by
    rw [Route.Readable, LeafType.physicalType?_of_text htext]
    rfl
  have hmem := Columns.mem_readableAddresses.mpr ⟨route, hroute, hreadable⟩
  rcases List.mem_iff_getElem?.mp hmem with ⟨handle, haddress⟩
  rcases exists_leafColumn haddress with ⟨found, column, hfound, hcolumn, hplace⟩
  cases hroute.symm.trans hfound
  have hcovers := Columns.covers_of_routeTo? hformed hroute
  rcases LeafColumn.fits_of_column? hcovers hcolumn with ⟨hfits, _, harray⟩
  refine ⟨handle, column, haddress, hplace, ?_⟩
  intro row hrow hpresent
  have hinside : row < column.rows := by
    rw [hfits.rows_eq]
    exact hrow
  have hmade : column.Made := .ofBatch (List.mem_of_getElem? hplace)
  -- a struct on the way can be null where the leaf is not, but the column has taken over its nulls
  have hnull : ¬ route.NullAt row :=
    (LeafColumn.holds_iff_not_nullAt hcovers hcolumn row).mp
      (LeafColumn.holds_of_present hinside hpresent)
  rw [← harray] at htext
  rcases LeafColumn.carries hmade htext hinside hpresent with ⟨slot, text, hslot, hshown, hcarries⟩
  have hwalk := (Columns.walk_cellsAt hroute).2 hnull
  rw [← harray] at hwalk
  refine ⟨.slot column.array.type slot, text, ?_, hshown, hcarries⟩
  rw [hwalk slot hslot, LeafType.ofSlot_of_text htext]

end Batch

namespace Snapshot

/-- Texts come back from bytes as what they were.  Bytes in a snapshot are given as a text just if
they are the encoding of that text, and they are refused just if they are the encoding of none, that
is, if they break off somewhere in one of the ways in which bytes can.  A column of texts, by itself
or at any place in a batch, is read as the bytes of its cell where it is not null, and a snapshot of
what it declares gives the text in the cell. -/
theorem texts_come_back_from_bytes :
    (∀ (snapshot : Snapshot) (index : Nat) (bytes : Bytes),
      snapshot.value index = .ok (.binary bytes) →
      (∀ text, snapshot.getText index = .ok text ↔ bytes = Utf8.encode text) ∧
      (snapshot.getText index = .error (.invalidUtf8 index) ↔
        ∀ text, bytes ≠ Utf8.encode text) ∧
      (snapshot.getText index = .error (.invalidUtf8 index) ↔ Utf8.Malformed bytes)) ∧
    (∀ (path : ColumnPath) (array : Leaf), array.type.HoldsText →
      ∃ column, LeafColumn.ofColumn path (.leaf array) = .ok column ∧
        ∀ row, row < array.rows → column.isNullAt row = false →
          ∃ text, (array.cellAt row).text? = some text ∧ (column.readingAt row).Carries text) ∧
    ∀ (batch : Batch) (address : Address) (route : Route), batch.WellFormed →
      batch.columns.routeTo? address = some route → route.leaf.type.HoldsText →
      ∃ (handle : Nat) (column : LeafColumn),
        batch.columns.readableAddresses[handle]? = some address ∧
        batch.leafColumns[handle]? = some column ∧
        ∀ row, row < batch.rows → column.isNullAt row = false →
          ∃ cell text, (Cell.struct (batch.columns.cellsAt row)).walk address = some cell ∧
            cell.text? = some text ∧ (column.readingAt row).Carries text := by
  refine ⟨?_, ?_, ?_⟩
  · intro snapshot index bytes hvalue
    have hinvalid := getText_eq_invalid_iff hvalue
    refine ⟨fun text => getText_eq_ok_iff hvalue, ?_, hinvalid⟩
    rw [hinvalid, Utf8.malformed_iff]
  · intro path array htext
    exact LeafColumn.carries_cellAt path htext
  · intro batch address route hformed hroute htext
    exact Batch.carries_walk hformed hroute htext

/-- A letter of two bytes is given as a text, but not its first byte alone, nor its second, nor a
null in two bytes, half of a pair after a letter, a code point too large or a byte that marks no
form.  The model of the first car comes back, and so does an empty text in a column by itself. -/
theorem texts_come_back_from_bytes_fiesta :
    let kept : Snapshot := ⟨[.binary [0xC3, 0xA9], .binary [0xC3], .binary [0xA9],
      .binary [0xC0, 0x80], .binary [0x65, 0xED, 0xA0, 0x80], .binary [0xF4, 0x90, 0x80, 0x80],
      .binary [0xFF]]⟩
    kept.getText 0 = .ok "é" ∧
    (∀ index, 0 < index → index < 7 → kept.getText index = .error (.invalidUtf8 index)) ∧
    Batch.cars.WellFormed ∧
    (∃ column ∈ Batch.cars.leafColumns, (column.readingAt 0).Carries "fiesta") ∧
    ∃ column, LeafColumn.ofColumn ["trim"] (.leaf ⟨.largeUtf8, .listed ["é", ""], .all⟩) =
        .ok column ∧
      (column.readingAt 1).Carries "" := by
  intro kept
  have hformed : Batch.cars.WellFormed := by decide
  rcases texts_come_back_from_bytes with ⟨hbytes, hcolumns, hbatches⟩
  refine ⟨((hbytes kept 0 _ rfl).1 "é").mpr rfl, ?_, hformed, ?_, ?_⟩
  · intro index hfirst hlast
    match index, hfirst, hlast with
    | 1, _, _ =>
        exact (hbytes kept 1 _ rfl).2.2.mpr ⟨"", _, rfl,
          @Utf8.Broken.missing .two 3 [] [] (by decide) nofun (by decide) nofun⟩
    | 2, _, _ => exact (hbytes kept 2 _ rfl).2.2.mpr ⟨"", _, rfl, .stray (by decide)⟩
    | 3, _, _ =>
        exact (hbytes kept 3 _ rfl).2.2.mpr ⟨"", _, rfl,
          @Utf8.Broken.overlong .two 0 [] (by decide)⟩
    | 4, _, _ =>
        exact (hbytes kept 4 _ rfl).2.2.mpr ⟨"e", _, rfl,
          @Utf8.Broken.surrogate 0xD800 [] (by decide) (by decide)⟩
    | 5, _, _ =>
        exact (hbytes kept 5 _ rfl).2.2.mpr ⟨"", _, rfl,
          @Utf8.Broken.beyond 0x110000 [] (by decide) (by decide)⟩
    | 6, _, _ => exact (hbytes kept 6 _ rfl).2.2.mpr ⟨"", _, rfl, .unmarked (by decide)⟩
  · rcases hbatches Batch.cars [0] _ hformed rfl trivial with
      ⟨handle, column, _, hplace, hcarried⟩
    have hcolumn := List.mem_of_getElem? hplace
    have hpresent : ∀ column ∈ Batch.cars.leafColumns, column.isNullAt 0 = false := by decide
    rcases hcarried 0 (by decide) (hpresent column hcolumn) with
      ⟨cell, text, hwalk, hshown, hcarries⟩
    cases hwalk
    cases hshown
    exact ⟨column, hcolumn, hcarries⟩
  · rcases hcolumns ["trim"] ⟨.largeUtf8, .listed ["é", ""], .all⟩ trivial with
      ⟨column, hcolumn, hcarried⟩
    refine ⟨column, hcolumn, ?_⟩
    cases hcolumn
    rcases hcarried 1 (by decide) rfl with ⟨text, hshown, hcarries⟩
    cases hshown
    exact hcarries

end Snapshot
end RowSieve
