import RowSieve.Column.Slots
import RowSieve.Mask

/-!
# Selecting rows

Laws of masks and windows that the theory of batches rests on: what a mask keeps when it marks no
row or every row, what two masks keep one after the other, which rows two masks mark side by side,
and how rows that are given by a function of their number are selected.
-/

namespace RowSieve
namespace Mask

variable {α : Type}

/-!
## Marked rows

A mask marks at most as many rows as it has bits.  The extreme masks are recognised by the number
of rows that they mark.
-/

theorem marked_le_length (mask : Mask) : mask.marked ≤ mask.length :=
  List.count_le_length

theorem lt_length_of_getElem?_rows
    {mask : Mask} {k row : Nat} (hrow : mask.rows[k]? = some row) :
    row < mask.length := by
  have hmarked : mask[row]? = some true := mem_rows.mp (List.mem_of_getElem? hrow)
  exact (List.getElem?_eq_some_iff.mp hmarked).1

theorem exists_getElem?_rows
    {mask : Mask} {k : Nat} (hk : k < mask.marked) :
    ∃ row, mask.rows[k]? = some row := by
  have hlength : k < mask.rows.length := by
    rw [length_rows]
    exact hk
  exact ⟨mask.rows[k], List.getElem?_eq_getElem hlength⟩

theorem lt_marked_of_getElem?_rows
    {mask : Mask} {k row : Nat} (hrow : mask.rows[k]? = some row) :
    k < mask.marked := by
  rw [← length_rows]
  exact (List.getElem?_eq_some_iff.mp hrow).1

theorem marked_eq_zero_iff {mask : Mask} : mask.marked = 0 ↔ true ∉ mask :=
  List.count_eq_zero

theorem marked_eq_length_iff {mask : Mask} : mask.marked = mask.length ↔ false ∉ mask := by
  rw [marked, List.count_eq_length]
  constructor
  · intro hall hfalse
    exact Bool.noConfusion (hall false hfalse)
  · intro hnone bit hbit
    cases bit with
    | false => exact absurd hbit hnone
    | true => rfl

theorem select_eq_nil
    {mask : Mask} {xs : List α} (hlength : mask.length = xs.length) (hnone : mask.marked = 0) :
    mask.select xs = [] := by
  apply List.eq_nil_of_length_eq_zero
  rw [length_select mask xs hlength, hnone]

theorem select_eq_self
    {mask : Mask} {xs : List α} (hlength : mask.length = xs.length)
    (hall : mask.marked = mask.length) :
    mask.select xs = xs := by
  induction mask generalizing xs with
  | nil =>
      have hnil : xs = [] := List.length_eq_zero_iff.mp hlength.symm
      rw [hnil]
      rfl
  | cons bit mask ih =>
      cases xs with
      | nil => cases hlength
      | cons x xs =>
          have hmask : mask.length = xs.length := by simpa using hlength
          have hbound := marked_le_length mask
          cases bit with
          | true =>
              have hrest : marked mask = mask.length := by simpa [marked] using hall
              show x :: select mask xs = x :: xs
              rw [ih hmask hrest]
          | false =>
              have hrest : marked mask = mask.length + 1 := by simpa [marked] using hall
              omega

/-!
## Masks one after the other and side by side
-/

/-- What a second mask keeps of the rows that a first one kept, both keep together. -/
theorem select_select (outer inner : Mask) (xs : List α) :
    select (select outer inner) (select outer xs) =
      select (List.zipWith and outer inner) xs := by
  induction outer generalizing inner xs with
  | nil => rfl
  | cons bit outer ih =>
      cases inner with
      | nil => cases bit <;> rfl
      | cons other inner =>
          cases xs with
          | nil => simp
          | cons x xs =>
              cases bit with
              | false => exact ih inner xs
              | true =>
                  cases other with
                  | false => exact ih inner xs
                  | true => exact congrArg (x :: ·) (ih inner xs)

theorem rowsFrom_append (first : Nat) (front back : Mask) :
    rowsFrom first (front ++ back) =
      rowsFrom first front ++ rowsFrom (first + front.length) back := by
  induction front generalizing first with
  | nil => rfl
  | cons bit front ih =>
      have hshift : first + 1 + front.length = first + (bit :: front).length := by
        simp only [List.length_cons]
        omega
      cases bit with
      | true =>
          show first :: rowsFrom (first + 1) (front ++ back) = _
          rw [ih (first + 1), hshift]
          rfl
      | false =>
          show rowsFrom (first + 1) (front ++ back) = _
          rw [ih (first + 1), hshift]
          rfl

theorem rowsFrom_add (first offset : Nat) (mask : Mask) :
    rowsFrom (first + offset) mask = (rowsFrom first mask).map (· + offset) := by
  induction mask generalizing first with
  | nil => rfl
  | cons bit mask ih =>
      have hshift : first + offset + 1 = first + 1 + offset := by omega
      cases bit with
      | true =>
          show (first + offset) :: rowsFrom (first + offset + 1) mask = _
          rw [hshift, ih (first + 1)]
          rfl
      | false =>
          show rowsFrom (first + offset + 1) mask = _
          rw [hshift, ih (first + 1)]
          rfl

theorem rows_append (front back : Mask) :
    Mask.rows (front ++ back) = front.rows ++ back.rows.map (· + front.length) := by
  rw [rows, rowsFrom_append, rowsFrom_add 0 front.length back]
  rfl

/-!
## Rows given by their number

A list of what some rows show is a function of the row numbers.  Selecting its entries amounts to
asking the function at the marked rows.
-/

theorem map_range_marked
    {mask : Mask} {rows : Nat} (hmask : mask.length = rows) {kept all : Nat → α}
    (hkept : ∀ k row, mask.rows[k]? = some row → kept k = all row) :
    (List.range mask.marked).map kept = mask.select ((List.range rows).map all) := by
  apply List.ext_getElem?
  intro k
  have hlength : mask.length = ((List.range rows).map all).length := by simp [hmask]
  rw [getElem?_select k mask _ hlength]
  by_cases hk : k < mask.marked
  · rcases exists_getElem?_rows hk with ⟨row, hrow⟩
    have hbound : row < rows := by
      rw [← hmask]
      exact lt_length_of_getElem?_rows hrow
    simp [hrow, hk, hbound, hkept k row hrow]
  · have hnone : mask.rows[k]? = none := by
      rw [List.getElem?_eq_none_iff, length_rows]
      omega
    simp [hnone, hk]

end Mask

theorem map_range_window
    {α : Type} {offset length rows : Nat} {cut all : Nat → α}
    (hcut : ∀ k, k < min length (rows - offset) → cut k = all (offset + k)) :
    (List.range (min length (rows - offset))).map cut =
      window offset length ((List.range rows).map all) := by
  apply List.ext_getElem?
  intro k
  rw [getElem?_window, List.getElem?_map]
  by_cases hk : k < min length (rows - offset)
  · have hlength : k < length := by omega
    have hrow : offset + k < rows := by omega
    rw [if_pos hlength, List.getElem?_range hk]
    simp [hrow, hcut k hk]
  · have hnone : (List.range (min length (rows - offset)))[k]? = none := by
      rw [List.getElem?_eq_none_iff, List.length_range]
      omega
    rw [hnone]
    by_cases hlength : k < length
    · have hrow : ¬ offset + k < rows := by omega
      simp [hlength, hrow]
    · simp [hlength]

theorem window_append_window
    {α : Type} (cut : Nat) (xs : List α) :
    window 0 cut xs ++ window cut (xs.length - cut) xs = xs := by
  have hback : (xs.drop cut).take (xs.length - cut) = xs.drop cut := by
    apply List.take_of_length_le
    exact Nat.le_of_eq List.length_drop
  show (xs.drop 0).take cut ++ (xs.drop cut).take (xs.length - cut) = xs
  rw [hback, List.drop_zero, List.take_append_drop]

end RowSieve
