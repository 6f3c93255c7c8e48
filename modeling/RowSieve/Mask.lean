/-!
# Masks

A mask has one bit per row and marks the rows to keep.  `select` keeps the marked entries of a list
in order, and `rows` lists the marked positions: the entry that `select` puts at position `k` is the
one that stood at the `k`-th marked position (`getElem?_select`).
-/

namespace RowSieve

/-- One bit per row, true where the row is kept. -/
abbrev Mask := List Bool

namespace Mask

variable {α β γ : Type}

def marked (mask : Mask) : Nat :=
  mask.count true

/-- The entries of a list at the marked positions, in order. -/
def select : Mask → List α → List α
  | true :: mask, x :: xs => x :: select mask xs
  | false :: mask, _ :: xs => select mask xs
  | _, _ => []

/-- The marked positions from `first` on, in increasing order. -/
def rowsFrom (first : Nat) : Mask → List Nat
  | [] => []
  | true :: mask => first :: rowsFrom (first + 1) mask
  | false :: mask => rowsFrom (first + 1) mask

/-- The marked positions in increasing order. -/
def rows (mask : Mask) : List Nat :=
  rowsFrom 0 mask

/-! ## Selecting -/

@[simp] theorem select_nil (mask : Mask) : select mask ([] : List α) = [] := by
  rcases mask with _ | ⟨_ | _, _⟩ <;> rfl

theorem length_select (mask : Mask) (xs : List α) (h : mask.length = xs.length) :
    (select mask xs).length = mask.marked := by
  induction mask generalizing xs with
  | nil => rfl
  | cons bit mask ih =>
      cases xs with
      | nil => simp at h
      | cons x xs =>
          have tail := ih xs (by simpa using h)
          cases bit <;> simp_all [select, marked]

theorem select_map (f : α → β) (mask : Mask) (xs : List α) :
    select mask (xs.map f) = (select mask xs).map f := by
  induction mask generalizing xs with
  | nil => rfl
  | cons bit mask ih =>
      cases xs with
      | nil => simp
      | cons x xs => cases bit <;> simp [select, ih]

theorem select_zipWith (f : α → β → γ) (mask : Mask) (xs : List α) (ys : List β) :
    select mask (List.zipWith f xs ys) = List.zipWith f (select mask xs) (select mask ys) := by
  induction mask generalizing xs ys with
  | nil => rfl
  | cons bit mask ih =>
      cases xs with
      | nil => simp
      | cons x xs =>
          cases ys with
          | nil => simp
          | cons y ys => cases bit <;> simp [select, ih]

theorem select_append
    (front back : Mask) (xs ys : List α) (h : front.length = xs.length) :
    select (front ++ back) (xs ++ ys) = select front xs ++ select back ys := by
  induction front generalizing xs with
  | nil =>
      have none : xs = [] := List.length_eq_zero_iff.1 h.symm
      subst none
      rfl
  | cons bit front ih =>
      cases xs with
      | nil => simp at h
      | cons x xs =>
          have tail := ih xs (by simpa using h)
          cases bit <;> simp [select, tail]

/-! ## Marked positions -/

theorem length_rowsFrom (first : Nat) (mask : Mask) :
    (rowsFrom first mask).length = mask.marked := by
  induction mask generalizing first with
  | nil => rfl
  | cons bit mask ih => cases bit <;> simp_all [rowsFrom, marked]

theorem length_rows (mask : Mask) : mask.rows.length = mask.marked :=
  length_rowsFrom 0 mask

theorem mem_rowsFrom (first row : Nat) (mask : Mask) :
    row ∈ rowsFrom first mask ↔ first ≤ row ∧ mask[row - first]? = some true := by
  induction mask generalizing first with
  | nil => simp [rowsFrom]
  | cons bit mask ih =>
      have tail : ∀ rest : first + 1 ≤ row,
          (bit :: mask)[row - first]? = mask[row - (first + 1)]? := by
        intro rest
        have shift : row - first = row - (first + 1) + 1 := by omega
        rw [shift, List.getElem?_cons_succ]
      cases bit with
      | true =>
          simp only [rowsFrom, List.mem_cons, ih]
          constructor
          · rintro (rfl | ⟨le, marked⟩)
            · simp
            · exact ⟨by omega, by rw [tail le]; exact marked⟩
          · rintro ⟨le, marked⟩
            by_cases here : row = first
            · exact Or.inl here
            · have le : first + 1 ≤ row := by omega
              exact Or.inr ⟨le, by rw [← tail le]; exact marked⟩
      | false =>
          simp only [rowsFrom, ih]
          constructor
          · rintro ⟨le, marked⟩
            exact ⟨by omega, by rw [tail le]; exact marked⟩
          · rintro ⟨le, marked⟩
            by_cases here : row = first
            · subst here
              simp at marked
            · have le : first + 1 ≤ row := by omega
              exact ⟨le, by rw [← tail le]; exact marked⟩

theorem mem_rows {mask : Mask} {row : Nat} : row ∈ mask.rows ↔ mask[row]? = some true := by
  simp [rows, mem_rowsFrom]

theorem pairwise_rowsFrom (first : Nat) (mask : Mask) :
    (rowsFrom first mask).Pairwise (· < ·) := by
  induction mask generalizing first with
  | nil => exact List.Pairwise.nil
  | cons bit mask ih =>
      cases bit with
      | true =>
          refine List.Pairwise.cons ?_ (ih (first + 1))
          intro row later
          have bound := ((mem_rowsFrom (first + 1) row mask).1 later).1
          omega
      | false => exact ih (first + 1)

theorem pairwise_rows (mask : Mask) : mask.rows.Pairwise (· < ·) :=
  pairwise_rowsFrom 0 mask

theorem getElem?_select_from
    (first k : Nat) (mask : Mask) (xs : List α) (h : mask.length = xs.length) :
    (select mask xs)[k]? = (rowsFrom first mask)[k]?.bind fun row => xs[row - first]? := by
  induction mask generalizing first k xs with
  | nil => simp [select, rowsFrom]
  | cons bit mask ih =>
      cases xs with
      | nil => simp at h
      | cons x xs =>
          have lengths : mask.length = xs.length := by simpa using h
          have shift : ∀ k : Nat, ((rowsFrom (first + 1) mask)[k]?.bind fun row =>
              (x :: xs)[row - first]?) =
              (rowsFrom (first + 1) mask)[k]?.bind fun row => xs[row - (first + 1)]? := by
            intro k
            cases found : (rowsFrom (first + 1) mask)[k]? with
            | none => rfl
            | some row =>
                have bound :=
                  ((mem_rowsFrom (first + 1) row mask).1 (List.mem_of_getElem? found)).1
                have step : row - first = row - (first + 1) + 1 := by omega
                simp [step]
          cases bit with
          | true =>
              cases k with
              | zero => simp [select, rowsFrom]
              | succ k =>
                  simp only [select, rowsFrom, List.getElem?_cons_succ]
                  rw [shift, ih (first + 1) k xs lengths]
          | false =>
              simp only [select, rowsFrom]
              rw [shift, ih (first + 1) k xs lengths]

/-- What is selected at position `k` stood at the `k`-th marked position. -/
theorem getElem?_select (k : Nat) (mask : Mask) (xs : List α) (h : mask.length = xs.length) :
    (select mask xs)[k]? = mask.rows[k]?.bind fun row => xs[row]? := by
  simpa [rows] using getElem?_select_from 0 k mask xs h

end Mask

end RowSieve
