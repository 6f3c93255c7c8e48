import RowSieve.Mask

/-!
# Slots and validity

What an array holds at each row, and at which rows it holds a value.  Both can be cut to a window of
consecutive rows and thinned to the rows of a mask.
-/

namespace RowSieve

/-!
## Windows

A stretch of consecutive rows, given by where it begins and by how many rows it holds at most.
-/

/-- The entries from `offset` on, at most `length` of them. -/
def window {α : Type} (offset length : Nat) (xs : List α) : List α :=
  (xs.drop offset).take length

theorem length_window {α : Type} (offset length : Nat) (xs : List α) :
    (window offset length xs).length = min length (xs.length - offset) := by
  simp [window]

theorem getElem?_window {α : Type} (offset length k : Nat) (xs : List α) :
    (window offset length xs)[k]? = if k < length then xs[offset + k]? else none := by
  simp [window, List.getElem?_take]

/-!
## Slots

An array whose slots are all the same can be as long as a row count allows, so such slots are kept
as one of them and their number.  Every operation is pinned down by what it does to the list of
slots, `toList`.
-/

inductive Slots (α : Type)
  /-- Each slot for itself. -/
  | listed (slots : List α)
  /-- The same slot `count` times. -/
  | repeated (slot : α) (count : Nat)

namespace Slots

variable {α : Type}

def toList : Slots α → List α
  | .listed slots => slots
  | .repeated slot count => List.replicate count slot

def length : Slots α → Nat
  | .listed slots => slots.length
  | .repeated _ count => count

def get? : Slots α → Nat → Option α
  | .listed slots, row => slots[row]?
  | .repeated slot count, row => if row < count then some slot else none

/-- The slots from `offset` on, at most `length` of them. -/
def slice (offset length : Nat) : Slots α → Slots α
  | .listed slots => .listed (window offset length slots)
  | .repeated slot count => .repeated slot (min length (count - offset))

def select (mask : Mask) : Slots α → Slots α
  | .listed slots => .listed (mask.select slots)
  | .repeated slot count => .repeated slot (Mask.marked (mask.take count))

/-! ### The list of slots -/

@[simp] theorem length_toList (slots : Slots α) : slots.toList.length = slots.length := by
  cases slots with
  | listed slots => rfl
  | repeated slot count => exact List.length_replicate

theorem getElem?_toList (slots : Slots α) (row : Nat) :
    slots.toList[row]? = slots.get? row := by
  cases slots with
  | listed slots => rfl
  | repeated slot count => exact List.getElem?_replicate

theorem toList_slice (offset length : Nat) (slots : Slots α) :
    (slots.slice offset length).toList = window offset length slots.toList := by
  cases slots with
  | listed slots => rfl
  | repeated slot count =>
      simp [slice, toList, window, List.drop_replicate, List.take_replicate]

theorem toList_select (mask : Mask) (slots : Slots α) :
    (slots.select mask).toList = mask.select slots.toList := by
  cases slots with
  | listed slots => rfl
  | repeated slot count =>
      induction mask generalizing count with
      | nil => simp [select, toList, Mask.select, Mask.marked]
      | cons bit mask ih =>
          cases count with
          | zero => simp [select, toList, Mask.marked]
          | succ count =>
              have tail := ih count
              cases bit <;>
                simp_all [select, toList, Mask.select, Mask.marked, List.replicate_succ]

theorem length_slice (offset length : Nat) (slots : Slots α) :
    (slots.slice offset length).length = min length (slots.length - offset) := by
  rw [← length_toList, toList_slice, length_window, length_toList]

theorem length_select (mask : Mask) (slots : Slots α) (h : mask.length = slots.length) :
    (slots.select mask).length = mask.marked := by
  rw [← length_toList, toList_select]
  exact Mask.length_select mask slots.toList (by rw [length_toList, h])

theorem get?_slice (offset : Nat) {length row : Nat} (slots : Slots α) (h : row < length) :
    (slots.slice offset length).get? row = slots.get? (offset + row) := by
  rw [← getElem?_toList, toList_slice, getElem?_window, if_pos h, getElem?_toList]

end Slots

/-!
## Validity

An array that holds a value at every row need not carry bits, so their absence is a case of its own;
it is the neutral element of `meet`, which combines the validity of an array with the validity of
what encloses it.  Cutting and thinning commute with `meet`, so it does not matter whether rows are
dropped before or after validities are combined.
-/

/-- Which rows hold a value. -/
inductive Validity
  /-- Every row does. -/
  | all
  /-- The rows whose bit is true do. -/
  | ofBits (bits : List Bool)
  deriving DecidableEq

namespace Validity

/-- Whether `row` holds a value; rows past the bits are not null. -/
def holds : Validity → Nat → Bool
  | .all, _ => true
  | .ofBits bits, row => bits[row]?.getD true

/-- The rows that hold a value on both sides. -/
def meet : Validity → Validity → Validity
  | .all, inner => inner
  | outer, .all => outer
  | .ofBits outer, .ofBits inner => .ofBits (List.zipWith and outer inner)

/-- The rows from `offset` on, at most `length` of them. -/
def slice (offset length : Nat) : Validity → Validity
  | .all => .all
  | .ofBits bits => .ofBits (window offset length bits)

def select (mask : Mask) : Validity → Validity
  | .all => .all
  | .ofBits bits => .ofBits (mask.select bits)

/-- There are no bits, or there are exactly `rows`. -/
def Covers (rows : Nat) : Validity → Prop
  | .all => True
  | .ofBits bits => bits.length = rows

instance (rows : Nat) : (validity : Validity) → Decidable (validity.Covers rows)
  | .all => isTrue trivial
  | .ofBits bits => inferInstanceAs (Decidable (bits.length = rows))

@[simp] theorem holds_all (row : Nat) : all.holds row = true := rfl

@[simp] theorem all_meet (validity : Validity) : all.meet validity = validity := rfl

@[simp] theorem meet_all (validity : Validity) : validity.meet all = validity := by
  cases validity <;> rfl

/-! ### Combining -/

theorem holds_meet
    {rows : Nat} {outer inner : Validity} (houter : outer.Covers rows)
    (hinner : inner.Covers rows) (row : Nat) :
    (outer.meet inner).holds row = (outer.holds row && inner.holds row) := by
  cases outer with
  | all => simp
  | ofBits outer =>
      cases inner with
      | all => simp
      | ofBits inner =>
          simp only [Covers] at houter hinner
          simp only [meet, holds, List.getElem?_zipWith]
          by_cases inside : row < rows
          · rw [List.getElem?_eq_getElem (by omega), List.getElem?_eq_getElem (by omega)]
            rfl
          · rw [List.getElem?_eq_none (by omega), List.getElem?_eq_none (by omega)]
            rfl

theorem covers_meet
    {rows : Nat} {outer inner : Validity} (houter : outer.Covers rows)
    (hinner : inner.Covers rows) :
    (outer.meet inner).Covers rows := by
  cases outer <;> cases inner <;> simp_all [Covers, meet]

/-! ### Cutting and thinning -/

theorem slice_meet (offset length : Nat) (outer inner : Validity) :
    (outer.meet inner).slice offset length =
      (outer.slice offset length).meet (inner.slice offset length) := by
  cases outer <;> cases inner <;>
    simp [meet, slice, window, List.drop_zipWith, List.take_zipWith]

theorem select_meet (mask : Mask) (outer inner : Validity) :
    (outer.meet inner).select mask = (outer.select mask).meet (inner.select mask) := by
  cases outer <;> cases inner <;> simp [meet, select, Mask.select_zipWith]

theorem covers_slice
    {rows : Nat} {validity : Validity} (h : validity.Covers rows) (offset length : Nat) :
    (validity.slice offset length).Covers (min length (rows - offset)) := by
  cases validity with
  | all => trivial
  | ofBits bits =>
      simp only [Covers] at h
      simp [slice, Covers, length_window, h]

theorem covers_select
    {rows : Nat} {validity : Validity} (h : validity.Covers rows) {mask : Mask}
    (hmask : mask.length = rows) :
    (validity.select mask).Covers mask.marked := by
  cases validity with
  | all => trivial
  | ofBits bits =>
      simp only [Covers] at h
      exact Mask.length_select mask bits (by omega)

theorem holds_slice
    (validity : Validity) (offset : Nat) {length row : Nat} (h : row < length) :
    (validity.slice offset length).holds row = validity.holds (offset + row) := by
  cases validity with
  | all => rfl
  | ofBits bits => simp [slice, holds, getElem?_window, h]

end Validity

end RowSieve
