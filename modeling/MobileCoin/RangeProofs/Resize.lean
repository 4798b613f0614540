import Mathlib.Algebra.Group.Nat.Basic
import Mathlib.Data.List.Basic

set_option autoImplicit false

namespace MobileCoin.RangeProofs

/-- How a call of the source ends: it returns `ok` or `err`, or the thread panics. -/
inductive Outcome (ε α : Type) where
  | ok (value : α)
  | err (error : ε)
  | panic
  deriving DecidableEq, Repr

namespace Outcome

variable {ε α β : Type}

def bind : Outcome ε α → (α → Outcome ε β) → Outcome ε β
  | ok value, next => next value
  | err error, _ => err error
  | panic, _ => panic

instance : Monad (Outcome ε) where
  pure := ok
  bind := bind

@[simp] theorem pure_eq (value : α) : (pure value : Outcome ε α) = ok value := rfl

@[simp] theorem ok_bind (value : α) (next : α → Outcome ε β) : (ok value >>= next) = next value :=
  rfl

@[simp] theorem err_bind (error : ε) (next : α → Outcome ε β) : (err error >>= next) = err error :=
  rfl

@[simp] theorem panic_bind (next : α → Outcome ε β) : (panic >>= next) = panic := rfl

end Outcome

/-- `range_proofs::Error`: the padding overflowed `usize`, or the bulletproofs crate failed and
`Error::from` passed its error on. -/
inductive Error (ProofError : Type) where
  | resizeError
  | rangeProof (error : ProofError)
  deriving DecidableEq, Repr

/-- The width of `usize` on the 64-bit targets the crate is built for. -/
def usizeBits : Nat := 64

/-- `usize::checked_next_power_of_two`: the least `2 ^ k` with `n ≤ 2 ^ k`, or `None` when that
power does not fit in a `usize`. -/
def checkedNextPowerOfTwo (n : Nat) : Option Nat :=
  ((List.range usizeBits).find? fun k => n ≤ 2 ^ k).map (2 ^ ·)

/-- `Vec::resize`: truncate to `newLen`, or extend with clones of `value` up to it. -/
def vecResize {T : Type} (v : List T) (newLen : Nat) (value : T) : List T :=
  if newLen ≤ v.length then v.take newLen else v ++ List.replicate (newLen - v.length) value

/-- `slice[i]`, which panics out of bounds. -/
def index {ε T : Type} (slice : List T) (i : Nat) : Outcome ε T :=
  match slice[i]? with
  | some value => .ok value
  | none => .panic

def resizeSliceToPow2 {ProofError T : Type} (slice : List T) :
    Outcome (Error ProofError) (List T) :=
  match checkedNextPowerOfTwo slice.length with
  | some nextPowerOfTwo => do
    let diff := nextPowerOfTwo - slice.length
    -- on an empty slice `slice.len() - 1` underflows and the index panics
    let last ← index slice (slice.length - 1)
    pure (vecResize slice (slice.length + diff) last)
  | none => .err .resizeError

theorem checkedNextPowerOfTwo_eq_some {n p : Nat} :
    checkedNextPowerOfTwo n = some p ↔
      ∃ k < usizeBits, p = 2 ^ k ∧ n ≤ 2 ^ k ∧ ∀ j < k, 2 ^ j < n := by
  simp only [checkedNextPowerOfTwo, Option.map_eq_some', List.find?_range_eq_some,
    List.mem_range, decide_eq_true_eq, Bool.not_eq_true', decide_eq_false_iff_not, Nat.not_le]
  constructor
  · rintro ⟨k, ⟨fits, bound, below⟩, rfl⟩
    exact ⟨k, bound, rfl, fits, below⟩
  · rintro ⟨k, bound, rfl, fits, below⟩
    exact ⟨k, ⟨fits, bound, below⟩, rfl⟩

theorem checkedNextPowerOfTwo_eq_none {n : Nat} :
    checkedNextPowerOfTwo n = none ↔ 2 ^ (usizeBits - 1) < n := by
  simp only [checkedNextPowerOfTwo, Option.map_eq_none', List.find?_range_eq_none,
    decide_eq_true_eq, Bool.not_eq_true', decide_eq_false_iff_not, Nat.not_le]
  constructor
  · intro above
    exact above _ (by decide)
  · intro above k bound
    exact lt_of_le_of_lt (Nat.pow_le_pow_right (by decide) (by simp only [usizeBits] at *; omega))
      above

theorem le_of_checkedNextPowerOfTwo {n p : Nat} (fits : checkedNextPowerOfTwo n = some p) :
    n ≤ p := by
  obtain ⟨k, -, rfl, le, -⟩ := checkedNextPowerOfTwo_eq_some.mp fits
  exact le

theorem checkedNextPowerOfTwo_least {n p : Nat} (fits : checkedNextPowerOfTwo n = some p)
    (k : Nat) (le : n ≤ 2 ^ k) : p ≤ 2 ^ k := by
  obtain ⟨j, -, rfl, -, below⟩ := checkedNextPowerOfTwo_eq_some.mp fits
  by_cases smaller : k < j
  next => exact absurd (below k smaller) (Nat.not_lt.mpr le)
  next => exact Nat.pow_le_pow_right (by decide) (Nat.not_lt.mp smaller)

theorem checkedNextPowerOfTwo_of_between {n m p : Nat} (fits : checkedNextPowerOfTwo n = some p)
    (lower : n ≤ m) (upper : m ≤ p) : checkedNextPowerOfTwo m = some p := by
  obtain ⟨k, bound, rfl, -, below⟩ := checkedNextPowerOfTwo_eq_some.mp fits
  exact checkedNextPowerOfTwo_eq_some.mpr
    ⟨k, bound, rfl, upper, fun j smaller => Nat.lt_of_lt_of_le (below j smaller) lower⟩

@[simp] theorem vecResize_length_add {T : Type} (v : List T) (extra : Nat) (value : T) :
    vecResize v (v.length + extra) value = v ++ List.replicate extra value := by
  by_cases none : extra = 0
  next => simp [vecResize, none]
  next => simp [vecResize, show ¬v.length + extra ≤ v.length by omega]

theorem index_last {ε T : Type} {slice : List T} {last : T} (isLast : slice.getLast? = some last) :
    (index slice (slice.length - 1) : Outcome ε T) = .ok last := by
  rw [List.getLast?_eq_getElem?] at isLast
  simp [index, isLast]

theorem resizeSliceToPow2_of_fits {ProofError T : Type} {slice : List T} {p : Nat} {last : T}
    (fits : checkedNextPowerOfTwo slice.length = some p) (isLast : slice.getLast? = some last) :
    (resizeSliceToPow2 slice : Outcome (Error ProofError) (List T)) =
      .ok (slice ++ List.replicate (p - slice.length) last) := by
  simp [resizeSliceToPow2, fits, index_last isLast]

theorem resizeSliceToPow2_nil {ProofError T : Type} :
    (resizeSliceToPow2 ([] : List T) : Outcome (Error ProofError) (List T)) = .panic := by
  have one : checkedNextPowerOfTwo 0 = some 1 := checkedNextPowerOfTwo_eq_some.mpr
    ⟨0, by decide, rfl, by decide, fun _ smaller => absurd smaller (Nat.not_lt_zero _)⟩
  simp [resizeSliceToPow2, one, index]

theorem resizeSliceToPow2_of_overflow {ProofError T : Type} {slice : List T}
    (overflow : 2 ^ (usizeBits - 1) < slice.length) :
    (resizeSliceToPow2 slice : Outcome (Error ProofError) (List T)) = .err .resizeError := by
  simp [resizeSliceToPow2, checkedNextPowerOfTwo_eq_none.mpr overflow]

theorem resizeSliceToPow2_append_last {ProofError T : Type} {slice : List T} {p extra : Nat}
    {last : T} (fits : checkedNextPowerOfTwo slice.length = some p)
    (isLast : slice.getLast? = some last) (within : slice.length + extra ≤ p) :
    (resizeSliceToPow2 (slice ++ List.replicate extra last) : Outcome (Error ProofError) _) =
      resizeSliceToPow2 slice := by
  have longer : checkedNextPowerOfTwo (slice ++ List.replicate extra last).length = some p := by
    simpa using checkedNextPowerOfTwo_of_between fits (Nat.le_add_right _ extra) within
  have stillLast : (slice ++ List.replicate extra last).getLast? = some last := by
    simp only [List.getLast?_append, List.getLast?_replicate, isLast]
    split <;> rfl
  rw [resizeSliceToPow2_of_fits longer stillLast, resizeSliceToPow2_of_fits fits isLast]
  simp only [List.append_assoc, List.append_replicate_replicate, List.length_append,
    List.length_replicate]
  congr 3
  omega

theorem resizeSliceToPow2_take_padded {ProofError T : Type} {slice : List T} {p k : Nat}
    {last : T} (fits : checkedNextPowerOfTwo slice.length = some p)
    (isLast : slice.getLast? = some last) (lower : slice.length ≤ k) (upper : k ≤ p) :
    (resizeSliceToPow2 ((slice ++ List.replicate (p - slice.length) last).take k) :
      Outcome (Error ProofError) _) = .ok (slice ++ List.replicate (p - slice.length) last) := by
  have prefixEq : (slice ++ List.replicate (p - slice.length) last).take k =
      slice ++ List.replicate (k - slice.length) last := by
    rw [List.take_append_eq_append_take, List.take_of_length_le lower, List.take_replicate]
    congr 2
    omega
  rw [prefixEq, resizeSliceToPow2_append_last fits isLast (by omega),
    resizeSliceToPow2_of_fits fits isLast]

theorem getElem?_padded {T : Type} {slice : List T} {last : T} {extra i : Nat}
    (isLast : slice.getLast? = some last) (outside : slice.length ≤ i)
    (inside : i < slice.length + extra) :
    (slice ++ List.replicate extra last)[i]? = slice[slice.length - 1]? := by
  rw [List.getElem?_append_right outside, ← List.getLast?_eq_getElem?, isLast,
    List.getElem?_replicate, if_pos (by omega)]

theorem checkedNextPowerOfTwo_of_le {n : Nat} (fits : n ≤ 2 ^ (usizeBits - 1)) :
    ∃ p, checkedNextPowerOfTwo n = some p :=
  Option.ne_none_iff_exists'.mp fun none => absurd fits
    (Nat.not_le.mpr (checkedNextPowerOfTwo_eq_none.mp none))

theorem resizeSliceToPow2_pads_to_next_power {ProofError T : Type} (xs : List T) :
    (0 < xs.length → xs.length ≤ 2 ^ (usizeBits - 1) →
      ∃ ys, (resizeSliceToPow2 xs : Outcome (Error ProofError) (List T)) = .ok ys ∧
        (∃ k, ys.length = 2 ^ k) ∧ xs.length ≤ ys.length ∧
        (∀ k, xs.length ≤ 2 ^ k → ys.length ≤ 2 ^ k) ∧
        (∀ i < xs.length, ys[i]? = xs[i]?) ∧
        (∀ i, xs.length ≤ i → i < ys.length → ys[i]? = xs[xs.length - 1]?) ∧
        (∀ k, xs.length = 2 ^ k → ys = xs) ∧
        (resizeSliceToPow2 ys : Outcome (Error ProofError) (List T)) = .ok ys) ∧
    (2 ^ (usizeBits - 1) < xs.length →
      (resizeSliceToPow2 xs : Outcome (Error ProofError) (List T)) = .err .resizeError) := by
  refine ⟨fun nonempty bound => ?_, resizeSliceToPow2_of_overflow⟩
  obtain ⟨p, fits⟩ := checkedNextPowerOfTwo_of_le bound
  have isLast := List.getLast?_eq_getLast xs (List.ne_nil_of_length_pos nonempty)
  have le := le_of_checkedNextPowerOfTwo fits
  obtain ⟨k, -, rfl, -, -⟩ := checkedNextPowerOfTwo_eq_some.mp fits
  have resized : (resizeSliceToPow2 xs : Outcome (Error ProofError) (List T)) = _ :=
    resizeSliceToPow2_of_fits fits isLast
  refine ⟨_, resized, ⟨k, by simp; omega⟩, by simp, fun j below => ?_, fun i inside => ?_,
    fun i outside inside => ?_, fun j exact => ?_, ?_⟩
  next => simpa [Nat.add_sub_cancel' le] using checkedNextPowerOfTwo_least fits j below
  next => exact List.getElem?_append_left inside
  next =>
    rw [List.getElem?_append_right outside, ← List.getLast?_eq_getElem?, isLast,
      List.getElem?_replicate]
    simp only [List.length_append, List.length_replicate] at inside
    simp only [ite_eq_left_iff]
    omega
  next =>
    have same : 2 ^ k = xs.length := Nat.le_antisymm (exact ▸ checkedNextPowerOfTwo_least fits j
      (Nat.le_of_eq exact)) le
    simp [same]
  next => rw [resizeSliceToPow2_append_last fits isLast (by omega), resized]

end MobileCoin.RangeProofs
