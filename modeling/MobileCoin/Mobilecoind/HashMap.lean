import Mathlib.Data.Finset.Card
import Mathlib.Data.List.Range
import Mathlib.Data.List.Sort

set_option autoImplicit false

namespace MobileCoin.Mobilecoind

/-- `HashMap<usize, V>` and `HashMap<u64, V>` (`usize` is 64 bits wide), by content: the entries
sorted by key, so that maps holding the same entries are equal, as `==` on Rust maps has it.
Iteration visits the entries in this order; nothing here depends on the order. -/
@[ext] structure HashMap (V : Type) where
  entries : List (UInt64 × V)
  sorted : entries.Pairwise fun a b => a.1.toNat < b.1.toNat

namespace HashMap

variable {V : Type}

def empty : HashMap V := ⟨[], .nil⟩

def insertEntry (key : UInt64) (value : V) : List (UInt64 × V) → List (UInt64 × V)
  | [] => [(key, value)]
  | (k, v) :: rest =>
    if key.toNat < k.toNat then (key, value) :: (k, v) :: rest
    else if key = k then (key, value) :: rest
    else (k, v) :: insertEntry key value rest

theorem mem_insertEntry {key : UInt64} {value : V} {entry : UInt64 × V} :
    ∀ {entries : List (UInt64 × V)}, entry ∈ insertEntry key value entries →
      entry = (key, value) ∨ entry ∈ entries
  | [], member => by simpa [insertEntry] using member
  | (k, v) :: rest, member => by
    simp only [insertEntry] at member
    split at member
    next => simpa using member
    next =>
      split at member
      next => simp only [List.mem_cons] at member ⊢; tauto
      next =>
        rcases List.mem_cons.mp member with same | inner
        next => exact .inr (same ▸ List.mem_cons_self _ _)
        next => exact (mem_insertEntry inner).imp_right (List.mem_cons_of_mem _)

theorem sorted_insertEntry (key : UInt64) (value : V) :
    ∀ {entries : List (UInt64 × V)}, entries.Pairwise (fun a b => a.1.toNat < b.1.toNat) →
      (insertEntry key value entries).Pairwise fun a b => a.1.toNat < b.1.toNat
  | [], _ => List.pairwise_singleton _ _
  | (k, v) :: rest, sorted => by
    obtain ⟨above, sortedRest⟩ := List.pairwise_cons.mp sorted
    simp only [insertEntry]
    split
    next below =>
      refine List.Pairwise.cons (fun e member => ?_) sorted
      rcases List.mem_cons.mp member with rfl | inner
      next => exact below
      next => exact Nat.lt_trans below (above e inner)
    next notBelow =>
      split
      next same => exact List.Pairwise.cons (fun e inner => same ▸ above e inner) sortedRest
      next differ =>
        have below : k.toNat < key.toNat :=
          Nat.lt_of_le_of_ne (Nat.not_lt.mp notBelow) fun eq => differ (UInt64.toNat.inj eq.symm)
        refine List.Pairwise.cons (fun e member => ?_) (sorted_insertEntry key value sortedRest)
        rcases mem_insertEntry member with rfl | inner
        next => exact below
        next => exact above e inner

theorem mem_insertEntry_iff {key : UInt64} {value : V} {entry : UInt64 × V} :
    ∀ {entries : List (UInt64 × V)}, entries.Pairwise (fun a b => a.1.toNat < b.1.toNat) →
      (entry ∈ insertEntry key value entries ↔
        entry = (key, value) ∨ (entry ∈ entries ∧ entry.1 ≠ key))
  | [], _ => by simp [insertEntry]
  | (k, v) :: rest, sorted => by
    obtain ⟨above, sortedRest⟩ := List.pairwise_cons.mp sorted
    simp only [insertEntry]
    split
    next below =>
      have differ : ∀ e ∈ (k, v) :: rest, e.1 ≠ key := by
        rintro e member rfl
        rcases List.mem_cons.mp member with rfl | inner
        next => exact Nat.lt_irrefl _ below
        next => exact Nat.lt_asymm below (above e inner)
      rw [List.mem_cons]
      exact or_congr_right ⟨fun member => ⟨member, differ entry member⟩, And.left⟩
    next notBelow =>
      split
      next same =>
        subst same
        simp only [List.mem_cons]
        constructor
        next =>
          rintro (rfl | inner)
          next => exact .inl rfl
          next => exact .inr ⟨.inr inner, fun eq => Nat.lt_irrefl _ (eq ▸ above entry inner)⟩
        next =>
          rintro (rfl | ⟨rfl | inner, differ⟩)
          next => exact .inl rfl
          next => exact absurd rfl differ
          next => exact .inr inner
      next differ =>
        rw [List.mem_cons, mem_insertEntry_iff sortedRest, List.mem_cons]
        constructor
        next =>
          rintro (rfl | same | ⟨inner, other⟩)
          next => exact .inr ⟨.inl rfl, Ne.symm differ⟩
          next => exact .inl same
          next => exact .inr ⟨.inr inner, other⟩
        next =>
          rintro (same | ⟨rfl | inner, other⟩)
          next => exact .inr (.inl same)
          next => exact .inl rfl
          next => exact .inr (.inr ⟨inner, other⟩)

theorem insertEntry_of_above {key : UInt64} {value : V} :
    ∀ {entries : List (UInt64 × V)}, (∀ e ∈ entries, e.1.toNat < key.toNat) →
      insertEntry key value entries = entries ++ [(key, value)]
  | [], _ => rfl
  | (k, v) :: rest, above => by
    have below := above (k, v) (List.mem_cons_self _ _)
    have differ : key ≠ k := fun same => Nat.lt_irrefl _ (same ▸ below)
    simp only [insertEntry, Nat.not_lt.mpr (Nat.le_of_lt below), differ, if_false,
      List.cons_append, insertEntry_of_above fun e inner => above e (List.mem_cons_of_mem _ inner)]

/-- `HashMap::insert`: a value already under the key is replaced. -/
def insert (map : HashMap V) (key : UInt64) (value : V) : HashMap V :=
  ⟨insertEntry key value map.entries, sorted_insertEntry key value map.sorted⟩

/-- `HashMap::from_iter`, as `collect` calls it: the pairs are inserted in turn. -/
def fromIter (pairs : List (UInt64 × V)) : HashMap V :=
  pairs.foldl (fun map pair => map.insert pair.1 pair.2) empty

def len (map : HashMap V) : Nat := map.entries.length

def iter (map : HashMap V) : List (UInt64 × V) := map.entries

/-- `HashMap::get`. -/
def get (map : HashMap V) (key : UInt64) : Option V :=
  (map.entries.find? fun entry => entry.1 == key).map Prod.snd

@[simp] theorem iter_eq (map : HashMap V) : map.iter = map.entries := rfl

@[simp] theorem len_eq (map : HashMap V) : map.len = map.entries.length := rfl

theorem foldl_insert_of_sorted (acc : HashMap V) :
    ∀ (pairs : List (UInt64 × V)),
      (acc.entries ++ pairs).Pairwise (fun a b => a.1.toNat < b.1.toNat) →
        (pairs.foldl (fun map pair => map.insert pair.1 pair.2) acc).entries = acc.entries ++ pairs
  | [], _ => by simp
  | pair :: rest, sorted => by
    have step : (acc.insert pair.1 pair.2).entries = acc.entries ++ [pair] :=
      insertEntry_of_above fun e member =>
        (List.pairwise_append.mp sorted).2.2 e member pair (List.mem_cons_self _ _)
    have next := foldl_insert_of_sorted (acc.insert pair.1 pair.2) rest
      (by simpa only [step, List.append_assoc, List.singleton_append] using sorted)
    simpa only [List.foldl_cons, step, List.append_assoc, List.singleton_append] using next

theorem fromIter_iter (map : HashMap V) : fromIter map.iter = map :=
  HashMap.ext (foldl_insert_of_sorted empty map.entries map.sorted)

theorem value_unique {key : UInt64} {v w : V} :
    ∀ {entries : List (UInt64 × V)}, entries.Pairwise (fun a b => a.1.toNat < b.1.toNat) →
      (key, v) ∈ entries → (key, w) ∈ entries → v = w
  | [], _, first, _ => absurd first (List.not_mem_nil _)
  | e :: rest, sorted, first, second => by
    obtain ⟨above, sortedRest⟩ := List.pairwise_cons.mp sorted
    rcases List.mem_cons.mp first with rfl | laterV <;>
      rcases List.mem_cons.mp second with same | laterW
    next => exact (Prod.mk.inj same).2.symm
    next => exact absurd (above _ laterW) (Nat.lt_irrefl _)
    next => subst same; exact absurd (above _ laterV) (Nat.lt_irrefl _)
    next => exact value_unique sortedRest laterV laterW

theorem get_eq_some_iff {map : HashMap V} {key : UInt64} {value : V} :
    map.get key = some value ↔ (key, value) ∈ map.iter := by
  constructor
  next =>
    intro found
    obtain ⟨e, located, rfl⟩ := Option.map_eq_some'.mp found
    have sameKey : e.1 = key := by simpa using List.find?_some located
    rw [← sameKey]
    exact List.mem_of_find?_eq_some located
  next =>
    intro member
    rw [iter_eq] at member
    obtain ⟨e, located⟩ := Option.isSome_iff_exists.mp
      ((List.find?_isSome (p := fun entry => entry.1 == key)).mpr ⟨_, member, by simp⟩)
    have sameKey : e.1 = key := by simpa using List.find?_some located
    have present : (key, e.2) ∈ map.entries := by
      rw [← sameKey]
      exact List.mem_of_find?_eq_some located
    simp [get, located, value_unique map.sorted present member]

theorem nodup_keys (map : HashMap V) : (map.iter.map Prod.fst).Nodup :=
  List.pairwise_map.mpr (map.sorted.imp fun lt => Nat.ne_of_lt lt ∘ congrArg UInt64.toNat)

theorem ext_mem {map map' : HashMap V}
    (members : ∀ entry, entry ∈ map.entries ↔ entry ∈ map'.entries) : map = map' := by
  have : IsAntisymm (UInt64 × V) fun a b => a.1.toNat < b.1.toNat :=
    ⟨fun _ _ lt gt => absurd (lt.trans gt) (Nat.lt_irrefl _)⟩
  have nodup : ∀ m : HashMap V, m.entries.Nodup := fun m =>
    m.sorted.imp fun lt => ne_of_apply_ne (fun e : UInt64 × V => e.1.toNat) (Nat.ne_of_lt lt)
  exact HashMap.ext (List.eq_of_perm_of_sorted
    ((List.perm_ext_iff_of_nodup (nodup map) (nodup map')).mpr members) map.sorted map'.sorted)

theorem ext_get {map map' : HashMap V} (same : ∀ key, map.get key = map'.get key) :
    map = map' :=
  ext_mem fun ⟨key, value⟩ => by
    rw [← iter_eq, ← iter_eq, ← get_eq_some_iff, ← get_eq_some_iff, same]

theorem mem_foldl_insert (acc : HashMap V) :
    ∀ {pairs : List (UInt64 × V)}, (pairs.map Prod.fst).Nodup →
      (∀ e ∈ acc.entries, e.1 ∉ pairs.map Prod.fst) → ∀ entry,
      entry ∈ (pairs.foldl (fun map pair => map.insert pair.1 pair.2) acc).entries ↔
        entry ∈ acc.entries ∨ entry ∈ pairs
  | [], _, _, entry => by simp
  | pair :: rest, distinct, apart, entry => by
    obtain ⟨headFresh, restDistinct⟩ := List.nodup_cons.mp distinct
    have step : ∀ e, e ∈ (acc.insert pair.1 pair.2).entries ↔ e = pair ∨ e ∈ acc.entries :=
      fun e => (mem_insertEntry_iff acc.sorted).trans (or_congr_right
        ⟨And.left, fun inner => ⟨inner, fun same =>
          apart e inner (same ▸ List.mem_cons_self _ _)⟩⟩)
    have apart' : ∀ e ∈ (acc.insert pair.1 pair.2).entries, e.1 ∉ rest.map Prod.fst :=
      fun e member => by
        rcases (step e).mp member with rfl | inner
        next => exact headFresh
        next => exact fun inRest => apart e inner (List.mem_cons_of_mem _ inRest)
    rw [List.foldl_cons, mem_foldl_insert _ restDistinct apart' entry, step, List.mem_cons,
      or_assoc, or_left_comm]

theorem mem_fromIter {pairs : List (UInt64 × V)} (distinct : (pairs.map Prod.fst).Nodup)
    {entry : UInt64 × V} : entry ∈ (fromIter pairs).entries ↔ entry ∈ pairs := by
  simpa [empty] using
    mem_foldl_insert empty distinct (fun e member => absurd member (List.not_mem_nil _)) entry

theorem fromIter_perm {pairs pairs' : List (UInt64 × V)} (perm : pairs.Perm pairs')
    (distinct : (pairs.map Prod.fst).Nodup) : fromIter pairs = fromIter pairs' :=
  ext_mem fun _ => by
    rw [mem_fromIter distinct, mem_fromIter ((perm.map Prod.fst).nodup_iff.mp distinct),
      perm.mem_iff]

theorem forall_get_iff {map : HashMap V} {P : UInt64 → V → Prop} :
    (∀ k v, map.get k = some v → P k v) ↔ ∀ e ∈ map.iter, P e.1 e.2 :=
  ⟨fun holds e member => holds e.1 e.2 (get_eq_some_iff.mpr member),
    fun holds k v found => holds (k, v) (get_eq_some_iff.mp found)⟩

theorem card_keys (map : HashMap V) :
    (map.entries.map fun entry => entry.1.toNat).toFinset.card = map.len := by
  have nodup := (List.pairwise_map.mpr map.sorted).imp Nat.ne_of_lt
  simp [List.toFinset_card_of_nodup nodup]

theorem keys_subset_range {map : HashMap V} {n : Nat}
    (below : ∀ entry ∈ map.iter, entry.1.toNat < n) :
    (map.entries.map fun entry => entry.1.toNat).toFinset ⊆ Finset.range n := by
  intro k member
  obtain ⟨e, inner, rfl⟩ := List.mem_map.mp (List.mem_toFinset.mp member)
  exact Finset.mem_range.mpr (below e inner)

theorem len_le (map : HashMap V) : map.len ≤ 2 ^ 64 := by
  simpa [card_keys] using
    Finset.card_le_card (keys_subset_range fun e (_ : e ∈ map.iter) => e.1.toNat_lt_size)

theorem get_isSome_of_len {map : HashMap V} {n : Nat} (size : map.len = n)
    (below : ∀ entry ∈ map.iter, entry.1.toNat < n) {key : UInt64} (inside : key.toNat < n) :
    (map.get key).isSome := by
  -- Pigeonhole: `n` distinct keys, all below `n`, are every number below `n`.
  have every := Finset.eq_of_subset_of_card_le (keys_subset_range below)
    (by rw [card_keys, Finset.card_range, size])
  obtain ⟨e, inner, sameNat⟩ := List.mem_map.mp
    (List.mem_toFinset.mp (every ▸ Finset.mem_range.mpr inside))
  have sameKey : e.1 = key := UInt64.toNat.inj sameNat
  exact Option.isSome_iff_exists.mpr ⟨e.2, get_eq_some_iff.mpr (sameKey ▸ inner)⟩

end HashMap

end MobileCoin.Mobilecoind
