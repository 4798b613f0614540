import Mathlib.Data.List.FinRange
import MobileCoin.Mobilecoind.RoundTrip

set_option autoImplicit false

namespace MobileCoin.Mobilecoind

/-- What `TxProposal::try_from` checks of a proposal, stated without the map: each outlay is sent
to one output of the transaction by a function that need not be injective, and outputs that no
outlay is sent to, such as change, are allowed. -/
structure ValidTxProposal (TxOut KeyImage PublicAddress Rest : Type) where
  utxos : List (UnspentTxOut TxOut KeyImage)
  outlays : List (Outlay PublicAddress)
  tx : Tx TxOut Rest
  outputOf : Fin outlays.length → Fin tx.txPrefix.outputs.length

theorem UInt64.ofNat_toNat (k : UInt64) : UInt64.ofNat k.toNat = k :=
  UInt64.toNat.inj (UInt64.toNat_ofNat_of_lt k.toNat_lt_size)

namespace TxProposal

variable {TxOut KeyImage PublicAddress Rest : Type}
  {p : TxProposal TxOut KeyImage PublicAddress Rest}

theorem WellFormed.outlay_lt_size (wellFormed : p.WellFormed) (i : Fin p.outlays.length) :
    i.val < UInt64.size :=
  Nat.lt_of_lt_of_le i.isLt (wellFormed.len_eq ▸ HashMap.len_le _)

theorem WellFormed.get_isSome (wellFormed : p.WellFormed) (i : Fin p.outlays.length) :
    (p.outlayIndexToTxOutIndex.get (UInt64.ofNat i)).isSome :=
  (wellFormed.mapped _).mpr (by
    rw [UInt64.toNat_ofNat_of_lt (wellFormed.outlay_lt_size i)]
    exact i.isLt)

/-- The output that pays outlay `i`, as the map records it. -/
def outputOf (wellFormed : p.WellFormed) (i : Fin p.outlays.length) :
    Fin p.tx.txPrefix.outputs.length :=
  ⟨((p.outlayIndexToTxOutIndex.get (UInt64.ofNat i)).get (wellFormed.get_isSome i)).toNat,
    wellFormed.output_lt _ _ (Option.some_get _).symm⟩

/-- The abstraction of a well-formed proposal. -/
def toValid (p : TxProposal TxOut KeyImage PublicAddress Rest) (wellFormed : p.WellFormed) :
    ValidTxProposal TxOut KeyImage PublicAddress Rest :=
  ⟨p.utxos, p.outlays, p.tx, outputOf wellFormed⟩

@[simp] theorem toValid_utxos (wellFormed : p.WellFormed) :
    (p.toValid wellFormed).utxos = p.utxos := rfl

@[simp] theorem toValid_outlays (wellFormed : p.WellFormed) :
    (p.toValid wellFormed).outlays = p.outlays := rfl

@[simp] theorem toValid_tx (wellFormed : p.WellFormed) : (p.toValid wellFormed).tx = p.tx := rfl

theorem get_eq_some_iff_outputOf (wellFormed : p.WellFormed) {k j : UInt64} :
    p.outlayIndexToTxOutIndex.get k = some j ↔
      ∃ i : Fin p.outlays.length, k.toNat = i ∧ j.toNat = outputOf wellFormed i := by
  constructor
  next =>
    intro found
    have inside := (wellFormed.mapped k).mp (Option.isSome_iff_exists.mpr ⟨j, found⟩)
    refine ⟨⟨k.toNat, inside⟩, rfl, ?_⟩
    simp [outputOf, UInt64.ofNat_toNat, found]
  next =>
    rintro ⟨i, sameKey, sameOutput⟩
    have key : k = UInt64.ofNat i := by rw [← sameKey, UInt64.ofNat_toNat]
    subst key
    have value : j = (p.outlayIndexToTxOutIndex.get (UInt64.ofNat i)).get
        (wellFormed.get_isSome i) := UInt64.toNat.inj sameOutput
    rw [value, Option.some_get]

end TxProposal

section

variable {TxOut KeyImage PublicAddress Rest : Type} {TxOutW KeyImageW PublicAddressW RestW : Type}

theorem tryFrom_refines_valid
    (conv : Conversions TxOut KeyImage PublicAddress Rest TxOutW KeyImageW PublicAddressW RestW)
    (src : Api.TxProposal TxOutW KeyImageW PublicAddressW RestW)
    (p : TxProposal TxOut KeyImage PublicAddress Rest)
    (accepted : TxProposal.tryFrom conv src = .ok p) :
    ∃ valid : ValidTxProposal TxOut KeyImage PublicAddress Rest,
      valid.utxos = p.utxos ∧ valid.outlays = p.outlays ∧ valid.tx = p.tx ∧
      ∀ k j, p.outlayIndexToTxOutIndex.get k = some j ↔
        ∃ i : Fin valid.outlays.length, k.toNat = i ∧ j.toNat = valid.outputOf i := by
  obtain ⟨-, -, -, -, sameMap, bounds⟩ := TxProposal.tryFrom_eq_ok.mp accepted
  have wellFormed := TxProposal.wellFormed_of_indicesInBounds (p := p) (sameMap ▸ bounds)
  exact ⟨p.toValid wellFormed, rfl, rfl, rfl,
    fun _ _ => TxProposal.get_eq_some_iff_outputOf wellFormed⟩

end

theorem tryFrom_refines_valid_one_outlay :
    let src : Api.TxProposal Unit Unit Unit Unit :=
      { inputList := [], outlayList := [⟨5, ()⟩], tx := ⟨⟨[(), ()], 1⟩, ()⟩, fee := 1
        outlayIndexToTxOutIndex := HashMap.fromIter [(0, 1)] }
    let p : TxProposal Unit Unit Unit Unit :=
      { utxos := [], outlays := [⟨5, ()⟩], tx := ⟨⟨[(), ()], 1⟩, ()⟩
        outlayIndexToTxOutIndex := HashMap.fromIter [(0, 1)] }
    TxProposal.tryFrom (Conversions.identity Unit Unit Unit Unit) src = .ok p ∧
    ∃ valid : ValidTxProposal Unit Unit Unit Unit,
      valid.utxos = p.utxos ∧ valid.outlays = p.outlays ∧ valid.tx = p.tx ∧
      ∀ k j, p.outlayIndexToTxOutIndex.get k = some j ↔
        ∃ i : Fin valid.outlays.length, k.toNat = i ∧ j.toNat = valid.outputOf i := by
  intro src p
  have accepted : TxProposal.tryFrom (Conversions.identity Unit Unit Unit Unit) src = .ok p := rfl
  exact ⟨accepted, tryFrom_refines_valid _ src p accepted⟩

namespace ValidTxProposal

variable {TxOut KeyImage PublicAddress Rest : Type}
  (valid : ValidTxProposal TxOut KeyImage PublicAddress Rest)

/-- The map a valid proposal is stored with: each outlay index to the index of its output. -/
def outlayIndexToTxOutIndex : HashMap UInt64 :=
  HashMap.fromIter ((List.finRange valid.outlays.length).map fun i =>
    (UInt64.ofNat i.val, UInt64.ofNat (valid.outputOf i).val))

/-- The proposal that stores a valid one. -/
def toTxProposal : TxProposal TxOut KeyImage PublicAddress Rest :=
  ⟨valid.utxos, valid.outlays, valid.tx, valid.outlayIndexToTxOutIndex⟩

theorem toNat_ofNat_of_lt {n m : Nat} (lt : n < m) (fits : m ≤ 2 ^ 64) :
    (UInt64.ofNat n).toNat = n :=
  UInt64.toNat_ofNat_of_lt (Nat.lt_of_lt_of_le lt fits)

theorem entries_outlayIndexToTxOutIndex (fits : valid.outlays.length ≤ 2 ^ 64) :
    valid.outlayIndexToTxOutIndex.entries = (List.finRange valid.outlays.length).map fun i =>
      (UInt64.ofNat i.val, UInt64.ofNat (valid.outputOf i).val) :=
  HashMap.foldl_insert_of_sorted HashMap.empty _ <| List.pairwise_map.mpr <|
    (List.pairwise_lt_finRange _).imp fun {i j} lt => by
      rwa [toNat_ofNat_of_lt i.isLt fits, toNat_ofNat_of_lt j.isLt fits]

theorem indicesInBounds_toTxProposal (outlaysFit : valid.outlays.length ≤ 2 ^ 64)
    (outputsFit : valid.tx.txPrefix.outputs.length ≤ 2 ^ 64) :
    IndicesInBounds valid.toTxProposal.outlayIndexToTxOutIndex valid.toTxProposal.outlays.length
      valid.toTxProposal.tx.txPrefix.outputs.length := by
  rw [indicesInBounds_iff_iter, HashMap.len_eq, HashMap.iter_eq]
  simp only [toTxProposal, entries_outlayIndexToTxOutIndex valid outlaysFit, List.length_map,
    List.length_finRange, List.mem_map, true_and]
  rintro _ ⟨i, -, rfl⟩
  rw [toNat_ofNat_of_lt i.isLt outlaysFit, toNat_ofNat_of_lt (valid.outputOf i).isLt outputsFit]
  exact ⟨i.isLt, (valid.outputOf i).isLt⟩

theorem get_toTxProposal (outlaysFit : valid.outlays.length ≤ 2 ^ 64)
    (i : Fin valid.outlays.length) :
    valid.toTxProposal.outlayIndexToTxOutIndex.get (UInt64.ofNat i) =
      some (UInt64.ofNat (valid.outputOf i)) :=
  HashMap.get_eq_some_iff.mpr <| by
    rw [HashMap.iter_eq, toTxProposal, entries_outlayIndexToTxOutIndex valid outlaysFit]
    exact List.mem_map_of_mem _ (List.mem_finRange i)

theorem get_outlayIndexToTxOutIndex_eq_some (outlaysFit : valid.outlays.length ≤ 2 ^ 64)
    {k j : UInt64} :
    valid.outlayIndexToTxOutIndex.get k = some j ↔
      ∃ i : Fin valid.outlays.length, k = UInt64.ofNat i ∧ j = UInt64.ofNat (valid.outputOf i) := by
  rw [HashMap.get_eq_some_iff, HashMap.iter_eq, entries_outlayIndexToTxOutIndex valid outlaysFit]
  simp only [List.mem_map, List.mem_finRange, true_and, Prod.mk.injEq, eq_comm]

theorem toValid_toTxProposal (outlaysFit : valid.outlays.length ≤ 2 ^ 64)
    (outputsFit : valid.tx.txPrefix.outputs.length ≤ 2 ^ 64)
    (wellFormed : valid.toTxProposal.WellFormed) :
    valid.toTxProposal.toValid wellFormed = valid := by
  have sameOutput : TxProposal.outputOf wellFormed = valid.outputOf := funext fun i => Fin.ext <| by
    simp only [TxProposal.outputOf, get_toTxProposal valid outlaysFit, Option.get_some]
    exact toNat_ofNat_of_lt (valid.outputOf i).isLt outputsFit
  cases valid
  exact congrArg _ sameOutput

end ValidTxProposal

theorem UInt64.eq_ofNat_iff {k : UInt64} {n : Nat} (lt : n < 2 ^ 64) :
    k = UInt64.ofNat n ↔ k.toNat = n := by
  constructor
  next => rintro rfl; exact UInt64.toNat_ofNat_of_lt lt
  next => rintro rfl; exact (UInt64.ofNat_toNat k).symm

theorem toTxProposal_toValid {TxOut KeyImage PublicAddress Rest : Type}
    (p : TxProposal TxOut KeyImage PublicAddress Rest) (wellFormed : p.WellFormed) :
    (p.toValid wellFormed).toTxProposal = p := by
  have fits : p.outlays.length ≤ 2 ^ 64 := wellFormed.len_eq ▸ HashMap.len_le _
  have sameMap : (p.toValid wellFormed).outlayIndexToTxOutIndex = p.outlayIndexToTxOutIndex :=
    HashMap.ext_get fun k => Option.ext fun j => by
      rw [Option.mem_def, Option.mem_def, ValidTxProposal.get_outlayIndexToTxOutIndex_eq_some _ fits,
        TxProposal.get_eq_some_iff_outputOf wellFormed]
      exact exists_congr fun i => and_congr (UInt64.eq_ofNat_iff (Nat.lt_of_lt_of_le i.isLt fits))
        (UInt64.eq_ofNat_iff (UInt64.toNat_lt_size _))
  rw [ValidTxProposal.toTxProposal, sameMap]
  rfl

theorem toTxProposal_toValid_one_outlay :
    let p : TxProposal Unit Unit Unit Unit :=
      ⟨[], [⟨5, ()⟩], ⟨⟨[(), ()], 1⟩, ()⟩, HashMap.fromIter [(0, 1)]⟩
    ∃ wellFormed : p.WellFormed, (p.toValid wellFormed).toTxProposal = p :=
  have wellFormed := TxProposal.wellFormed_of_indicesInBounds (by decide)
  ⟨wellFormed, toTxProposal_toValid _ wellFormed⟩

theorem valid_represented
    {TxOut KeyImage PublicAddress Rest TxOutW KeyImageW PublicAddressW RestW : Type}
    (conv : Conversions TxOut KeyImage PublicAddress Rest TxOutW KeyImageW PublicAddressW RestW)
    (inverse : conv.Inverse) (valid : ValidTxProposal TxOut KeyImage PublicAddress Rest)
    (outlaysFit : valid.outlays.length ≤ 2 ^ 64)
    (outputsFit : valid.tx.txPrefix.outputs.length ≤ 2 ^ 64) :
    ∃ p wellFormed, TxProposal.tryFrom conv (TxProposal.into conv p) = .ok p ∧
      TxProposal.toValid p wellFormed = valid := by
  have bounds := valid.indicesInBounds_toTxProposal outlaysFit outputsFit
  exact ⟨valid.toTxProposal, TxProposal.wellFormed_of_indicesInBounds bounds,
    TxProposal.tryFrom_into inverse bounds, valid.toValid_toTxProposal outlaysFit outputsFit _⟩

theorem valid_represented_one_outlay :
    let valid : ValidTxProposal Unit Unit Unit Unit :=
      ⟨[], [⟨5, ()⟩], ⟨⟨[(), ()], 1⟩, ()⟩, fun _ => ⟨1, by decide⟩⟩
    ∃ p wellFormed, TxProposal.tryFrom (Conversions.identity Unit Unit Unit Unit)
        (TxProposal.into (Conversions.identity Unit Unit Unit Unit) p) = .ok p ∧
      TxProposal.toValid p wellFormed = valid :=
  valid_represented _ (Conversions.identity_inverse _ _ _ _) _ (by decide) (by decide)

end MobileCoin.Mobilecoind
