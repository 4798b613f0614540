import MobileCoin.Mobilecoind.Conversions

set_option autoImplicit false

namespace MobileCoin.Mobilecoind

/-- What `TxProposal::try_from` checks of the map: one entry per outlay, every key an outlay
index and every value an output index. -/
def IndicesInBounds (map : HashMap UInt64) (outlaysLen outputsLen : Nat) : Prop :=
  map.len = outlaysLen ∧ ∀ k v, map.get k = some v → k.toNat < outlaysLen ∧ v.toNat < outputsLen

theorem indicesInBounds_iff_iter {map : HashMap UInt64} {outlaysLen outputsLen : Nat} :
    IndicesInBounds map outlaysLen outputsLen ↔
      map.len = outlaysLen ∧ ∀ e ∈ map.iter, e.1.toNat < outlaysLen ∧ e.2.toNat < outputsLen :=
  and_congr_right fun _ => HashMap.forall_get_iff

instance (map : HashMap UInt64) (outlaysLen outputsLen : Nat) :
    Decidable (IndicesInBounds map outlaysLen outputsLen) :=
  decidable_of_iff _ indicesInBounds_iff_iter.symm

/-- A decoded proposal keeps the invariants of a proposal: every outlay has exactly one entry
in the map, and every entry names an output of the transaction. -/
structure TxProposal.WellFormed {TxOut KeyImage PublicAddress Rest : Type}
    (p : TxProposal TxOut KeyImage PublicAddress Rest) : Prop where
  len_eq : p.outlayIndexToTxOutIndex.len = p.outlays.length
  mapped : ∀ i : UInt64, (p.outlayIndexToTxOutIndex.get i).isSome ↔ i.toNat < p.outlays.length
  output_lt : ∀ i j, p.outlayIndexToTxOutIndex.get i = some j →
    j.toNat < p.tx.txPrefix.outputs.length

theorem TxProposal.wellFormed_of_indicesInBounds {TxOut KeyImage PublicAddress Rest : Type}
    {p : TxProposal TxOut KeyImage PublicAddress Rest}
    (bounds : IndicesInBounds p.outlayIndexToTxOutIndex p.outlays.length
      p.tx.txPrefix.outputs.length) : p.WellFormed where
  len_eq := bounds.1
  mapped i := by
    constructor
    next =>
      intro present
      obtain ⟨j, found⟩ := Option.isSome_iff_exists.mp present
      exact (bounds.2 i j found).1
    next =>
      -- The length check and the key bound leave no outlay index without an entry.
      exact HashMap.get_isSome_of_len bounds.1
        fun e member => (indicesInBounds_iff_iter.mp bounds).2 e member |>.1
  output_lt i j found := (bounds.2 i j found).2

section

variable {TxOut KeyImage PublicAddress Rest : Type} {TxOutW KeyImageW PublicAddressW RestW : Type}
  {conv : Conversions TxOut KeyImage PublicAddress Rest TxOutW KeyImageW PublicAddressW RestW}

theorem TxProposal.tryFrom_eq (src : Api.TxProposal TxOutW KeyImageW PublicAddressW RestW) :
    (TxProposal.tryFrom conv src : Except _ (TxProposal TxOut KeyImage PublicAddress Rest)) =
      if src.fee ≠ src.tx.txPrefix.fee then .error .feeMismatch else (do
        let utxos ← src.inputList.mapM (UnspentTxOut.tryFrom conv)
        let outlays ← src.outlayList.mapM (Outlay.tryFrom conv)
        let tx ← Tx.tryFrom conv src.tx
        if IndicesInBounds src.outlayIndexToTxOutIndex outlays.length tx.txPrefix.outputs.length
        then pure ⟨utxos, outlays, tx, src.outlayIndexToTxOutIndex⟩
        else .error .indexOutOfBounds) := by
  unfold TxProposal.tryFrom
  by_cases feeAgrees : src.fee = src.tx.txPrefix.fee
  next =>
    simp only [feeAgrees, ne_eq, not_true_eq_false, if_false, HashMap.fromIter_iter,
      checkIndices_eq, pure_bind]
    refine congrArg _ (funext fun utxos => congrArg _ (funext fun outlays =>
      congrArg _ (funext fun tx => ?_)))
    simp only [indicesInBounds_iff_iter, HashMap.len_eq, HashMap.iter_eq]
    by_cases lengthAgrees : src.outlayIndexToTxOutIndex.entries.length = outlays.length
    next =>
      by_cases inBounds : ∀ e ∈ src.outlayIndexToTxOutIndex.entries,
          e.1.toNat < outlays.length ∧ e.2.toNat < tx.txPrefix.outputs.length
      next => rw [if_neg (· lengthAgrees), if_pos inBounds, if_pos ⟨lengthAgrees, inBounds⟩]; rfl
      next =>
        rw [if_neg (· lengthAgrees), if_neg inBounds,
          if_neg fun both : _ ∧ _ => inBounds both.2]; rfl
    next => rw [if_pos lengthAgrees, if_neg fun both : _ ∧ _ => lengthAgrees both.1]; rfl
  next => simp [feeAgrees]

theorem TxProposal.tryFrom_of_fee_ne {src : Api.TxProposal TxOutW KeyImageW PublicAddressW RestW}
    (mismatch : src.fee ≠ src.tx.txPrefix.fee) :
    (TxProposal.tryFrom conv src : Except _ (TxProposal TxOut KeyImage PublicAddress Rest)) =
      .error .feeMismatch := by
  rw [TxProposal.tryFrom_eq, if_pos mismatch]

theorem TxProposal.tryFrom_of_decoded {src : Api.TxProposal TxOutW KeyImageW PublicAddressW RestW}
    {utxos : List (UnspentTxOut TxOut KeyImage)} {outlays : List (Outlay PublicAddress)}
    {tx : Tx TxOut Rest} (feeAgrees : src.fee = src.tx.txPrefix.fee)
    (inputsDecoded : src.inputList.mapM (UnspentTxOut.tryFrom conv) = .ok utxos)
    (outlaysDecoded : src.outlayList.mapM (Outlay.tryFrom conv) = .ok outlays)
    (txDecoded : Tx.tryFrom conv src.tx = .ok tx) :
    TxProposal.tryFrom conv src =
      if IndicesInBounds src.outlayIndexToTxOutIndex src.outlayList.length
        src.tx.txPrefix.outputs.length
      then .ok ⟨utxos, outlays, tx, src.outlayIndexToTxOutIndex⟩
      else .error .indexOutOfBounds := by
  rw [TxProposal.tryFrom_eq, if_neg (not_not.mpr feeAgrees), ← mapM_length_of_ok outlaysDecoded,
    ← (Tx.txPrefix_of_tryFrom txDecoded).2]
  simp only [inputsDecoded, outlaysDecoded, txDecoded, ok_bind]
  rfl

theorem TxProposal.tryFrom_eq_ok {src : Api.TxProposal TxOutW KeyImageW PublicAddressW RestW}
    {p : TxProposal TxOut KeyImage PublicAddress Rest} :
    TxProposal.tryFrom conv src = .ok p ↔
      src.fee = src.tx.txPrefix.fee ∧
      src.inputList.mapM (UnspentTxOut.tryFrom conv) = .ok p.utxos ∧
      src.outlayList.mapM (Outlay.tryFrom conv) = .ok p.outlays ∧
      Tx.tryFrom conv src.tx = .ok p.tx ∧
      p.outlayIndexToTxOutIndex = src.outlayIndexToTxOutIndex ∧
      IndicesInBounds src.outlayIndexToTxOutIndex p.outlays.length p.tx.txPrefix.outputs.length := by
  rw [TxProposal.tryFrom_eq]
  by_cases feeAgrees : src.fee = src.tx.txPrefix.fee
  next =>
    simp only [feeAgrees, ne_eq, not_true_eq_false, if_false, bind_eq_ok, true_and]
    constructor
    next =>
      rintro ⟨utxos, inputsDecoded, outlays, outlaysDecoded, tx, txDecoded, accepted⟩
      split at accepted
      next bounds =>
        cases accepted
        exact ⟨inputsDecoded, outlaysDecoded, txDecoded, rfl, bounds⟩
      next => cases accepted
    next =>
      rintro ⟨inputsDecoded, outlaysDecoded, txDecoded, sameMap, bounds⟩
      refine ⟨_, inputsDecoded, _, outlaysDecoded, _, txDecoded, ?_⟩
      rw [if_pos bounds, ← sameMap]
      rfl
  next => simp [feeAgrees]

theorem txProposal_tryFrom_contract
    (conv : Conversions TxOut KeyImage PublicAddress Rest TxOutW KeyImageW PublicAddressW RestW)
    (src : Api.TxProposal TxOutW KeyImageW PublicAddressW RestW) :
    (src.fee ≠ src.tx.txPrefix.fee → TxProposal.tryFrom conv src = .error .feeMismatch) ∧
    (src.fee = src.tx.txPrefix.fee →
      (∃ utxos, src.inputList.mapM (UnspentTxOut.tryFrom conv) = .ok utxos) →
      (∃ outlays, src.outlayList.mapM (Outlay.tryFrom conv) = .ok outlays) →
      (∃ tx, Tx.tryFrom conv src.tx = .ok tx) →
      ((∃ p, TxProposal.tryFrom conv src = .ok p) ↔ IndicesInBounds
          src.outlayIndexToTxOutIndex src.outlayList.length src.tx.txPrefix.outputs.length) ∧
      (¬IndicesInBounds src.outlayIndexToTxOutIndex src.outlayList.length
          src.tx.txPrefix.outputs.length →
        TxProposal.tryFrom conv src = .error .indexOutOfBounds)) ∧
    (∀ p, TxProposal.tryFrom conv src = .ok p →
      p.tx.txPrefix.fee = src.fee ∧ p.outlays.length = src.outlayList.length ∧
      (∀ i : UInt64, (p.outlayIndexToTxOutIndex.get i).isSome ↔ i.toNat < p.outlays.length) ∧
      ∀ i j, p.outlayIndexToTxOutIndex.get i = some j →
        j.toNat < p.tx.txPrefix.outputs.length) := by
  refine ⟨TxProposal.tryFrom_of_fee_ne, fun feeAgrees ⟨utxos, inputsDecoded⟩
    ⟨outlays, outlaysDecoded⟩ ⟨tx, txDecoded⟩ => ?_, fun p accepted => ?_⟩
  next =>
    rw [TxProposal.tryFrom_of_decoded feeAgrees inputsDecoded outlaysDecoded txDecoded]
    by_cases bounds : IndicesInBounds src.outlayIndexToTxOutIndex src.outlayList.length
      src.tx.txPrefix.outputs.length <;> simp [bounds]
  next =>
    obtain ⟨feeAgrees, -, outlaysDecoded, txDecoded, sameMap, bounds⟩ :=
      TxProposal.tryFrom_eq_ok.mp accepted
    have wellFormed := TxProposal.wellFormed_of_indicesInBounds (p := p) (sameMap ▸ bounds)
    exact ⟨(Tx.txPrefix_of_tryFrom txDecoded).1.trans feeAgrees.symm,
      mapM_length_of_ok outlaysDecoded, wellFormed.mapped, wellFormed.output_lt⟩

theorem tryFrom_accepts_shared_output
    (conv : Conversions TxOut KeyImage PublicAddress Rest TxOutW KeyImageW PublicAddressW RestW)
    (src : Api.TxProposal TxOutW KeyImageW PublicAddressW RestW) (j : UInt64)
    (feeAgrees : src.fee = src.tx.txPrefix.fee)
    (inputsDecode : ∃ utxos, src.inputList.mapM (UnspentTxOut.tryFrom conv) = .ok utxos)
    (outlaysDecode : ∃ outlays, src.outlayList.mapM (Outlay.tryFrom conv) = .ok outlays)
    (txDecodes : ∃ tx, Tx.tryFrom conv src.tx = .ok tx)
    (twoOutlays : src.outlayList.length = 2)
    (shared : src.outlayIndexToTxOutIndex = HashMap.fromIter [(0, j), (1, j)])
    (inRange : j.toNat < src.tx.txPrefix.outputs.length) :
    ∃ p, TxProposal.tryFrom conv src = .ok p ∧
      p.outlayIndexToTxOutIndex.get 0 = some j ∧ p.outlayIndexToTxOutIndex.get 1 = some j := by
  have entries : (HashMap.fromIter [((0 : UInt64), j), (1, j)]).entries = [(0, j), (1, j)] := by
    simp [HashMap.fromIter, HashMap.insert, HashMap.insertEntry, HashMap.empty]
  have bounds : IndicesInBounds src.outlayIndexToTxOutIndex src.outlayList.length
      src.tx.txPrefix.outputs.length := by
    rw [indicesInBounds_iff_iter, shared, twoOutlays, HashMap.len_eq, HashMap.iter_eq, entries]
    simp [inRange]
  obtain ⟨utxos, inputsDecoded⟩ := inputsDecode
  obtain ⟨outlays, outlaysDecoded⟩ := outlaysDecode
  obtain ⟨tx, txDecoded⟩ := txDecodes
  refine ⟨_, (TxProposal.tryFrom_of_decoded feeAgrees inputsDecoded outlaysDecoded txDecoded).trans
    (if_pos bounds), ?_, ?_⟩ <;>
    simp [HashMap.get_eq_some_iff, shared, entries]

end

theorem tryFrom_accepts_shared_output_three_outputs :
    ∃ p, TxProposal.tryFrom (Conversions.identity Unit Unit Unit Unit)
        { inputList := [⟨(), 7, (), 40, 0, 0⟩]
          outlayList := [⟨10, ()⟩, ⟨20, ()⟩]
          tx := ⟨⟨[(), (), ()], 10⟩, ()⟩
          fee := 10
          outlayIndexToTxOutIndex := HashMap.fromIter [(0, 2), (1, 2)] } = .ok p ∧
      p.outlayIndexToTxOutIndex.get 0 = some 2 ∧ p.outlayIndexToTxOutIndex.get 1 = some 2 :=
  tryFrom_accepts_shared_output _ _ 2 rfl ⟨_, rfl⟩ ⟨_, rfl⟩ ⟨_, rfl⟩ rfl rfl (by decide)

theorem tryFrom_accepts_non_injective_map :
    ∃ p, TxProposal.tryFrom (Conversions.identity Unit Unit Unit Unit)
        { inputList := []
          outlayList := [⟨1, ()⟩, ⟨2, ()⟩]
          tx := ⟨⟨[()], 0⟩, ()⟩
          fee := 0
          outlayIndexToTxOutIndex := HashMap.fromIter [(0, 0), (1, 0)] } = .ok p ∧
      (0 : UInt64) ≠ 1 ∧
      p.outlayIndexToTxOutIndex.get 0 = some 0 ∧ p.outlayIndexToTxOutIndex.get 1 = some 0 :=
  ⟨_, rfl, by decide, rfl, rfl⟩

end MobileCoin.Mobilecoind
