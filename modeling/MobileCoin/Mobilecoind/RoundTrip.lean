import MobileCoin.Mobilecoind.Proposal

set_option autoImplicit false

namespace MobileCoin.Mobilecoind

section

variable {TxOut KeyImage PublicAddress Rest : Type} {TxOutW KeyImageW PublicAddressW RestW : Type}
  {conv : Conversions TxOut KeyImage PublicAddress Rest TxOutW KeyImageW PublicAddressW RestW}

@[simp] theorem TxProposal.into_fee (p : TxProposal TxOut KeyImage PublicAddress Rest) :
    (TxProposal.into conv p).fee = p.tx.txPrefix.fee := rfl

@[simp] theorem TxProposal.into_tx_fee (p : TxProposal TxOut KeyImage PublicAddress Rest) :
    (TxProposal.into conv p).tx.txPrefix.fee = p.tx.txPrefix.fee := rfl

@[simp] theorem TxProposal.into_map (p : TxProposal TxOut KeyImage PublicAddress Rest) :
    (TxProposal.into conv p).outlayIndexToTxOutIndex = p.outlayIndexToTxOutIndex :=
  HashMap.fromIter_iter _

theorem TxProposal.tryFrom_into (inverse : conv.Inverse)
    {p : TxProposal TxOut KeyImage PublicAddress Rest}
    (bounds : IndicesInBounds p.outlayIndexToTxOutIndex p.outlays.length
      p.tx.txPrefix.outputs.length) :
    TxProposal.tryFrom conv (TxProposal.into conv p) = .ok p := by
  have decoded : TxProposal.tryFrom conv (TxProposal.into conv p) = _ :=
    TxProposal.tryFrom_of_decoded rfl (mapM_map_of_inverse (UnspentTxOut.tryFrom_into inverse) p.utxos)
    (mapM_map_of_inverse (Outlay.tryFrom_into inverse) p.outlays)
    (Tx.tryFrom_into inverse p.tx)
  have bounds' : IndicesInBounds (TxProposal.into conv p).outlayIndexToTxOutIndex
      (TxProposal.into conv p).outlayList.length
      (TxProposal.into conv p).tx.txPrefix.outputs.length := by
    simpa only [TxProposal.into, Tx.into, List.length_map, HashMap.fromIter_iter] using bounds
  rw [decoded, if_pos bounds', TxProposal.into_map]

theorem TxProposal.into_of_tryFrom (inverse : conv.Inverse)
    {src : Api.TxProposal TxOutW KeyImageW PublicAddressW RestW}
    {p : TxProposal TxOut KeyImage PublicAddress Rest}
    (accepted : TxProposal.tryFrom conv src = .ok p) : TxProposal.into conv p = src := by
  cases src
  obtain ⟨feeAgrees, inputsDecoded, outlaysDecoded, txDecoded, sameMap, -⟩ :=
    TxProposal.tryFrom_eq_ok.mp accepted
  dsimp only at feeAgrees inputsDecoded outlaysDecoded txDecoded sameMap
  simp only [TxProposal.into, HashMap.fromIter_iter, sameMap,
    map_of_mapM_eq_ok (fun _ _ => UnspentTxOut.into_of_tryFrom inverse) inputsDecoded,
    map_of_mapM_eq_ok (fun _ _ => Outlay.into_of_tryFrom inverse) outlaysDecoded,
    Tx.into_of_tryFrom inverse txDecoded, (Tx.txPrefix_of_tryFrom txDecoded).1, feeAgrees]

theorem txProposal_round_trip
    (conv : Conversions TxOut KeyImage PublicAddress Rest TxOutW KeyImageW PublicAddressW RestW)
    (inverse : conv.Inverse) :
    (∀ p : TxProposal TxOut KeyImage PublicAddress Rest,
      p.outlayIndexToTxOutIndex.len = p.outlays.length →
      (∀ k v, p.outlayIndexToTxOutIndex.get k = some v →
        k.toNat < p.outlays.length ∧ v.toNat < p.tx.txPrefix.outputs.length) →
      TxProposal.tryFrom conv (TxProposal.into conv p) = .ok p) ∧
    (∀ src p, TxProposal.tryFrom conv src = .ok p → TxProposal.into conv p = src) :=
  ⟨fun _ size bounds => TxProposal.tryFrom_into inverse ⟨size, bounds⟩,
    fun _ _ => TxProposal.into_of_tryFrom inverse⟩

theorem tryFrom_into_eq
    (conv : Conversions TxOut KeyImage PublicAddress Rest TxOutW KeyImageW PublicAddressW RestW)
    (inverse : conv.Inverse) (p : TxProposal TxOut KeyImage PublicAddress Rest) :
    TxProposal.tryFrom conv (TxProposal.into conv p) =
      if IndicesInBounds p.outlayIndexToTxOutIndex p.outlays.length p.tx.txPrefix.outputs.length
      then .ok p else .error .indexOutOfBounds := by
  rw [TxProposal.tryFrom_of_decoded rfl
    (mapM_map_of_inverse (UnspentTxOut.tryFrom_into inverse) p.utxos)
    (mapM_map_of_inverse (Outlay.tryFrom_into inverse) p.outlays) (Tx.tryFrom_into inverse p.tx)]
  simp only [TxProposal.into, Tx.into, List.length_map, HashMap.fromIter_iter]

end

theorem tryFrom_into_eq_out_of_bounds :
    (Conversions.identity Unit Unit Unit Unit).Inverse ∧
    TxProposal.tryFrom (Conversions.identity Unit Unit Unit Unit)
        (TxProposal.into (Conversions.identity Unit Unit Unit Unit)
          ⟨[], [⟨5, ()⟩], ⟨⟨[()], 1⟩, ()⟩, HashMap.fromIter [(0, 1)]⟩) =
      .error .indexOutOfBounds :=
  ⟨Conversions.identity_inverse _ _ _ _,
    (tryFrom_into_eq _ (Conversions.identity_inverse _ _ _ _) _).trans (if_neg (by decide))⟩

theorem txProposal_round_trip_identity :
    let p : TxProposal Unit Unit Unit Unit :=
      { utxos := [], outlays := [⟨5, ()⟩], tx := ⟨⟨[(), ()], 1⟩, ()⟩
        outlayIndexToTxOutIndex := HashMap.fromIter [(0, 1)] }
    (Conversions.identity Unit Unit Unit Unit).Inverse ∧
    (∀ p : TxProposal Unit Unit Unit Unit,
      p.outlayIndexToTxOutIndex.len = p.outlays.length →
      (∀ k v, p.outlayIndexToTxOutIndex.get k = some v →
        k.toNat < p.outlays.length ∧ v.toNat < p.tx.txPrefix.outputs.length) →
      TxProposal.tryFrom (Conversions.identity Unit Unit Unit Unit)
        (TxProposal.into (Conversions.identity Unit Unit Unit Unit) p) = .ok p) ∧
    (∀ src p, TxProposal.tryFrom (Conversions.identity Unit Unit Unit Unit) src = .ok p →
      TxProposal.into (Conversions.identity Unit Unit Unit Unit) p = src) ∧
    TxProposal.tryFrom (Conversions.identity Unit Unit Unit Unit)
      (TxProposal.into (Conversions.identity Unit Unit Unit Unit) p) = .ok p := by
  intro p
  have roundTrip := txProposal_round_trip _ (Conversions.identity_inverse Unit Unit Unit Unit)
  have bounds : IndicesInBounds p.outlayIndexToTxOutIndex p.outlays.length
      p.tx.txPrefix.outputs.length := by decide
  exact ⟨Conversions.identity_inverse _ _ _ _, roundTrip.1, roundTrip.2,
    roundTrip.1 p bounds.1 bounds.2⟩

end MobileCoin.Mobilecoind
