import MobileCoin.Mobilecoind.HashMap

set_option autoImplicit false

namespace MobileCoin.Mobilecoind

instance {V : Type} [DecidableEq V] : DecidableEq (HashMap V) := fun a b =>
  decidable_of_iff (a.entries = b.entries) ⟨HashMap.ext, congrArg HashMap.entries⟩

section Except

variable {ε α β : Type}

theorem bind_eq_ok {x : Except ε α} {f : α → Except ε β} {b : β} :
    (x >>= f) = .ok b ↔ ∃ a, x = .ok a ∧ f a = .ok b := by
  cases x <;> simp [bind, Except.bind]

theorem map_eq_ok {x : Except ε α} {f : α → β} {b : β} :
    f <$> x = .ok b ↔ ∃ a, x = .ok a ∧ f a = b := by
  cases x <;> simp [Functor.map, Except.map]

@[simp] theorem ok_bind (a : α) (f : α → Except ε β) : (Except.ok a >>= f) = f a := rfl

@[simp] theorem error_bind (e : ε) (f : α → Except ε β) : (Except.error e >>= f) = .error e := rfl

@[simp] theorem throw_eq (e : ε) : (throw e : Except ε α) = .error e := rfl

theorem pure_eq_ok {a b : α} : (pure a : Except ε α) = .ok b ↔ a = b := by
  simp [pure, Except.pure]

theorem mapM_cons_eq_ok {f : α → Except ε β} {x : α} {xs : List α} {ys : List β} :
    (x :: xs).mapM f = .ok ys ↔ ∃ y, f x = .ok y ∧ ∃ rest, xs.mapM f = .ok rest ∧ y :: rest = ys := by
  simp only [List.mapM_cons, bind_eq_ok, pure_eq_ok]

theorem mapM_nil_eq_ok {f : α → Except ε β} {ys : List β} :
    ([] : List α).mapM f = .ok ys ↔ ys = [] := by
  rw [List.mapM_nil, pure_eq_ok, eq_comm]

theorem mapM_length_of_ok {f : α → Except ε β} :
    ∀ {xs : List α} {ys : List β}, xs.mapM f = .ok ys → ys.length = xs.length
  | [], _, decoded => by rw [mapM_nil_eq_ok.mp decoded]; rfl
  | x :: xs, ys, decoded => by
    obtain ⟨y, -, rest, restDecoded, rfl⟩ := mapM_cons_eq_ok.mp decoded
    simp [mapM_length_of_ok restDecoded]

theorem mapM_map_of_inverse {f : β → Except ε α} {g : α → β} (inverse : ∀ a, f (g a) = .ok a) :
    ∀ xs : List α, (xs.map g).mapM f = .ok xs
  | [] => rfl
  | x :: xs => mapM_cons_eq_ok.mpr ⟨x, inverse x, xs, mapM_map_of_inverse inverse xs, rfl⟩

theorem map_of_mapM_eq_ok {f : β → Except ε α} {g : α → β}
    (inverse : ∀ w a, f w = .ok a → g a = w) :
    ∀ {ws : List β} {xs : List α}, ws.mapM f = .ok xs → xs.map g = ws
  | [], _, decoded => by rw [mapM_nil_eq_ok.mp decoded]; rfl
  | w :: ws, xs, decoded => by
    obtain ⟨x, head, rest, restDecoded, rfl⟩ := mapM_cons_eq_ok.mp decoded
    simp [inverse w x head, map_of_mapM_eq_ok inverse restDecoded]

end Except

/-- Modelled from the spec: `mobilecoind_api::ConversionError`, the two structural errors this
module raises and the encoding errors of the conversions it calls. -/
inductive ConversionError where
  | encoding
  | feeMismatch
  | indexOutOfBounds
  deriving DecidableEq, Repr

/-- A value and its protobuf message, converted by `From<&A>` one way and `TryFrom<&W>` back. -/
structure Conversion (A W : Type) where
  into : A → W
  tryFrom : W → Except ConversionError A

/-- The two conversions are mutually inverse on their domains. -/
structure Conversion.Inverse {A W : Type} (conversion : Conversion A W) : Prop where
  tryFrom_into : ∀ a, conversion.tryFrom (conversion.into a) = .ok a
  into_tryFrom : ∀ w a, conversion.tryFrom w = .ok a → conversion.into a = w

/-- Modelled from the spec: the prefix of a transaction as far as this module reads it, the
index-addressable output list and the aggregate fee. -/
structure TxPrefix (TxOut : Type) where
  outputs : List TxOut
  fee : UInt64
  deriving DecidableEq, Repr

/-- Modelled from the spec: `tx::Tx` and its message `external::Tx`; `rest` stands for every
field this module does not read (inputs, tombstone block, signature). -/
structure Tx (TxOut Rest : Type) where
  txPrefix : TxPrefix TxOut
  rest : Rest
  deriving DecidableEq, Repr

/-- `utxo_store::UnspentTxOut`. -/
structure UnspentTxOut (TxOut KeyImage : Type) where
  txOut : TxOut
  subaddressIndex : UInt32
  keyImage : KeyImage
  value : UInt64
  attemptedSpendHeight : UInt64
  attemptedSpendTombstone : UInt64
  deriving DecidableEq, Repr

/-- `payments::Outlay`. -/
structure Outlay (PublicAddress : Type) where
  value : UInt64
  receiver : PublicAddress
  deriving DecidableEq, Repr

/-- `payments::TxProposal`. -/
structure TxProposal (TxOut KeyImage PublicAddress Rest : Type) where
  utxos : List (UnspentTxOut TxOut KeyImage)
  outlays : List (Outlay PublicAddress)
  tx : Tx TxOut Rest
  outlayIndexToTxOutIndex : HashMap UInt64
  deriving DecidableEq

namespace Api

/-- `mobilecoind_api::UnspentTxOut`. -/
structure UnspentTxOut (TxOut KeyImage : Type) where
  txOut : TxOut
  subaddressIndex : UInt32
  keyImage : KeyImage
  value : UInt64
  attemptedSpendHeight : UInt64
  attemptedSpendTombstone : UInt64
  deriving DecidableEq, Repr

/-- `mobilecoind_api::Outlay`. -/
structure Outlay (PublicAddress : Type) where
  value : UInt64
  receiver : PublicAddress
  deriving DecidableEq, Repr

/-- `mobilecoind_api::TxProposal`. -/
structure TxProposal (TxOut KeyImage PublicAddress Rest : Type) where
  inputList : List (UnspentTxOut TxOut KeyImage)
  outlayList : List (Outlay PublicAddress)
  tx : Tx TxOut Rest
  fee : UInt64
  outlayIndexToTxOutIndex : HashMap UInt64
  deriving DecidableEq

end Api

/-- The conversions of the transaction crate that this module calls, between each type and its
message. -/
structure Conversions (TxOut KeyImage PublicAddress Rest : Type)
    (TxOutW KeyImageW PublicAddressW RestW : Type) where
  txOut : Conversion TxOut TxOutW
  keyImage : Conversion KeyImage KeyImageW
  publicAddress : Conversion PublicAddress PublicAddressW
  txRest : Conversion Rest RestW

structure Conversions.Inverse {TxOut KeyImage PublicAddress Rest : Type}
    {TxOutW KeyImageW PublicAddressW RestW : Type}
    (conv : Conversions TxOut KeyImage PublicAddress Rest TxOutW KeyImageW PublicAddressW RestW) :
    Prop where
  txOut : conv.txOut.Inverse
  keyImage : conv.keyImage.Inverse
  publicAddress : conv.publicAddress.Inverse
  txRest : conv.txRest.Inverse

/-- A type that is its own message. -/
def Conversion.identity (A : Type) : Conversion A A := ⟨id, .ok⟩

theorem Conversion.identity_inverse (A : Type) : (Conversion.identity A).Inverse :=
  ⟨fun _ => rfl, fun _ _ decoded => by cases decoded; rfl⟩

def Conversions.identity (TxOut KeyImage PublicAddress Rest : Type) :
    Conversions TxOut KeyImage PublicAddress Rest TxOut KeyImage PublicAddress Rest :=
  ⟨.identity _, .identity _, .identity _, .identity _⟩

theorem Conversions.identity_inverse (TxOut KeyImage PublicAddress Rest : Type) :
    (Conversions.identity TxOut KeyImage PublicAddress Rest).Inverse :=
  ⟨Conversion.identity_inverse _, Conversion.identity_inverse _, Conversion.identity_inverse _,
    Conversion.identity_inverse _⟩

section

variable {TxOut KeyImage PublicAddress Rest : Type} {TxOutW KeyImageW PublicAddressW RestW : Type}
  (conv : Conversions TxOut KeyImage PublicAddress Rest TxOutW KeyImageW PublicAddressW RestW)

/-- Modelled from the spec: the field-exact conversion of a transaction to its message. -/
def Tx.into (tx : Tx TxOut Rest) : Tx TxOutW RestW :=
  ⟨⟨tx.txPrefix.outputs.map conv.txOut.into, tx.txPrefix.fee⟩, conv.txRest.into tx.rest⟩

/-- Modelled from the spec: the field-exact conversion of a transaction message back. -/
def Tx.tryFrom (src : Tx TxOutW RestW) : Except ConversionError (Tx TxOut Rest) := do
  let outputs ← src.txPrefix.outputs.mapM conv.txOut.tryFrom
  let rest ← conv.txRest.tryFrom src.rest
  pure ⟨⟨outputs, src.txPrefix.fee⟩, rest⟩

def UnspentTxOut.into (src : UnspentTxOut TxOut KeyImage) : Api.UnspentTxOut TxOutW KeyImageW :=
  { txOut := conv.txOut.into src.txOut
    subaddressIndex := src.subaddressIndex
    keyImage := conv.keyImage.into src.keyImage
    value := src.value
    attemptedSpendHeight := src.attemptedSpendHeight
    attemptedSpendTombstone := src.attemptedSpendTombstone }

def UnspentTxOut.tryFrom (src : Api.UnspentTxOut TxOutW KeyImageW) :
    Except ConversionError (UnspentTxOut TxOut KeyImage) := do
  let txOut ← conv.txOut.tryFrom src.txOut
  let subaddressIndex := src.subaddressIndex
  let keyImage ← conv.keyImage.tryFrom src.keyImage
  let value := src.value
  let attemptedSpendHeight := src.attemptedSpendHeight
  let attemptedSpendTombstone := src.attemptedSpendTombstone
  pure { txOut, subaddressIndex, keyImage, value, attemptedSpendHeight, attemptedSpendTombstone }

def Outlay.into (src : Outlay PublicAddress) : Api.Outlay PublicAddressW :=
  { value := src.value
    receiver := conv.publicAddress.into src.receiver }

def Outlay.tryFrom (src : Api.Outlay PublicAddressW) : Except ConversionError (Outlay PublicAddress) := do
  let value := src.value
  let receiver ← conv.publicAddress.tryFrom src.receiver
  pure { value, receiver }

/-- `*key as u64` and `*val as u64` are the identity on a 64-bit `usize`. -/
def TxProposal.into (src : TxProposal TxOut KeyImage PublicAddress Rest) :
    Api.TxProposal TxOutW KeyImageW PublicAddressW RestW :=
  { inputList := src.utxos.map (UnspentTxOut.into conv)
    outlayList := src.outlays.map (Outlay.into conv)
    tx := Tx.into conv src.tx
    fee := src.tx.txPrefix.fee
    outlayIndexToTxOutIndex := HashMap.fromIter src.outlayIndexToTxOutIndex.iter }

/-- The loop of `TxProposal::try_from` over the decoded map, with `outlays.len()` and
`tx.prefix.outputs.len()`. -/
def checkIndices (outlaysLen outputsLen : Nat) (entries : List (UInt64 × UInt64)) :
    Except ConversionError Unit := do
  for (outlayIndex, txOutIndex) in entries do
    if outlayIndex.toNat ≥ outlaysLen ∨ txOutIndex.toNat ≥ outputsLen then
      throw .indexOutOfBounds

/-- `*key as usize` and `*val as usize` are the identity on a 64-bit `usize`. -/
def TxProposal.tryFrom (src : Api.TxProposal TxOutW KeyImageW PublicAddressW RestW) :
    Except ConversionError (TxProposal TxOut KeyImage PublicAddress Rest) := do
  if src.fee ≠ src.tx.txPrefix.fee then
    throw .feeMismatch
  let utxos ← src.inputList.mapM (UnspentTxOut.tryFrom conv)
  let outlays ← src.outlayList.mapM (Outlay.tryFrom conv)
  let tx ← Tx.tryFrom conv src.tx
  let outlayIndexToTxOutIndex := HashMap.fromIter src.outlayIndexToTxOutIndex.iter
  if outlayIndexToTxOutIndex.len ≠ outlays.length then
    throw .indexOutOfBounds
  checkIndices outlays.length tx.txPrefix.outputs.length outlayIndexToTxOutIndex.iter
  pure { utxos, outlays, tx, outlayIndexToTxOutIndex }

end

section

variable {TxOut KeyImage PublicAddress Rest : Type} {TxOutW KeyImageW PublicAddressW RestW : Type}
  {conv : Conversions TxOut KeyImage PublicAddress Rest TxOutW KeyImageW PublicAddressW RestW}

theorem Tx.tryFrom_eq_ok {src : Tx TxOutW RestW} {tx : Tx TxOut Rest} :
    Tx.tryFrom conv src = .ok tx ↔
      ∃ outputs, src.txPrefix.outputs.mapM conv.txOut.tryFrom = .ok outputs ∧
        ∃ rest, conv.txRest.tryFrom src.rest = .ok rest ∧
          ⟨⟨outputs, src.txPrefix.fee⟩, rest⟩ = tx := by
  simp only [Tx.tryFrom, bind_eq_ok, pure_eq_ok]

theorem Tx.txPrefix_of_tryFrom {src : Tx TxOutW RestW} {tx : Tx TxOut Rest}
    (decoded : Tx.tryFrom conv src = .ok tx) :
    tx.txPrefix.fee = src.txPrefix.fee ∧
      tx.txPrefix.outputs.length = src.txPrefix.outputs.length := by
  obtain ⟨outputs, outputsDecoded, rest, -, rfl⟩ := Tx.tryFrom_eq_ok.mp decoded
  exact ⟨rfl, mapM_length_of_ok outputsDecoded⟩

theorem Tx.tryFrom_into (inverse : conv.Inverse) (tx : Tx TxOut Rest) :
    Tx.tryFrom conv (Tx.into conv tx) = .ok tx :=
  Tx.tryFrom_eq_ok.mpr ⟨_, mapM_map_of_inverse inverse.txOut.tryFrom_into _, _,
    inverse.txRest.tryFrom_into _, rfl⟩

theorem Tx.into_of_tryFrom (inverse : conv.Inverse) {src : Tx TxOutW RestW} {tx : Tx TxOut Rest}
    (decoded : Tx.tryFrom conv src = .ok tx) : Tx.into conv tx = src := by
  obtain ⟨outputs, outputsDecoded, rest, restDecoded, rfl⟩ := Tx.tryFrom_eq_ok.mp decoded
  simp [Tx.into, map_of_mapM_eq_ok inverse.txOut.into_tryFrom outputsDecoded,
    inverse.txRest.into_tryFrom _ _ restDecoded]

theorem UnspentTxOut.tryFrom_into (inverse : conv.Inverse) (utxo : UnspentTxOut TxOut KeyImage) :
    UnspentTxOut.tryFrom conv (UnspentTxOut.into conv utxo) = .ok utxo := by
  simp [UnspentTxOut.tryFrom, UnspentTxOut.into, inverse.txOut.tryFrom_into,
    inverse.keyImage.tryFrom_into, pure, Except.pure]

theorem UnspentTxOut.into_of_tryFrom (inverse : conv.Inverse)
    {src : Api.UnspentTxOut TxOutW KeyImageW} {utxo : UnspentTxOut TxOut KeyImage}
    (decoded : UnspentTxOut.tryFrom conv src = .ok utxo) : UnspentTxOut.into conv utxo = src := by
  simp only [UnspentTxOut.tryFrom, bind_eq_ok, pure_eq_ok] at decoded
  obtain ⟨txOut, txOutDecoded, keyImage, keyImageDecoded, rfl⟩ := decoded
  simp [UnspentTxOut.into, inverse.txOut.into_tryFrom _ _ txOutDecoded,
    inverse.keyImage.into_tryFrom _ _ keyImageDecoded]

theorem Outlay.tryFrom_into (inverse : conv.Inverse) (outlay : Outlay PublicAddress) :
    Outlay.tryFrom conv (Outlay.into conv outlay) = .ok outlay := by
  simp [Outlay.tryFrom, Outlay.into, inverse.publicAddress.tryFrom_into, pure, Except.pure]

theorem Outlay.into_of_tryFrom (inverse : conv.Inverse) {src : Api.Outlay PublicAddressW}
    {outlay : Outlay PublicAddress} (decoded : Outlay.tryFrom conv src = .ok outlay) :
    Outlay.into conv outlay = src := by
  simp only [Outlay.tryFrom, bind_eq_ok, pure_eq_ok] at decoded
  obtain ⟨receiver, receiverDecoded, rfl⟩ := decoded
  simp [Outlay.into, inverse.publicAddress.into_tryFrom _ _ receiverDecoded]

end

theorem checkIndices_eq (outlaysLen outputsLen : Nat) :
    ∀ entries : List (UInt64 × UInt64),
      checkIndices outlaysLen outputsLen entries =
        if ∀ e ∈ entries, e.1.toNat < outlaysLen ∧ e.2.toNat < outputsLen then .ok ()
        else .error .indexOutOfBounds
  | [] => rfl
  | (outlayIndex, txOutIndex) :: rest => by
    have next := checkIndices_eq outlaysLen outputsLen rest
    simp only [checkIndices, List.forIn_cons, List.forall_mem_cons] at next ⊢
    by_cases outside : outlayIndex.toNat ≥ outlaysLen ∨ txOutIndex.toNat ≥ outputsLen
    next =>
      have headFails : ¬(outlayIndex.toNat < outlaysLen ∧ txOutIndex.toNat < outputsLen) := by
        omega
      simp [outside, headFails]
    next =>
      have headOk : outlayIndex.toNat < outlaysLen ∧ txOutIndex.toNat < outputsLen := by omega
      simp only [ge_iff_le, throw_eq, bind_pure_comp, Except.map_error, map_pure, id_map',
        Prod.forall, outside, ↓reduceIte, pure_bind] at next ⊢
      rw [next]
      by_cases all : ∀ e ∈ rest, e.1.toNat < outlaysLen ∧ e.2.toNat < outputsLen
      next => rw [if_pos all, if_pos ⟨headOk, all⟩]
      next => rw [if_neg all, if_neg fun both => all both.2]

theorem checkIndices_perm (outlaysLen outputsLen : Nat) {entries entries' : List (UInt64 × UInt64)}
    (perm : entries.Perm entries') :
    checkIndices outlaysLen outputsLen entries = checkIndices outlaysLen outputsLen entries' := by
  simp only [checkIndices_eq, perm.mem_iff]

section

variable {TxOut KeyImage PublicAddress Rest : Type} {TxOutW KeyImageW PublicAddressW RestW : Type}
  (conv : Conversions TxOut KeyImage PublicAddress Rest TxOutW KeyImageW PublicAddressW RestW)

/-- `TxProposal::try_from` with the orders in which it iterates the message's map and the map it
rebuilds left open, as Rust's `HashMap` leaves them; `TxProposal.tryFrom` iterates both in key
order. -/
def TxProposal.tryFromWithOrder (wireOrder mapOrder : HashMap UInt64 → List (UInt64 × UInt64))
    (src : Api.TxProposal TxOutW KeyImageW PublicAddressW RestW) :
    Except ConversionError (TxProposal TxOut KeyImage PublicAddress Rest) := do
  if src.fee ≠ src.tx.txPrefix.fee then
    throw .feeMismatch
  let utxos ← src.inputList.mapM (UnspentTxOut.tryFrom conv)
  let outlays ← src.outlayList.mapM (Outlay.tryFrom conv)
  let tx ← Tx.tryFrom conv src.tx
  let outlayIndexToTxOutIndex := HashMap.fromIter (wireOrder src.outlayIndexToTxOutIndex)
  if outlayIndexToTxOutIndex.len ≠ outlays.length then
    throw .indexOutOfBounds
  checkIndices outlays.length tx.txPrefix.outputs.length (mapOrder outlayIndexToTxOutIndex)
  pure { utxos, outlays, tx, outlayIndexToTxOutIndex }

theorem tryFromWithOrder_eq (wireOrder mapOrder : HashMap UInt64 → List (UInt64 × UInt64))
    (wirePerm : ∀ map, (wireOrder map).Perm map.iter)
    (mapPerm : ∀ map, (mapOrder map).Perm map.iter)
    (src : Api.TxProposal TxOutW KeyImageW PublicAddressW RestW) :
    (TxProposal.tryFromWithOrder conv wireOrder mapOrder src :
      Except _ (TxProposal TxOut KeyImage PublicAddress Rest)) = TxProposal.tryFrom conv src := by
  have rebuilt : HashMap.fromIter (wireOrder src.outlayIndexToTxOutIndex) =
      HashMap.fromIter src.outlayIndexToTxOutIndex.iter :=
    HashMap.fromIter_perm (wirePerm _)
      (((wirePerm _).map Prod.fst).nodup_iff.mpr (HashMap.nodup_keys _))
  have loop : ∀ outlaysLen outputsLen map, checkIndices outlaysLen outputsLen (mapOrder map) =
      checkIndices outlaysLen outputsLen map.iter :=
    fun _ _ map => checkIndices_perm _ _ (mapPerm map)
  simp only [TxProposal.tryFromWithOrder, TxProposal.tryFrom, rebuilt, loop]

end

theorem tryFromWithOrder_eq_reversed :
    let src : Api.TxProposal Unit Unit Unit Unit :=
      { inputList := [], outlayList := [⟨5, ()⟩, ⟨6, ()⟩], tx := ⟨⟨[(), ()], 1⟩, ()⟩, fee := 1
        outlayIndexToTxOutIndex := HashMap.fromIter [(0, 1), (1, 0)] }
    TxProposal.tryFromWithOrder (Conversions.identity Unit Unit Unit Unit)
        (fun map => map.iter.reverse) (fun map => map.iter.reverse) src =
      TxProposal.tryFrom (Conversions.identity Unit Unit Unit Unit) src :=
  tryFromWithOrder_eq _ _ _ (fun _ => List.reverse_perm _) (fun _ => List.reverse_perm _) _

end MobileCoin.Mobilecoind
