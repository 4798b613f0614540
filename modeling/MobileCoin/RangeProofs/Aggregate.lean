import MobileCoin.RangeProofs.Resize

set_option autoImplicit false

namespace MobileCoin.RangeProofs

/-- `DOMAIN_SEPARATOR_LABEL`, the byte string `b"range_proof"`. -/
def domainSeparatorLabel : String := "range_proof"

/-- The calls the module makes into the bulletproofs crate, with the generators `BP_GENERATORS`
and `GENERATORS` fixed: each takes the label of a fresh transcript, the values or commitments,
the bit size and the caller's generator of randomness. -/
structure Bulletproofs (Scalar RangeProof CompressedRistretto ProofError Rng : Type) where
  proveMultipleWithRng :
    String → List UInt64 → List Scalar → Nat → Rng →
      Except ProofError (RangeProof × List CompressedRistretto)
  verifyMultipleWithRng :
    RangeProof → String → List CompressedRistretto → Nat → Rng → Except ProofError Unit

section

variable {Blinding Scalar RangeProof CompressedRistretto ProofError Rng : Type}

/-- `.map_err(Error::from)` on a result of the bulletproofs crate. -/
def mapErrFrom {α : Type} : Except ProofError α → Outcome (Error ProofError) α
  | .ok value => .ok value
  | .error error => .err (.rangeProof error)

variable (bulletproofs : Bulletproofs Scalar RangeProof CompressedRistretto ProofError Rng)

/-- `asRef` is `Blinding::as_ref`, the scalar inside a blinding. -/
def generateRangeProofs (asRef : Blinding → Scalar) (values : List UInt64)
    (serials : List Blinding) (rng : Rng) :
    Outcome (Error ProofError) (RangeProof × List CompressedRistretto) := do
  let valuesPadded ← resizeSliceToPow2 values
  let serialsPadded ← resizeSliceToPow2 serials
  let blindings := serialsPadded.map asRef
  mapErrFrom (bulletproofs.proveMultipleWithRng domainSeparatorLabel valuesPadded blindings 64 rng)

def checkRangeProofs (rangeProof : RangeProof) (commitments : List CompressedRistretto) (rng : Rng) :
    Outcome (Error ProofError) Unit := do
  let resizedCommitments ← resizeSliceToPow2 commitments
  mapErrFrom
    (bulletproofs.verifyMultipleWithRng rangeProof domainSeparatorLabel resizedCommitments 64 rng)

end

section Padding

variable {α β γ : Type}

theorem getLast?_zip {xs : List α} {ys : List β} (same : ys.length = xs.length) {a : α} {b : β}
    (lastX : xs.getLast? = some a) (lastY : ys.getLast? = some b) :
    (xs.zip ys).getLast? = some (a, b) := by
  rw [List.getLast?_eq_getElem?] at lastX lastY ⊢
  rw [List.length_zip, same, Nat.min_self]
  exact List.getElem?_zip_eq_some.mpr ⟨lastX, same ▸ lastY⟩


theorem resizeSliceToPow2_take_map_zip {ProofError : Type} (f : α × β → γ) {xs : List α}
    {ys : List β} (same : ys.length = xs.length) {p k : Nat} {a : α} {b : β}
    (fits : checkedNextPowerOfTwo xs.length = some p) (lastX : xs.getLast? = some a)
    (lastY : ys.getLast? = some b) (lower : xs.length ≤ k) (upper : k ≤ p) :
    (resizeSliceToPow2 ((((xs ++ List.replicate (p - xs.length) a).zip
        (ys ++ List.replicate (p - xs.length) b)).map f).take k) : Outcome (Error ProofError) _) =
      .ok (((xs ++ List.replicate (p - xs.length) a).zip
        (ys ++ List.replicate (p - xs.length) b)).map f) := by
  -- Committing after padding apart is padding the commitments with the last pair's commitment.
  have committedLength : ((xs.zip ys).map f).length = xs.length := by simp [same]
  have paddedEq : ((xs ++ List.replicate (p - xs.length) a).zip
      (ys ++ List.replicate (p - xs.length) b)).map f =
      (xs.zip ys).map f ++ List.replicate (p - ((xs.zip ys).map f).length) (f (a, b)) := by
    simp [List.zip_append same.symm, committedLength]
  rw [paddedEq]
  exact resizeSliceToPow2_take_padded (committedLength ▸ fits)
    (by simp [getLast?_zip same lastX lastY]) (by omega) (by omega)

end Padding

section Generate

variable {Blinding Scalar RangeProof CompressedRistretto ProofError Rng : Type}
  (bulletproofs : Bulletproofs Scalar RangeProof CompressedRistretto ProofError Rng)

theorem mapErrFrom_eq_ok {α : Type} {result : Except ProofError α} {value : α} :
    mapErrFrom result = .ok value ↔ result = .ok value := by
  cases result <;> simp [mapErrFrom]

/-- The prover commits to each value with its blinding, in order. -/
def Bulletproofs.CommitsEach (commit : UInt64 × Scalar → CompressedRistretto) : Prop :=
  ∀ label values blindings bitSize rng rangeProof commitments,
    bulletproofs.proveMultipleWithRng label values blindings bitSize rng =
        .ok (rangeProof, commitments) →
      commitments = (values.zip blindings).map commit

theorem generateRangeProofs_of_fits (asRef : Blinding → Scalar) {values : List UInt64}
    {serials : List Blinding} {p : Nat} {lastValue : UInt64} {lastSerial : Blinding}
    (fitsV : checkedNextPowerOfTwo values.length = some p)
    (fitsS : checkedNextPowerOfTwo serials.length = some p)
    (lastV : values.getLast? = some lastValue) (lastS : serials.getLast? = some lastSerial)
    (rng : Rng) :
    generateRangeProofs bulletproofs asRef values serials rng =
      mapErrFrom (bulletproofs.proveMultipleWithRng domainSeparatorLabel
        (values ++ List.replicate (p - values.length) lastValue)
        ((serials ++ List.replicate (p - serials.length) lastSerial).map asRef) 64 rng) := by
  simp [generateRangeProofs, resizeSliceToPow2_of_fits fitsV lastV,
    resizeSliceToPow2_of_fits fitsS lastS]

theorem generated_commitments_eq (asRef : Blinding → Scalar)
    {commit : UInt64 × Scalar → CompressedRistretto} (commitsEach : bulletproofs.CommitsEach commit)
    {values : List UInt64} {serials : List Blinding} (sameLength : serials.length = values.length)
    {p : Nat} {lastValue : UInt64} {lastSerial : Blinding}
    (fitsV : checkedNextPowerOfTwo values.length = some p)
    (lastV : values.getLast? = some lastValue) (lastS : serials.getLast? = some lastSerial)
    {rng : Rng} {rangeProof : RangeProof} {commitments : List CompressedRistretto}
    (generated : generateRangeProofs bulletproofs asRef values serials rng =
      .ok (rangeProof, commitments)) :
    commitments = (values.zip (serials.map asRef)).map commit ++
      List.replicate (p - values.length) (commit (lastValue, asRef lastSerial)) := by
  rw [generateRangeProofs_of_fits bulletproofs asRef fitsV (sameLength ▸ fitsV) lastV lastS,
    mapErrFrom_eq_ok] at generated
  rw [commitsEach _ _ _ _ _ _ _ generated]
  simp [List.zip_append (by simp [sameLength] : values.length = (serials.map asRef).length),
    sameLength]

end Generate

theorem padded_commitments_agree {Blinding Scalar RangeProof CompressedRistretto ProofError Rng : Type}
    (commit : UInt64 × Blinding → CompressedRistretto) (values : List UInt64)
    (serials : List Blinding) (sameLength : serials.length = values.length)
    (nonempty : 0 < values.length) (fits : values.length ≤ 2 ^ (usizeBits - 1)) :
    ∃ valuesPadded serialsPadded,
      (resizeSliceToPow2 values : Outcome (Error ProofError) _) = .ok valuesPadded ∧
      (resizeSliceToPow2 serials : Outcome (Error ProofError) _) = .ok serialsPadded ∧
      (∀ (bulletproofs : Bulletproofs Scalar RangeProof CompressedRistretto ProofError Rng)
          (asRef : Blinding → Scalar) (rng : Rng),
        generateRangeProofs bulletproofs asRef values serials rng =
          mapErrFrom (bulletproofs.proveMultipleWithRng domainSeparatorLabel valuesPadded
            (serialsPadded.map asRef) 64 rng)) ∧
      let padded := (valuesPadded.zip serialsPadded).map commit
      (∀ (bulletproofs : Bulletproofs Scalar RangeProof CompressedRistretto ProofError Rng)
          (asRef : Blinding → Scalar) (commitScalar : UInt64 × Scalar → CompressedRistretto),
        bulletproofs.CommitsEach commitScalar →
        (∀ value blinding, commit (value, blinding) = commitScalar (value, asRef blinding)) →
        ∀ (rng : Rng) (rangeProof : RangeProof) (commitments : List CompressedRistretto),
          generateRangeProofs bulletproofs asRef values serials rng =
            .ok (rangeProof, commitments) →
          commitments = padded) ∧
      (resizeSliceToPow2 ((values.zip serials).map commit) : Outcome (Error ProofError) _) =
        .ok padded ∧
      ∀ k, values.length ≤ k → k ≤ padded.length →
        (resizeSliceToPow2 (padded.take k) : Outcome (Error ProofError) _) = .ok padded ∧
        ∀ (bulletproofs : Bulletproofs Scalar RangeProof CompressedRistretto ProofError Rng)
          (rangeProof : RangeProof) (rng : Rng),
          checkRangeProofs bulletproofs rangeProof (padded.take k) rng =
            mapErrFrom (bulletproofs.verifyMultipleWithRng rangeProof domainSeparatorLabel padded
              64 rng) := by
  obtain ⟨p, fitsP⟩ := checkedNextPowerOfTwo_of_le fits
  have le := le_of_checkedNextPowerOfTwo fitsP
  have lastV := List.getLast?_eq_getLast values (List.ne_nil_of_length_pos nonempty)
  have lastS := List.getLast?_eq_getLast serials (List.ne_nil_of_length_pos (sameLength ▸ nonempty))
  have fitsS : checkedNextPowerOfTwo serials.length = some p := sameLength ▸ fitsP
  refine ⟨_, _, resizeSliceToPow2_of_fits fitsP lastV, resizeSliceToPow2_of_fits fitsS lastS,
    fun bulletproofs asRef => generateRangeProofs_of_fits bulletproofs asRef fitsP fitsS lastV lastS,
    ?_⟩
  intro padded
  have prefixResized : ∀ k, values.length ≤ k → k ≤ p →
      (resizeSliceToPow2 (padded.take k) : Outcome (Error ProofError) _) = .ok padded := by
    simpa only [padded, sameLength] using
      fun k => resizeSliceToPow2_take_map_zip commit sameLength fitsP lastV lastS (k := k)
  have committedEq : padded.take values.length = (values.zip serials).map commit := by
    simp [padded, ← List.map_take, List.zip_append sameLength.symm, sameLength]
  have paddedLength : padded.length = p := by simp [padded, sameLength]; omega
  refine ⟨?_, committedEq ▸ prefixResized _ le_rfl le, fun k lower upper => ?_⟩
  · -- An elementwise prover returns the commitments to the padded pairs.
    intro bulletproofs asRef commitScalar commitsEach factor rng rangeProof commitments generated
    rw [generateRangeProofs_of_fits bulletproofs asRef fitsP fitsS lastV lastS, mapErrFrom_eq_ok]
      at generated
    rw [commitsEach _ _ _ _ _ _ _ generated, List.zip_map_right, List.map_map]
    exact List.map_congr_left fun pair _ => (factor pair.1 pair.2).symm
  · have resized := prefixResized k lower (paddedLength ▸ upper)
    exact ⟨resized, fun _ _ _ => by simp [checkRangeProofs, resized]⟩

theorem padded_commitments_agree_three :
    ∃ valuesPadded serialsPadded,
      (resizeSliceToPow2 [1, 2, 3] : Outcome (Error Unit) (List UInt64)) = .ok valuesPadded ∧
      (resizeSliceToPow2 [4, 5, 6] : Outcome (Error Unit) (List Nat)) = .ok serialsPadded ∧
      (∀ (bulletproofs : Bulletproofs Nat Unit Nat Unit Unit) (asRef : Nat → Nat) (rng : Unit),
        generateRangeProofs bulletproofs asRef [1, 2, 3] [4, 5, 6] rng =
          mapErrFrom (bulletproofs.proveMultipleWithRng domainSeparatorLabel valuesPadded
            (serialsPadded.map asRef) 64 rng)) ∧
      let padded := (valuesPadded.zip serialsPadded).map fun pair => pair.1.toNat + pair.2
      (∀ (bulletproofs : Bulletproofs Nat Unit Nat Unit Unit) (asRef : Nat → Nat)
          (commitScalar : UInt64 × Nat → Nat),
        bulletproofs.CommitsEach commitScalar →
        (∀ (value : UInt64) (blinding : Nat),
          value.toNat + blinding = commitScalar (value, asRef blinding)) →
        ∀ (rng : Unit) (rangeProof : Unit) (commitments : List Nat),
          generateRangeProofs bulletproofs asRef [1, 2, 3] [4, 5, 6] rng =
            .ok (rangeProof, commitments) →
          commitments = padded) ∧
      (resizeSliceToPow2 ((([1, 2, 3] : List UInt64).zip ([4, 5, 6] : List Nat)).map
          fun pair => pair.1.toNat + pair.2) :
        Outcome (Error Unit) _) = .ok padded ∧
      ∀ k, 3 ≤ k → k ≤ padded.length →
        (resizeSliceToPow2 (padded.take k) : Outcome (Error Unit) _) = .ok padded ∧
        ∀ (bulletproofs : Bulletproofs Nat Unit Nat Unit Unit) (rangeProof : Unit) (rng : Unit),
          checkRangeProofs bulletproofs rangeProof (padded.take k) rng =
            mapErrFrom (bulletproofs.verifyMultipleWithRng rangeProof domainSeparatorLabel padded
              64 rng) :=
  padded_commitments_agree (fun pair => pair.1.toNat + pair.2) [1, 2, 3] [4, 5, 6] rfl
    (by decide) (by decide)

section Check

variable {Blinding Scalar RangeProof CompressedRistretto ProofError Rng : Type}
  (bulletproofs : Bulletproofs Scalar RangeProof CompressedRistretto ProofError Rng)

end Check

section Shape

variable {Blinding Scalar RangeProof CompressedRistretto ProofError Rng : Type}
  (bulletproofs : Bulletproofs Scalar RangeProof CompressedRistretto ProofError Rng)

theorem generateRangeProofs_commitments (asRef : Blinding → Scalar)
    (commit : UInt64 × Scalar → CompressedRistretto)
    (commitsEach : bulletproofs.CommitsEach commit) (values : List UInt64)
    (serials : List Blinding) (sameLength : serials.length = values.length)
    (nonempty : 0 < values.length) (fits : values.length ≤ 2 ^ (usizeBits - 1)) (rng : Rng)
    (rangeProof : RangeProof) (commitments : List CompressedRistretto)
    (generated : generateRangeProofs bulletproofs asRef values serials rng =
      .ok (rangeProof, commitments)) :
    (∃ k, commitments.length = 2 ^ k) ∧
    (∀ k, values.length ≤ 2 ^ k → commitments.length ≤ 2 ^ k) ∧
    values.length ≤ commitments.length ∧
    commitments.take values.length = (values.zip (serials.map asRef)).map commit ∧
    ∀ i, values.length ≤ i → i < commitments.length →
      commitments[i]? = commitments[values.length - 1]? := by
  obtain ⟨p, fitsV⟩ := checkedNextPowerOfTwo_of_le fits
  have le := le_of_checkedNextPowerOfTwo fitsV
  obtain ⟨lastValue, lastV⟩ : ∃ a, values.getLast? = some a :=
    ⟨_, List.getLast?_eq_getLast values (List.ne_nil_of_length_pos nonempty)⟩
  obtain ⟨lastSerial, lastS⟩ : ∃ s, serials.getLast? = some s :=
    ⟨_, List.getLast?_eq_getLast serials (List.ne_nil_of_length_pos (sameLength ▸ nonempty))⟩
  have sameB : (serials.map asRef).length = values.length := by simp [sameLength]
  have committedLength : ((values.zip (serials.map asRef)).map commit).length = values.length := by
    simp [sameB]
  have lastC : ((values.zip (serials.map asRef)).map commit).getLast? =
      some (commit (lastValue, asRef lastSerial)) := by
    have lastB : (serials.map asRef).getLast? = some (asRef lastSerial) := by simp [lastS]
    simp [getLast?_zip sameB lastV lastB]
  rw [generated_commitments_eq bulletproofs asRef commitsEach sameLength fitsV lastV lastS generated]
  generalize (values.zip (serials.map asRef)).map commit = committed at committedLength lastC ⊢
  have total : (committed ++ List.replicate (p - values.length)
      (commit (lastValue, asRef lastSerial))).length = p := by
    simp [committedLength]; omega
  obtain ⟨k, -, rfl, -, -⟩ := checkedNextPowerOfTwo_eq_some.mp fitsV
  refine ⟨⟨k, total⟩, fun j below => total.symm ▸ checkedNextPowerOfTwo_least fitsV j below,
    total.symm ▸ le, List.take_left' committedLength, fun i outside inside => ?_⟩
  rw [getElem?_padded lastC (committedLength ▸ outside) (by simpa [committedLength] using inside),
    List.getElem?_append_left (by omega), committedLength]

end Shape

theorem generateRangeProofs_commitments_three :
    let bulletproofs : Bulletproofs Nat Unit Nat Unit Unit :=
      ⟨fun _ values blindings _ _ =>
          .ok ((), (values.zip blindings).map fun pair => pair.1.toNat + pair.2),
        fun _ _ _ _ _ => .ok ()⟩
    let commitments : List Nat := [5, 7, 9, 9]
    generateRangeProofs bulletproofs id [1, 2, 3] [4, 5, 6] () = .ok ((), commitments) ∧
    (∃ k, commitments.length = 2 ^ k) ∧ (∀ k, 3 ≤ 2 ^ k → commitments.length ≤ 2 ^ k) ∧
    3 ≤ commitments.length ∧
    commitments.take 3 = ((([1, 2, 3] : List UInt64).zip (([4, 5, 6] : List Nat).map id)).map
      fun pair => pair.1.toNat + pair.2) ∧
    ∀ i, 3 ≤ i → i < commitments.length → commitments[i]? = commitments[3 - 1]? := by
  intro bulletproofs commitments
  have generated : generateRangeProofs bulletproofs id [1, 2, 3] [4, 5, 6] () =
      .ok ((), commitments) := rfl
  exact ⟨generated, generateRangeProofs_commitments bulletproofs id (fun pair => pair.1.toNat + pair.2)
    (fun _ _ _ _ _ _ _ proved => by cases proved; rfl) [1, 2, 3] [4, 5, 6] rfl (by decide)
    (by decide) () () commitments generated⟩

end MobileCoin.RangeProofs
