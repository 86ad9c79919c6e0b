import TgWsProxy.Obfuscation

/-!
# Handshake and relay header of the Rust proxy

`try_handshake`, `generate_relay_init` and `build_crypto_ctx` of
`handshake.rs`, and the arithmetic by which `handle_client` rebuilds the signed
DC index.  Overflow is checked, as in a build with overflow checks.
-/

namespace TgWsProxy.Rust

/-- `try_handshake`. -/
def tryHandshake (crypto : Primitives) (handshake secret : Bytes) :
    Except Panic (Option ClientRequest) := do
  if handshake.length < handshakeLen then
    return none
  let decPrekeyAndIv ←
    subslice handshake skipLen (skipLen + prekeyLen + ivLen)
  let decPrekey := decPrekeyAndIv.take prekeyLen
  let decIv := decPrekeyAndIv.drop prekeyLen
  let decKey := crypto.sha256 (decPrekey ++ secret)
  let decryptor ← aesCtrNew decKey decIv
  let decrypted := (decryptor.update crypto handshake).1
  let protoTag ← subslice decrypted protoTagPos (protoTagPos + 4)
  if protoTag ≠ protoTagAbridged ∧ protoTag ≠ protoTagIntermediate ∧
      protoTag ≠ protoTagSecure then
    return none
  let dcIdxBytes ← subslice decrypted dcIdxPos (dcIdxPos + 2)
  let dcIdx := leInt dcIdxBytes
  return some
    { dc := dcIdx.natAbs
      isMedia := decide (dcIdx < 0)
      protoTag := protoTag
      decPrekeyIv := decPrekeyAndIv }

/-- `generate_relay_init`.  The cipher is applied to the whole of `result`,
whose last eight bytes are then replaced. -/
def generateRelayInit (crypto : Primitives) (protoTag : Bytes) (dcIdx : Int)
    (draws : List Bytes) : Except Panic (Option Bytes) := do
  match drawUnreserved draws with
  | none => return none
  | some rnd =>
      let encKey ← subslice rnd skipLen (skipLen + prekeyLen)
      let encIv ←
        subslice rnd (skipLen + prekeyLen) (skipLen + prekeyLen + ivLen)
      let cipher ← aesCtrNew encKey encIv
      let result := (cipher.update crypto rnd).1
      let keystreamTail := List.zipWith (· ^^^ ·)
        (← subslice result 56 64) (← subslice rnd 56 64)
      let tailPlain := protoTag ++ i16ToLe dcIdx ++ [0, 0]
      let encryptedTail := List.zipWith (· ^^^ ·) tailPlain keystreamTail
      return some (result.take 56 ++ encryptedTail ++ result.drop 64)

/-- `dc as i16`. -/
def asI16 (value : Nat) : Int := (value + 32768) % 65536 - 32768

/-- `-value` for an `i16`. -/
def negI16 (value : Int) : Except Panic Int :=
  if value = -32768 then .error .arithmeticOverflow else .ok (-value)

/-- `if is_media { -(dc as i16) } else { dc as i16 }` in `handle_client`. -/
def handleClientDcIdx (dc : Nat) (isMedia : Bool) : Except Panic Int :=
  if isMedia then negI16 (asI16 dc) else .ok (asI16 dc)

/-- The header which `handle_client` makes for an accepted request. -/
def relayHeader (crypto : Primitives) (request : ClientRequest)
    (draws : List Bytes) : Except Panic (Option Bytes) := do
  let dcIdx ← handleClientDcIdx request.dc request.isMedia
  generateRelayInit crypto request.protoTag dcIdx draws

/-- `build_crypto_ctx`. -/
def buildCryptoCtx (crypto : Primitives)
    (clientDecPrekeyIv secret relayInit : Bytes) : Except Panic CryptoCtx := do
  let cltDecPrekey := clientDecPrekeyIv.take prekeyLen
  let cltDecIv := clientDecPrekeyIv.drop prekeyLen
  let cltDecKey := crypto.sha256 (cltDecPrekey ++ secret)
  let cltEncPrekeyIv := clientDecPrekeyIv.reverse
  let cltEncKey := crypto.sha256 (cltEncPrekeyIv.take prekeyLen ++ secret)
  let cltEncIv := cltEncPrekeyIv.drop prekeyLen
  let cltDec ← aesCtrNew cltDecKey cltDecIv
  let cltEnc ← aesCtrNew cltEncKey cltEncIv
  let cltDec := (cltDec.update crypto zero64).2
  let relayEncKey ← subslice relayInit skipLen (skipLen + prekeyLen)
  let relayEncIv ←
    subslice relayInit (skipLen + prekeyLen) (skipLen + prekeyLen + ivLen)
  let relayPrekeyIv ←
    subslice relayInit skipLen (skipLen + prekeyLen + ivLen)
  let relayDecPrekeyIv := relayPrekeyIv.reverse
  let relayDecKey := relayDecPrekeyIv.take keyLen
  let relayDecIv := relayDecPrekeyIv.drop keyLen
  let tgEnc ← aesCtrNew relayEncKey relayEncIv
  let tgDec ← aesCtrNew relayDecKey relayDecIv
  let tgEnc := (tgEnc.update crypto zero64).2
  return ⟨cltDec, cltEnc, tgEnc, tgDec⟩

section Specifications

variable (crypto : Primitives)

theorem tryHandshake_eq {handshake : Bytes} (secret : Bytes)
    (size : handshake.length = 64) :
    tryHandshake crypto handshake secret =
      .ok (requestOf crypto secret handshake) := by
  have ivSize := @length_headerIv handshake (by omega)
  have keySize := crypto.length_sha256 (headerKey handshake ++ secret)
  have viewSize : (clientView crypto secret handshake).length = 64 := by
    simp [clientView, size]
  have long : ¬ handshake.length < 64 := by omega
  have view : crypto.ctrXor (crypto.sha256 (headerKey handshake ++ secret))
      (headerIv handshake) 0 handshake = clientView crypto secret handshake :=
    rfl
  simp only [tryHandshake, handshakeLen, skipLen, prekeyLen, ivLen,
    protoTagPos, dcIdxPos, Nat.reduceAdd, if_neg long,
    subslice_of_le (by omega : 8 ≤ 56) (by omega : 56 ≤ handshake.length),
    take_prekey, drop_prekey, aesCtrNew_of_length keySize ivSize,
    AesCtr.update, bind, Except.bind, pure, Except.pure, view,
    subslice_of_le (by omega : 56 ≤ 60)
      (by omega : 60 ≤ (clientView crypto secret handshake).length),
    subslice_of_le (by omega : 60 ≤ 62)
      (by omega : 62 ≤ (clientView crypto secret handshake).length)]
  have unknown : (slice (clientView crypto secret handshake) 56 60 ≠
          protoTagAbridged ∧
        slice (clientView crypto secret handshake) 56 60 ≠
          protoTagIntermediate ∧
        slice (clientView crypto secret handshake) 56 60 ≠ protoTagSecure) ↔
      viewTag (clientView crypto secret handshake) ∉ knownTags := by
    simp [viewTag, knownTags]
  by_cases known : viewTag (clientView crypto secret handshake) ∈ knownTags
  · rw [if_neg (fun distinct => unknown.mp distinct known), requestOf,
      if_pos known]
    rfl
  · rw [if_pos (unknown.mpr known), requestOf, if_neg known]

/-- `generate_relay_init` sends the draw encrypted under its own key, not the
draw itself. -/
theorem generateRelayInit_eq {protoTag rnd : Bytes} (dcIdx : Int)
    {draws : List Bytes} (drawn : drawUnreserved draws = some rnd)
    (rndSize : rnd.length = 64) (tagSize : protoTag.length = 4) :
    generateRelayInit crypto protoTag dcIdx draws =
      .ok (some (crypto.ctrXor (headerKey rnd) (headerIv rnd) 0 (rnd.take 56) ++
        crypto.ctrXor (headerKey rnd) (headerIv rnd) 56
          (protoTag ++ i16ToLe dcIdx ++ [0, 0]))) := by
  have segment : slice (crypto.ctrXor (headerKey rnd) (headerIv rnd) 0 rnd)
      56 64 = crypto.ctrXor (headerKey rnd) (headerIv rnd) 56
        (slice rnd 56 64) := by
    rw [crypto.slice_ctrXor]
  have size : (protoTag ++ i16ToLe dcIdx ++ [0, 0]).length =
      (slice rnd 56 64).length := by
    simp [tagSize, rndSize]
  have resultSize :
      (crypto.ctrXor (headerKey rnd) (headerIv rnd) 0 rnd).length = 64 := by
    simp [rndSize]
  have nothingLeft :
      (crypto.ctrXor (headerKey rnd) (headerIv rnd) 0 rnd).drop 64 = [] :=
    List.drop_eq_nil_of_le (Nat.le_of_eq resultSize)
  simp only [generateRelayInit, drawn, skipLen, prekeyLen, ivLen,
    Nat.reduceAdd,
    subslice_of_le (by omega : 8 ≤ 40) (by omega : 40 ≤ rnd.length),
    subslice_of_le (by omega : 40 ≤ 56) (by omega : 56 ≤ rnd.length),
    slice_key, slice_iv,
    aesCtrNew_of_length (length_headerKey (by omega : 56 ≤ rnd.length))
      (length_headerIv (by omega : 56 ≤ rnd.length)),
    AesCtr.update, bind, Except.bind, pure, Except.pure,
    subslice_of_le (by omega : 56 ≤ 64) (Nat.le_of_eq resultSize.symm),
    subslice_of_le (by omega : 56 ≤ 64) (Nat.le_of_eq rndSize.symm),
    segment, zipWith_recovered_keystream crypto _ _ _ size, nothingLeft,
    List.append_nil, crypto.ctrXor_take]

/-- The index is rebuilt unless its absolute value does not fit in `i16`. -/
theorem handleClientDcIdx_eq {index : Int} (low : -32768 ≤ index)
    (high : index ≤ 32767) :
    handleClientDcIdx index.natAbs (decide (index < 0)) =
      if index = -32768 then .error .arithmeticOverflow else .ok index := by
  by_cases negative : index < 0
  · by_cases smallest : index = -32768
    · subst smallest
      rfl
    · have narrowed : asI16 index.natAbs = -index := by
        simp only [asI16]
        omega
      have inRange : -index ≠ -32768 := by omega
      simp [handleClientDcIdx, negative, narrowed, negI16, inRange, smallest]
  · have narrowed : asI16 index.natAbs = index := by
      simp only [asI16]
      omega
    have inRange : index ≠ -32768 := by omega
    simp [handleClientDcIdx, negative, narrowed, inRange]

theorem buildCryptoCtx_eq {handshake relayInit : Bytes} (secret : Bytes)
    (handshakeSize : 56 ≤ handshake.length)
    (relaySize : 56 ≤ relayInit.length) :
    buildCryptoCtx crypto (slice handshake 8 56) secret relayInit =
      .ok (sessionCiphers crypto secret handshake relayInit) := by
  have digest := fun data => crypto.length_sha256 data
  simp only [buildCryptoCtx, skipLen, prekeyLen, ivLen, keyLen, Nat.reduceAdd,
    take_prekey, drop_prekey, take_reversed, drop_reversed, slice_key, slice_iv,
    aesCtrNew_of_length (digest _) (length_headerIv handshakeSize),
    aesCtrNew_of_length (digest _) (length_reversedIv handshakeSize),
    subslice_of_le (by omega : 8 ≤ 40) (by omega : 40 ≤ relayInit.length),
    subslice_of_le (by omega : 40 ≤ 56) relaySize,
    subslice_of_le (by omega : 8 ≤ 56) relaySize,
    aesCtrNew_of_length (length_headerKey relaySize)
      (length_headerIv relaySize),
    aesCtrNew_of_length (length_reversedKey relaySize)
      (length_reversedIv relaySize),
    bind, Except.bind, pure, Except.pure, AesCtr.update]
  rfl

end Specifications

/-- The peer reads the client's tag and signed index from the header, the
header is made without overflow, and it does not look like another protocol. -/
def CarriesRequest (crypto : Primitives) (request : ClientRequest)
    (index : Int) (draws : List Bytes) : Prop :=
  ∃ relayInit, relayHeader crypto request draws = .ok (some relayInit) ∧
    slice (peerView crypto relayInit) 56 60 = request.protoTag ∧
    slice (peerView crypto relayInit) 60 62 = i16ToLe index ∧
    reservedDraw relayInit = false

/-- The first 56 bytes of a draw, encrypted under the key they contain. -/
def encryptedFront (crypto : Primitives) (rnd : Bytes) : Bytes :=
  crypto.ctrXor (headerKey rnd) (headerIv rnd) 0 (rnd.take 56)

/-- Encrypting the front of the draw does no harm: the key which it then shows
gives the same keystream for the tag and the index, and its first bytes are
not reserved. -/
def HarmlessDraw (crypto : Primitives) (rnd : Bytes) : Prop :=
  (∀ index, 56 ≤ index → index < 62 →
    crypto.keystream (headerKey (encryptedFront crypto rnd))
        (headerIv (encryptedFront crypto rnd)) index =
      crypto.keystream (headerKey rnd) (headerIv rnd) index) ∧
  reservedDraw (encryptedFront crypto rnd) = false

/-- The header sent for a draw, with the given bytes at its end. -/
def sentHeader (crypto : Primitives) (rnd tail : Bytes) : Bytes :=
  encryptedFront crypto rnd ++
    crypto.ctrXor (headerKey rnd) (headerIv rnd) 56 tail

section SentHeader

variable (crypto : Primitives) {rnd : Bytes}

theorem length_encryptedFront (rndSize : rnd.length = 64) :
    (encryptedFront crypto rnd).length = 56 := by
  simp [encryptedFront, rndSize]

theorem relayHeader_eq {view : Bytes} (decPrekeyIv : Bytes)
    {draws : List Bytes} (known : viewTag view ∈ knownTags)
    (low : -32768 ≤ viewDcIdx view) (high : viewDcIdx view ≤ 32767)
    (drawn : drawUnreserved draws = some rnd) (rndSize : rnd.length = 64) :
    relayHeader crypto
        ⟨(viewDcIdx view).natAbs, decide (viewDcIdx view < 0), viewTag view,
          decPrekeyIv⟩ draws =
      if viewDcIdx view = -32768 then .error .arithmeticOverflow
      else .ok (some (sentHeader crypto rnd
        (viewTag view ++ i16ToLe (viewDcIdx view) ++ [0, 0]))) := by
  rw [relayHeader, handleClientDcIdx_eq low high]
  split
  · rfl
  · exact generateRelayInit_eq crypto _ drawn rndSize (length_of_knownTag known)

/-- What the peer makes of bytes of the tail. -/
theorem slice_peerView_sentHeader (rndSize : rnd.length = 64) (tail : Bytes)
    (first last : Nat) :
    slice (peerView crypto (sentHeader crypto rnd tail)) (56 + first)
          (56 + last) = slice tail first last ↔
      ∀ index, 56 + first ≤ index →
        index < 56 + first + (slice tail first last).length →
        crypto.keystream (headerKey (encryptedFront crypto rnd))
            (headerIv (encryptedFront crypto rnd)) index =
          crypto.keystream (headerKey rnd) (headerIv rnd) index := by
  have frontSize := length_encryptedFront crypto rndSize
  have sameKey : headerKey (sentHeader crypto rnd tail) =
      headerKey (encryptedFront crypto rnd) :=
    headerKey_append _ (Nat.le_of_eq frontSize.symm)
  have sameIv : headerIv (sentHeader crypto rnd tail) =
      headerIv (encryptedFront crypto rnd) :=
    headerIv_append _ (Nat.le_of_eq frontSize.symm)
  have cut := slice_append_right (encryptedFront crypto rnd)
    (crypto.ctrXor (headerKey rnd) (headerIv rnd) 56 tail) first last
  rw [frontSize, crypto.slice_ctrXor] at cut
  rw [slice_peerView, sameKey, sameIv, sentHeader, cut,
    crypto.ctrXor_ctrXor_eq_iff]

theorem reservedDraw_sentHeader (rndSize : rnd.length = 64) (tail : Bytes) :
    reservedDraw (sentHeader crypto rnd tail) =
      reservedDraw (encryptedFront crypto rnd) := by
  apply reservedDraw_congr
  apply List.take_append_of_le_length
  rw [length_encryptedFront crypto rndSize]
  decide

end SentHeader

/-- Where the header carries the request: the index is not the smallest one,
and the encryption of the front happens to do no harm. -/
theorem relayHeader_carriesRequest_iff (crypto : Primitives)
    {handshake secret rnd : Bytes} {request : ClientRequest}
    {draws : List Bytes} (size : handshake.length = 64)
    (accepted : tryHandshake crypto handshake secret = .ok (some request))
    (drawn : drawUnreserved draws = some rnd) (rndSize : rnd.length = 64) :
    CarriesRequest crypto request
        (viewDcIdx (clientView crypto secret handshake)) draws ↔
      viewDcIdx (clientView crypto secret handshake) ≠ -32768 ∧
        HarmlessDraw crypto rnd := by
  rw [tryHandshake_eq crypto secret size, Except.ok.injEq] at accepted
  obtain ⟨known, rfl⟩ := requestOf_eq_some accepted
  obtain ⟨low, high⟩ := viewDcIdx_range crypto secret size
  generalize clientView crypto secret handshake = view at known low high ⊢
  have tagSize := length_of_knownTag known
  have header := relayHeader_eq crypto (slice handshake 8 56) known low high drawn
    rndSize
  generalize tailEq : viewTag view ++ i16ToLe (viewDcIdx view) ++ [0, 0] = tail
    at header
  have tagTail : slice tail 0 4 = viewTag view := by
    simp [← tailEq, slice, tagSize, List.append_assoc]
  have indexTail : slice tail 4 6 = i16ToLe (viewDcIdx view) := by
    simp [← tailEq, slice, tagSize, List.take_append, List.append_assoc]
  have tagView := slice_peerView_sentHeader crypto rndSize tail 0 4
  have indexView := slice_peerView_sentHeader crypto rndSize tail 4 6
  have sameStart := reservedDraw_sentHeader crypto rndSize tail
  rw [tagTail, tagSize] at tagView
  rw [indexTail, length_i16ToLe] at indexView
  constructor
  · rintro ⟨sent, made, tag, index, unreserved⟩
    rw [header] at made
    have notSmallest : viewDcIdx view ≠ -32768 := by
      intro smallest
      simp [smallest] at made
    rw [if_neg notSmallest, Except.ok.injEq, Option.some.injEq] at made
    subst made
    refine ⟨notSmallest, ?_, sameStart ▸ unreserved⟩
    intro position above below
    by_cases inTag : position < 60
    · exact tagView.mp tag position (by omega) (by omega)
    · exact indexView.mp index position (by omega) (by omega)
  · rintro ⟨notSmallest, agree, unreserved⟩
    refine ⟨sentHeader crypto rnd tail, ?_, ?_, ?_, sameStart.trans unreserved⟩
    · rw [header, if_neg notSmallest]
    · apply tagView.mpr
      intro position above below
      exact agree position (by omega) (by omega)
    · apply indexView.mpr
      intro position above below
      exact agree position (by omega) (by omega)

theorem relayHeader_carriesRequest_iff_recorded :
    CarriesRequest recordedCrypto
        ⟨2, true, protoTagIntermediate, slice recordedHandshake 8 56⟩
        (viewDcIdx (clientView recordedCrypto recordedSecret recordedHandshake))
        [recordedDraw] ↔
      viewDcIdx (clientView recordedCrypto recordedSecret recordedHandshake) ≠
          -32768 ∧
        HarmlessDraw recordedCrypto recordedDraw :=
  relayHeader_carriesRequest_iff recordedCrypto (by decide +kernel)
    (by decide +kernel) (by decide +kernel) (by decide +kernel)

/-- The header of the recorded session, as `handle_client` sends it. -/
def recordedRelayHeader : Bytes :=
  natToBe 32
    0x14b95948acbfa61204aa6eafd2050a69706daa74a27a02fc08bc3a3313e32e11 ++
  natToBe 32
    0x657ff2475c5a6070bf1f40e224097c2fa66b585dced7f03e4e604132021b5bb9

/-- For the recorded session the peer reads another tag. -/
theorem relayHeader_garbled_recorded :
    tryHandshake recordedCrypto recordedHandshake recordedSecret =
        .ok (some
          ⟨2, true, protoTagIntermediate, slice recordedHandshake 8 56⟩) ∧
      ¬ CarriesRequest recordedCrypto
        ⟨2, true, protoTagIntermediate, slice recordedHandshake 8 56⟩
        (-2) [recordedDraw] := by
  refine ⟨by decide +kernel, ?_⟩
  rintro ⟨relayInit, made, tag, -⟩
  have computed : relayHeader recordedCrypto
      ⟨2, true, protoTagIntermediate, slice recordedHandshake 8 56⟩
      [recordedDraw] = .ok (some recordedRelayHeader) := by
    decide +kernel
  rw [computed, Except.ok.injEq, Option.some.injEq] at made
  subst made
  revert tag
  decide +kernel

end TgWsProxy.Rust
