import TgWsProxy.Obfuscation

/-!
# Handshake and relay header of the Python proxy

`_try_handshake`, `_generate_relay_init` and `_build_crypto_ctx` of
`proxy/tg_ws_proxy.py`.  The operating system's random bytes are arguments: the
rejection loop consumes a list of draws.
-/

namespace TgWsProxy.Python

/-- `_try_handshake`. -/
def tryHandshake (crypto : Primitives) (handshake secret : Bytes) :
    Except PyError (Option ClientRequest) := do
  let decPrekeyAndIv := slice handshake skipLen (skipLen + prekeyLen + ivLen)
  let decPrekey := decPrekeyAndIv.take prekeyLen
  let decIv := decPrekeyAndIv.drop prekeyLen
  let decKey := crypto.sha256 (decPrekey ++ secret)
  let decIvInt := beNat decIv
  let decryptor ← encryptor decKey (natToBe 16 decIvInt)
  let decrypted := (decryptor.update crypto handshake).1
  let protoTag := slice decrypted protoTagPos (protoTagPos + 4)
  if !(List.contains
      [protoTagAbridged, protoTagIntermediate, protoTagSecure] protoTag) then
    return none
  let dcIdx := leInt (slice decrypted dcIdxPos (dcIdxPos + 2))
  return some
    { dc := dcIdx.natAbs
      isMedia := decide (dcIdx < 0)
      protoTag := protoTag
      decPrekeyIv := decPrekeyAndIv }

/-- `struct.pack('<h', value)`. -/
def packShort (value : Int) : Except PyError Bytes :=
  if -32768 ≤ value ∧ value ≤ 32767 then .ok (i16ToLe value)
  else .error .structError

/-- `_generate_relay_init`. -/
def generateRelayInit (crypto : Primitives) (protoTag : Bytes) (dcIdx : Int)
    (draws : List Bytes) (tailRandom : Bytes) :
    Except PyError (Option Bytes) := do
  match drawUnreserved draws with
  | none => return none
  | some rndBytes =>
      let encKey := slice rndBytes skipLen (skipLen + prekeyLen)
      let encIv :=
        slice rndBytes (skipLen + prekeyLen) (skipLen + prekeyLen + ivLen)
      let cipher ← encryptor encKey encIv
      let dcBytes ← packShort dcIdx
      let tailPlain := protoTag ++ dcBytes ++ tailRandom
      let encryptedFull := (cipher.update crypto rndBytes).1
      let keystreamTail := List.zipWith (· ^^^ ·)
        (slice encryptedFull 56 64) (slice rndBytes 56 64)
      let encryptedTail := List.zipWith (· ^^^ ·) tailPlain keystreamTail
      return some (rndBytes.take protoTagPos ++ encryptedTail ++
        rndBytes.drop handshakeLen)

/-- `dc_idx = -dc if is_media else dc` in `_handle_client`. -/
def handleClientDcIdx (dc : Nat) (isMedia : Bool) : Int :=
  if isMedia then -dc else dc

/-- `_build_crypto_ctx`. -/
def buildCryptoCtx (crypto : Primitives)
    (clientDecPrekeyIv secret relayInit : Bytes) :
    Except PyError CryptoCtx := do
  let cltDecPrekey := clientDecPrekeyIv.take prekeyLen
  let cltDecIv := clientDecPrekeyIv.drop prekeyLen
  let cltDecKey := crypto.sha256 (cltDecPrekey ++ secret)
  let cltEncPrekeyIv := clientDecPrekeyIv.reverse
  let cltEncKey := crypto.sha256 (cltEncPrekeyIv.take prekeyLen ++ secret)
  let cltEncIv := cltEncPrekeyIv.drop prekeyLen
  let cltDecryptor ← encryptor cltDecKey cltDecIv
  let cltEncryptor ← encryptor cltEncKey cltEncIv
  -- fast-forward client decryptor past the 64-byte init
  let cltDecryptor := (cltDecryptor.update crypto zero64).2
  let relayEncKey := slice relayInit skipLen (skipLen + prekeyLen)
  let relayEncIv :=
    slice relayInit (skipLen + prekeyLen) (skipLen + prekeyLen + ivLen)
  let relayDecPrekeyIv :=
    (slice relayInit skipLen (skipLen + prekeyLen + ivLen)).reverse
  let relayDecKey := relayDecPrekeyIv.take keyLen
  let relayDecIv := relayDecPrekeyIv.drop keyLen
  let tgEncryptor ← encryptor relayEncKey relayEncIv
  let tgDecryptor ← encryptor relayDecKey relayDecIv
  let tgEncryptor := (tgEncryptor.update crypto zero64).2
  return ⟨cltDecryptor, cltEncryptor, tgEncryptor, tgDecryptor⟩

section Specifications

variable (crypto : Primitives)

/-- `_try_handshake` reads the request of a complete handshake. -/
theorem tryHandshake_eq {handshake : Bytes} (secret : Bytes)
    (size : handshake.length = 64) :
    tryHandshake crypto handshake secret =
      .ok (requestOf crypto secret handshake) := by
  have ivSize := @length_headerIv handshake (by omega)
  have ivKept : natToBe 16 (beNat (headerIv handshake)) =
      headerIv handshake := natToBe_beNat ivSize
  have keySize := crypto.length_sha256 (headerKey handshake ++ secret)
  simp only [tryHandshake, skipLen, prekeyLen, ivLen, protoTagPos, dcIdxPos,
    Nat.reduceAdd, take_prekey, drop_prekey, ivKept,
    encryptor_of_length keySize ivSize, AesCtr.update,
    bind, Except.bind, pure, Except.pure]
  change (if (!knownTags.contains
    (viewTag (clientView crypto secret handshake))) = true then _ else _) = _
  by_cases known : viewTag (clientView crypto secret handshake) ∈ knownTags
  · rw [if_neg (by simpa using known), requestOf, if_pos known]
    rfl
  · rw [if_pos (by simpa using known), requestOf, if_neg known]

/-- `_build_crypto_ctx` sets up the ciphers which both ends agreed on. -/
theorem buildCryptoCtx_eq {handshake relayInit : Bytes} (secret : Bytes)
    (handshakeSize : 56 ≤ handshake.length)
    (relaySize : 56 ≤ relayInit.length) :
    buildCryptoCtx crypto (slice handshake 8 56) secret relayInit =
      .ok (sessionCiphers crypto secret handshake relayInit) := by
  have digest := fun data => crypto.length_sha256 data
  simp only [buildCryptoCtx, skipLen, prekeyLen, ivLen, keyLen, Nat.reduceAdd,
    take_prekey, drop_prekey, take_reversed, drop_reversed, slice_key, slice_iv,
    encryptor_of_length (digest _) (length_headerIv handshakeSize),
    encryptor_of_length (digest _) (length_reversedIv handshakeSize),
    encryptor_of_length (length_headerKey relaySize)
      (length_headerIv relaySize),
    encryptor_of_length (length_reversedKey relaySize)
      (length_reversedIv relaySize),
    bind, Except.bind, pure, Except.pure, AesCtr.update]
  rfl

theorem packShort_of_range {value : Int} (low : -32768 ≤ value)
    (high : value ≤ 32767) : packShort value = .ok (i16ToLe value) := by
  simp [packShort, low, high]

/-- `_generate_relay_init` keeps the first 56 bytes of the draw and encrypts
the tail under the key they contain. -/
theorem generateRelayInit_eq {protoTag tailRandom rnd : Bytes} {dcIdx : Int}
    {draws : List Bytes} (drawn : drawUnreserved draws = some rnd)
    (rndSize : rnd.length = 64) (tagSize : protoTag.length = 4)
    (tailSize : tailRandom.length = 2)
    (low : -32768 ≤ dcIdx) (high : dcIdx ≤ 32767) :
    generateRelayInit crypto protoTag dcIdx draws tailRandom =
      .ok (some (rnd.take 56 ++
        crypto.ctrXor (headerKey rnd) (headerIv rnd) 56
          (protoTag ++ i16ToLe dcIdx ++ tailRandom))) := by
  have segment : slice (crypto.ctrXor (headerKey rnd) (headerIv rnd) 0 rnd)
      56 64 = crypto.ctrXor (headerKey rnd) (headerIv rnd) 56
        (slice rnd 56 64) := by
    rw [crypto.slice_ctrXor]
  have size : (protoTag ++ i16ToLe dcIdx ++ tailRandom).length =
      (slice rnd 56 64).length := by
    simp [tagSize, tailSize, rndSize]
  have nothingLeft : rnd.drop 64 = [] :=
    List.drop_eq_nil_of_le (Nat.le_of_eq rndSize)
  simp only [generateRelayInit, drawn, skipLen, prekeyLen, ivLen, protoTagPos,
    handshakeLen, Nat.reduceAdd, slice_key, slice_iv,
    encryptor_of_length (length_headerKey (by omega : 56 ≤ rnd.length))
      (length_headerIv (by omega : 56 ≤ rnd.length)),
    packShort_of_range low high, AesCtr.update, bind, Except.bind, pure,
    Except.pure, segment, zipWith_recovered_keystream crypto _ _ _ size,
    nothingLeft, List.append_nil]

end Specifications

/-- The relay header which `_handle_client` sends carries the tag and the
signed DC index of the handshake it accepted. -/
theorem relayInit_carries_request (crypto : Primitives)
    {handshake secret tailRandom : Bytes} {request : ClientRequest}
    {draws : List Bytes} (size : handshake.length = 64)
    (accepted : tryHandshake crypto handshake secret = .ok (some request))
    (drawSizes : ∀ rnd ∈ draws, rnd.length = 64)
    (someAccepted : ∃ rnd ∈ draws, reservedDraw rnd = false)
    (tailSize : tailRandom.length = 2) :
    ∃ rnd relayInit, drawUnreserved draws = some rnd ∧
      generateRelayInit crypto request.protoTag
          (handleClientDcIdx request.dc request.isMedia) draws tailRandom =
        .ok (some relayInit) ∧
      slice (peerView crypto relayInit) 56 60 = request.protoTag ∧
      slice (peerView crypto relayInit) 60 62 =
        i16ToLe (viewDcIdx (clientView crypto secret handshake)) ∧
      relayInit.take 56 = rnd.take 56 ∧
      reservedDraw relayInit = false := by
  rw [tryHandshake_eq crypto secret size, Except.ok.injEq] at accepted
  obtain ⟨known, rfl⟩ := requestOf_eq_some accepted
  obtain ⟨low, high⟩ := viewDcIdx_range crypto secret size
  obtain ⟨rnd, drawn⟩ := drawUnreserved_of_mem someAccepted
  obtain ⟨member, unreserved⟩ := drawUnreserved_spec drawn
  have rndSize := drawSizes rnd member
  have frontSize : (rnd.take 56).length = 56 := by
    simp [rndSize]
  generalize clientView crypto secret handshake = view at known low high ⊢
  have index : handleClientDcIdx (viewDcIdx view).natAbs
      (decide (viewDcIdx view < 0)) = viewDcIdx view :=
    signed_of_abs (viewDcIdx view)
  have tagSize := length_of_knownTag known
  let tail := viewTag view ++ i16ToLe (viewDcIdx view) ++ tailRandom
  let relayInit := rnd.take 56 ++
    crypto.ctrXor (headerKey rnd) (headerIv rnd) 56 tail
  have sameKey : headerKey relayInit = headerKey rnd := by
    rw [headerKey_append _ (Nat.le_of_eq frontSize.symm), headerKey_take]
  have sameIv : headerIv relayInit = headerIv rnd := by
    rw [headerIv_append _ (Nat.le_of_eq frontSize.symm), headerIv_take]
  -- The peer's view of the tail is the plain tail.
  have tailView : ∀ first last, last ≤ 8 →
      slice (peerView crypto relayInit) (56 + first) (56 + last) =
        slice tail first last := by
    intro first last _
    have cut := slice_append_right (rnd.take 56)
      (crypto.ctrXor (headerKey rnd) (headerIv rnd) 56 tail) first last
    rw [frontSize, crypto.slice_ctrXor] at cut
    rw [slice_peerView, sameKey, sameIv, cut, crypto.ctrXor_ctrXor]
  refine ⟨rnd, relayInit, drawn, ?_, ?_, ?_, ?_, ?_⟩
  · rw [index]
    exact generateRelayInit_eq crypto drawn rndSize tagSize tailSize low high
  · have view := tailView 0 4 (by omega)
    simpa [tail, slice, tagSize, List.append_assoc] using view
  · have view := tailView 4 6 (by omega)
    simpa [tail, slice, tagSize, List.take_append, List.append_assoc] using view
  · exact List.take_left' frontSize
  · rw [← unreserved]
    apply reservedDraw_congr
    rw [List.take_append_of_le_length (by omega), List.take_take]
    rfl

theorem relayInit_carries_request_recorded :
    ∃ rnd relayInit, drawUnreserved [recordedDraw] = some rnd ∧
      generateRelayInit recordedCrypto protoTagIntermediate
          (handleClientDcIdx 2 true) [recordedDraw] [7, 9] =
        .ok (some relayInit) ∧
      slice (peerView recordedCrypto relayInit) 56 60 =
        protoTagIntermediate ∧
      slice (peerView recordedCrypto relayInit) 60 62 =
        i16ToLe (viewDcIdx
          (clientView recordedCrypto recordedSecret recordedHandshake)) ∧
      relayInit.take 56 = rnd.take 56 ∧
      reservedDraw relayInit = false :=
  @relayInit_carries_request recordedCrypto recordedHandshake recordedSecret
    [7, 9] ⟨2, true, protoTagIntermediate, slice recordedHandshake 8 56⟩
    [recordedDraw] (by decide +kernel) (by decide +kernel) (by decide +kernel)
    (by decide +kernel) (by decide +kernel)

end TgWsProxy.Python
