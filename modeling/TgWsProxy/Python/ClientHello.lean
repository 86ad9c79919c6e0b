import TgWsProxy.ClientHello

/-!
# The Python check of a ClientHello

`verify_client_hello` of `proxy/fake_tls.py`.
-/

namespace TgWsProxy.Python

/-- `data[start:stop] = replacement` for a `bytearray`. -/
def assignSlice (data : Bytes) (start stop : Nat) (replacement : Bytes) : Bytes :=
  data.take start ++ replacement ++ data.drop (max start stop)

/-- `struct.unpack('<I', data)[0]`. -/
def unpackLe32 (data : Bytes) : Except PyError Nat :=
  if data.length = 4 then .ok (leNat data) else .error .structError

/-- `client_random[28 + i] ^ expected[28 + i]`. -/
def tsXorByte (clientRandom expected : Bytes) (i : Nat) : Except PyError UInt8 := do
  return (← getByte clientRandom (28 + i)) ^^^ (← getByte expected (28 + i))

/-- `session_id`, which stays zero unless the hello has one of 32 bytes. -/
def readSessionId (data : Bytes) : Except PyError Bytes := do
  if sessionIdOffset + sessionIdLen ≤ data.length then
    if (← getByte data 43) = 0x20 then
      return slice data sessionIdOffset (sessionIdOffset + sessionIdLen)
    else return List.replicate sessionIdLen 0
  else return List.replicate sessionIdLen 0

theorem assignSlice_random (data : Bytes) :
    assignSlice data 11 43 (List.replicate 32 0) = zeroRandom data := rfl

/-- `verify_client_hello`, when `time.time()` is `now`. -/
def verifyClientHello (crypto : Primitives) (now : Nat) (data secret : Bytes) :
    Except PyError (Option HelloVerdict) := do
  if data.length < clientRandomOffset + clientRandomLen then return none
  if (← getByte data 0) ≠ tlsRecordHandshake then return none
  if (← getByte data 5) ≠ 0x01 then return none
  let clientRandom :=
    slice data clientRandomOffset (clientRandomOffset + clientRandomLen)
  let zeroed := assignSlice data clientRandomOffset
    (clientRandomOffset + clientRandomLen) (List.replicate clientRandomLen 0)
  let expected := crypto.hmacSha256 secret zeroed
  if expected.take 28 ≠ clientRandom.take 28 then return none
  let tsXor ← [0, 1, 2, 3].mapM (tsXorByte clientRandom expected)
  let timestamp ← unpackLe32 tsXor
  if timestampTolerance < ((now : Int) - timestamp).natAbs then return none
  let sessionId ← readSessionId data
  return some ⟨clientRandom, sessionId, timestamp⟩

section Specification

variable (crypto : Primitives) (now : Nat) {data : Bytes} (secret : Bytes)

theorem tsXor_eq {clientRandom expected : Bytes}
    (randomSize : clientRandom.length = 32) (expectedSize : expected.length = 32) :
    [0, 1, 2, 3].mapM (tsXorByte clientRandom expected) =
      .ok (List.zipWith (· ^^^ ·) (slice clientRandom 28 32)
        (slice expected 28 32)) := by
  obtain ⟨r0, r1, r2, r3, random, random0, random1, random2, random3⟩ :=
    exists_last_four randomSize
  obtain ⟨e0, e1, e2, e3, last, last0, last1, last2, last3⟩ :=
    exists_last_four expectedSize
  simp only [List.mapM_cons, List.mapM_nil, tsXorByte, Nat.reduceAdd,
    getByte_of_getElem? random0, getByte_of_getElem? random1,
    getByte_of_getElem? random2, getByte_of_getElem? random3,
    getByte_of_getElem? last0, getByte_of_getElem? last1,
    getByte_of_getElem? last2, getByte_of_getElem? last3, bind, Except.bind,
    pure, Except.pure, random, last]
  rfl

theorem readSessionId_eq (data : Bytes) :
    readSessionId data = .ok (helloSessionId data) := by
  unfold readSessionId helloSessionId
  by_cases long : 76 ≤ data.length
  · obtain ⟨byte, present⟩ : ∃ byte, data[43]? = some byte :=
      ⟨_, List.getElem?_eq_getElem (by omega)⟩
    simp only [sessionIdOffset, sessionIdLen, Nat.reduceAdd, long, if_true,
      getByte_of_getElem? present, present, true_and, Option.some.injEq, bind,
      Except.bind, pure, Except.pure]
    split
    · rfl
    · rfl
  · simp only [sessionIdOffset, sessionIdLen, Nat.reduceAdd, long, if_false,
      false_and, pure, Except.pure]

theorem verifyClientHello_eq (data : Bytes) :
    verifyClientHello crypto now data secret =
      .ok (helloVerdict crypto now secret data) := by
  by_cases short : data.length < 43
  · have unsigned : ¬ Signed crypto secret data := fun signed =>
      Nat.not_le_of_gt short signed.1
    rw [helloVerdict, if_neg (fun both => unsigned both.1)]
    exact if_pos short
  · obtain ⟨first, present0⟩ : ∃ byte, data[0]? = some byte :=
      ⟨_, List.getElem?_eq_getElem (by omega)⟩
    obtain ⟨kind, present5⟩ : ∃ byte, data[5]? = some byte :=
      ⟨_, List.getElem?_eq_getElem (by omega)⟩
    have randomSize : (slice data 11 43).length = 32 := by
      rw [length_slice]
      omega
    have expectedSize := crypto.length_hmacSha256 secret (zeroRandom data)
    have tsXor := tsXor_eq randomSize expectedSize
    have four : unpackLe32 (List.zipWith (· ^^^ ·) (slice data 39 43)
        (slice (crypto.hmacSha256 secret (zeroRandom data)) 28 32)) =
          .ok (helloTimestamp crypto secret data) := by
      apply if_pos
      rw [List.length_zipWith, length_slice, length_slice]
      omega
    rw [slice_random] at tsXor
    have long : ¬ data.length < clientRandomOffset + clientRandomLen := short
    rw [helloVerdict_eq crypto now secret (by omega) present0 present5,
      verifyClientHello, if_neg long]
    simp only [clientRandomOffset, clientRandomLen, Nat.reduceAdd,
      getByte_of_getElem? present0, getByte_of_getElem? present5,
      assignSlice_random, take_random, tsXor, four, readSessionId_eq,
      tlsRecordHandshake, bind, Except.bind, pure, Except.pure,
      apply_ite Except.ok]

end Specification

end TgWsProxy.Python
