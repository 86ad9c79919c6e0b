import TgWsProxy.ClientHello

/-!
# The Rust check of a ClientHello

`verify_client_hello` and `constant_time_eq` of `fake_tls.rs`.
-/

namespace TgWsProxy.Rust

def constantTimeEq (a b : Bytes) : Bool :=
  if a.length ≠ b.length then false
  else (a.zip b).foldl (fun result pair => result ||| (pair.1 ^^^ pair.2)) 0 == 0

/-- `data[start..stop].copy_from_slice(source)`. -/
def copyFromSlice (data : Bytes) (start stop : Nat) (source : Bytes) :
    Except Panic Bytes :=
  if start ≤ stop ∧ stop ≤ data.length ∧ source.length = stop - start then
    .ok (data.take start ++ source ++ data.drop stop)
  else .error .sliceIndex

/-- `client_random[index] ^ expected[index]`. -/
def tsXorByte (clientRandom expected : Bytes) (index : Nat) :
    Except Panic UInt8 := do
  return (← getByte clientRandom index) ^^^ (← getByte expected index)

/-- The session id, which stays zero unless the hello has one of 32 bytes. -/
def readSessionId (data : Bytes) : Except Panic Bytes := do
  if sessionIdOffset + sessionIdLen ≤ data.length then
    if (← getByte data 43) = 0x20 then
      subslice data sessionIdOffset (sessionIdOffset + sessionIdLen)
    else return List.replicate sessionIdLen 0
  else return List.replicate sessionIdLen 0

/-- `verify_client_hello`, when the system clock shows `now`. -/
def verifyClientHello (crypto : Primitives) (now : Nat) (data secret : Bytes) :
    Except Panic (Option HelloVerdict) := do
  if data.length < 43 then return none
  if (← getByte data 0) ≠ tlsRecordHandshake then return none
  if (← getByte data 5) ≠ 0x01 then return none
  let clientRandom ←
    subslice data clientRandomOffset (clientRandomOffset + clientRandomLen)
  let zeroed ← copyFromSlice data clientRandomOffset
    (clientRandomOffset + clientRandomLen) (List.replicate clientRandomLen 0)
  let expected := crypto.hmacSha256 secret zeroed
  if !constantTimeEq (← subslice expected 0 28) (← subslice clientRandom 0 28)
  then return none
  let tsXor ← [28, 29, 30, 31].mapM (tsXorByte clientRandom expected)
  let timestamp := leInt (tsXor ++ [0, 0, 0, 0])
  if timestampTolerance < ((now : Int) - timestamp).natAbs then return none
  let sessionId ← readSessionId data
  return some ⟨clientRandom, sessionId, timestamp⟩

section Specification

variable (crypto : Primitives) (now : Nat) (secret : Bytes)

theorem foldl_or_eq_zero {a b : Bytes} (size : a.length = b.length)
    (start : UInt8) :
    (a.zip b).foldl (fun result pair => result ||| (pair.1 ^^^ pair.2)) start = 0 ↔
      start = 0 ∧ a = b := by
  induction a generalizing b start with
  | nil =>
      cases b with
      | nil => simp
      | cons second b => simp at size
  | cons first a induction =>
      cases b with
      | nil => simp at size
      | cons second b =>
          have tails : a.length = b.length := by simpa using size
          rw [List.zip_cons_cons, List.foldl_cons, induction tails,
            UInt8.or_eq_zero_iff, UInt8.xor_eq_zero_iff, List.cons.injEq,
            and_assoc]

theorem constantTimeEq_eq (a b : Bytes) :
    constantTimeEq a b = decide (a = b) := by
  unfold constantTimeEq
  by_cases size : a.length = b.length
  · rw [if_neg (not_not_intro size), Bool.eq_iff_iff, beq_iff_eq,
      foldl_or_eq_zero size, decide_eq_true_iff]
    exact and_iff_right rfl
  · rw [if_pos size]
    have different : a ≠ b := fun same => size (congrArg List.length same)
    rw [decide_eq_false different]

theorem copyFromSlice_random {data : Bytes} (long : 43 ≤ data.length) :
    copyFromSlice data 11 43 (List.replicate 32 0) = .ok (zeroRandom data) := by
  apply if_pos
  refine ⟨by omega, long, ?_⟩
  rw [List.length_replicate]

theorem tsXor_eq {clientRandom expected : Bytes}
    (randomSize : clientRandom.length = 32) (expectedSize : expected.length = 32) :
    [28, 29, 30, 31].mapM (tsXorByte clientRandom expected) =
      .ok (List.zipWith (· ^^^ ·) (slice clientRandom 28 32)
        (slice expected 28 32)) := by
  obtain ⟨r0, r1, r2, r3, random, random0, random1, random2, random3⟩ :=
    exists_last_four randomSize
  obtain ⟨e0, e1, e2, e3, last, last0, last1, last2, last3⟩ :=
    exists_last_four expectedSize
  simp only [List.mapM_cons, List.mapM_nil, tsXorByte,
    getByte_of_getElem? random0, getByte_of_getElem? random1,
    getByte_of_getElem? random2, getByte_of_getElem? random3,
    getByte_of_getElem? last0, getByte_of_getElem? last1,
    getByte_of_getElem? last2, getByte_of_getElem? last3, bind, Except.bind,
    pure, Except.pure, random, last]
  rfl

/-- Four more zero bytes leave the value alone, and make it positive. -/
theorem leInt_zeros {data : Bytes} (size : data.length = 4) :
    leInt (data ++ [0, 0, 0, 0]) = leNat data := by
  have bound := leNat_lt data
  obtain ⟨b0, b1, b2, b3, rfl⟩ := List.length_eq_four.mp size
  have same : leNat ([b0, b1, b2, b3] ++ [0, 0, 0, 0]) =
      leNat [b0, b1, b2, b3] := rfl
  rw [leInt, same, if_pos]
  simp only [List.length_append, List.length_cons, List.length_nil] at bound ⊢
  omega

theorem readSessionId_eq (data : Bytes) :
    readSessionId data = .ok (helloSessionId data) := by
  unfold readSessionId helloSessionId
  by_cases long : 76 ≤ data.length
  · obtain ⟨byte, present⟩ : ∃ byte, data[43]? = some byte :=
      ⟨_, List.getElem?_eq_getElem (by omega)⟩
    simp only [sessionIdOffset, sessionIdLen, Nat.reduceAdd, long, if_true,
      getByte_of_getElem? present, present, true_and, Option.some.injEq,
      subslice_of_le (by omega : 44 ≤ 76) long, bind, Except.bind, pure,
      Except.pure]
    split
    · rfl
    · rfl
  · simp only [sessionIdOffset, sessionIdLen, Nat.reduceAdd, long, if_false,
      false_and, pure, Except.pure]

theorem verifyClientHello_eq (data : Bytes) :
    verifyClientHello crypto now data secret =
      .ok (helloVerdict crypto now secret data) := by
  by_cases short : data.length < 43
  · have unsigned : ¬ Signed crypto secret data := fun signed =>
      Nat.not_le_of_gt short signed.1
    rw [helloVerdict, if_neg (fun both => unsigned both.1)]
    exact if_pos short
  · have long : 43 ≤ data.length := Nat.le_of_not_lt short
    obtain ⟨first, present0⟩ : ∃ byte, data[0]? = some byte :=
      ⟨_, List.getElem?_eq_getElem (by omega)⟩
    obtain ⟨kind, present5⟩ : ∃ byte, data[5]? = some byte :=
      ⟨_, List.getElem?_eq_getElem (by omega)⟩
    have randomSize : (slice data 11 43).length = 32 := by
      rw [length_slice]
      omega
    have expectedSize := crypto.length_hmacSha256 secret (zeroRandom data)
    have tsXor := tsXor_eq randomSize expectedSize
    have four : (List.zipWith (· ^^^ ·) (slice data 39 43)
        (slice (crypto.hmacSha256 secret (zeroRandom data)) 28 32)).length =
          4 := by
      rw [List.length_zipWith, length_slice, length_slice]
      omega
    have timestamp : leInt (List.zipWith (· ^^^ ·) (slice data 39 43)
        (slice (crypto.hmacSha256 secret (zeroRandom data)) 28 32) ++
          [0, 0, 0, 0]) = helloTimestamp crypto secret data := leInt_zeros four
    rw [slice_random] at tsXor
    have front : subslice (crypto.hmacSha256 secret (zeroRandom data)) 0 28 =
        .ok ((crypto.hmacSha256 secret (zeroRandom data)).take 28) :=
      subslice_of_le (by omega) (by omega)
    have randomFront : subslice (slice data 11 43) 0 28 =
        .ok (slice data 11 39) := by
      rw [subslice_of_le (by omega) (by omega), ← take_random]
      rfl
    rw [helloVerdict_eq crypto now secret long present0 present5,
      verifyClientHello, if_neg short]
    simp only [clientRandomOffset, clientRandomLen, Nat.reduceAdd,
      getByte_of_getElem? present0, getByte_of_getElem? present5,
      subslice_of_le (by omega : 11 ≤ 43) long, copyFromSlice_random long,
      front, randomFront, constantTimeEq_eq, tsXor, timestamp,
      readSessionId_eq, tlsRecordHandshake, bind, Except.bind, pure,
      Except.pure, apply_ite Except.ok]
    by_cases same : (crypto.hmacSha256 secret (zeroRandom data)).take 28 =
        slice data 11 39
    · simp only [same, decide_true, Bool.not_true, Bool.false_eq_true, if_false,
        ne_eq, not_true_eq_false]
    · simp only [same, decide_false, Bool.not_false, if_true, ne_eq,
        not_false_eq_true]

end Specification

end TgWsProxy.Rust
