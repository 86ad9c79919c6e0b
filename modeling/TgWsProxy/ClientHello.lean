import TgWsProxy.Crypto

/-!
# Signed ClientHello messages

In Fake-TLS mode the random of a ClientHello carries a signature: HMAC-SHA256
over the hello with a zero random, whose last four bytes are XORed with the time
of day.
-/

namespace TgWsProxy

def tlsRecordHandshake : UInt8 := 0x16
def clientRandomOffset : Nat := 11
def clientRandomLen : Nat := 32
def sessionIdOffset : Nat := 44
def sessionIdLen : Nat := 32
/-- `TIMESTAMP_TOLERANCE`, in seconds. -/
def timestampTolerance : Nat := 120

/-- What `verify_client_hello` returns for a hello which it accepts. -/
structure HelloVerdict where
  clientRandom : Bytes
  sessionId : Bytes
  timestamp : Int
deriving DecidableEq, Repr

/-- The hello over which the signature was made. -/
def zeroRandom (data : Bytes) : Bytes :=
  data.take 11 ++ List.replicate 32 0 ++ data.drop 43

/-- What a hello has at the place of its session id. -/
def helloSessionId (data : Bytes) : Bytes :=
  if 76 ≤ data.length ∧ data[43]? = some 0x20 then slice data 44 76
  else List.replicate 32 0

/-- The time of day which the random carries. -/
def helloTimestamp (crypto : Primitives) (secret data : Bytes) : Nat :=
  leNat (List.zipWith (· ^^^ ·) (slice data 39 43)
    (slice (crypto.hmacSha256 secret (zeroRandom data)) 28 32))

/-- A hello which is long enough and carries a signature. -/
def Signed (crypto : Primitives) (secret data : Bytes) : Prop :=
  43 ≤ data.length ∧ data[0]? = some 0x16 ∧ data[5]? = some 0x01 ∧
    (crypto.hmacSha256 secret (zeroRandom data)).take 28 = slice data 11 39

instance (crypto : Primitives) (secret data : Bytes) :
    Decidable (Signed crypto secret data) :=
  inferInstanceAs (Decidable (_ ∧ _ ∧ _ ∧ _))

/-- The verdict on a hello at the time `now`. -/
def helloVerdict (crypto : Primitives) (now : Nat) (secret data : Bytes) :
    Option HelloVerdict :=
  let timestamp : Int := helloTimestamp crypto secret data
  if Signed crypto secret data ∧
      ((now : Int) - timestamp).natAbs ≤ timestampTolerance
  then some ⟨slice data 11 43, helloSessionId data, timestamp⟩
  else none

/-- The checks one after the other. -/
theorem helloVerdict_eq (crypto : Primitives) (now : Nat) (secret : Bytes)
    {data : Bytes} {first kind : UInt8} (long : 43 ≤ data.length)
    (present : data[0]? = some first) (handshake : data[5]? = some kind) :
    helloVerdict crypto now secret data =
      if first ≠ 0x16 then none
      else if kind ≠ 0x01 then none
      else if (crypto.hmacSha256 secret (zeroRandom data)).take 28 ≠
          slice data 11 39 then none
      else if timestampTolerance <
          ((now : Int) - helloTimestamp crypto secret data).natAbs then none
      else some ⟨slice data 11 43, helloSessionId data,
        helloTimestamp crypto secret data⟩ := by
  simp only [helloVerdict, Signed, long, present, handshake, true_and,
    Option.some.injEq]
  by_cases record : first = 0x16
  · by_cases hello : kind = 0x01
    · by_cases same : (crypto.hmacSha256 secret (zeroRandom data)).take 28 =
          slice data 11 39
      · by_cases late : timestampTolerance <
            ((now : Int) - helloTimestamp crypto secret data).natAbs
        · simp [record, hello, same, late, Nat.not_le_of_gt late]
        · simp [record, hello, same, late, Nat.le_of_not_lt late]
      · simp [record, hello, same]
    · simp [record, hello]
  · simp [record]

section Random

theorem take_random (data : Bytes) :
    (slice data 11 43).take 28 = slice data 11 39 := by
  have cut := slice_slice data 11 43 0 28 (by omega)
  simpa [slice] using cut

theorem slice_random (data : Bytes) :
    slice (slice data 11 43) 28 32 = slice data 39 43 :=
  slice_slice data 11 43 28 32 (by omega)

/-- The last four of 32 bytes. -/
theorem exists_last_four {data : Bytes} (size : data.length = 32) :
    ∃ b0 b1 b2 b3, slice data 28 32 = [b0, b1, b2, b3] ∧
      data[28]? = some b0 ∧ data[29]? = some b1 ∧ data[30]? = some b2 ∧
      data[31]? = some b3 := by
  have all : slice data 28 32 = data.drop 28 := by
    rw [slice, List.take_of_length_le (Nat.le_of_eq size)]
  have four : (data.drop 28).length = 4 := by
    rw [List.length_drop, size]
  have byte (index : Nat) : data[28 + index]? = (data.drop 28)[index]? :=
    List.getElem?_drop.symm
  obtain ⟨b0, b1, b2, b3, last⟩ := List.length_eq_four.mp four
  rw [last] at byte
  exact ⟨b0, b1, b2, b3, all.trans last, byte 0, byte 1, byte 2, byte 3⟩

end Random

end TgWsProxy
