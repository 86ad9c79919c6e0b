import TgWsProxy.Python.ClientHello
import TgWsProxy.Rust.ClientHello

/-!
# Which hellos are accepted

A client signs a hello by XORing the HMAC of the hello, whose random is zero,
with the time of day, and sends that as the random.  The time is not sent
otherwise: the proxy gets it by XORing once more.  Both implementations accept
the hellos which were signed at about their own time, and no others.
-/

namespace TgWsProxy

/-- The random of a hello which is signed at a time. -/
def signature (crypto : Primitives) (secret hello : Bytes) (timestamp : Nat) :
    Bytes :=
  List.zipWith (· ^^^ ·) (crypto.hmacSha256 secret (zeroRandom hello))
    (List.replicate 28 0 ++ natToLe 4 timestamp)

/-- The signed hello. -/
def signHello (crypto : Primitives) (secret hello : Bytes) (timestamp : Nat) :
    Bytes :=
  hello.take 11 ++ signature crypto secret hello timestamp ++ hello.drop 43

/-- A ClientHello which was signed at a time of 32 bits. -/
structure SignedAt (crypto : Primitives) (secret data : Bytes)
    (timestamp : Nat) : Prop where
  long : 43 ≤ data.length
  record : data[0]? = some 0x16
  hello : data[5]? = some 0x01
  word : timestamp < 2 ^ 32
  random : slice data 11 43 = signature crypto secret data timestamp

section Xor

variable {left right : Bytes}

theorem zipWith_xor_cancel (size : left.length = right.length) :
    List.zipWith (· ^^^ ·) left (List.zipWith (· ^^^ ·) left right) =
      right := by
  induction left generalizing right with
  | nil =>
      cases right with
      | nil => rfl
      | cons byte right => cases size
  | cons first left induction =>
      cases right with
      | nil => cases size
      | cons second right =>
          have tails := @induction right (Nat.succ.inj size)
          rw [List.zipWith_cons_cons, List.zipWith_cons_cons, tails,
            ← UInt8.xor_assoc, UInt8.xor_self, UInt8.zero_xor]

theorem zipWith_xor_comm (left right : Bytes) :
    List.zipWith (· ^^^ ·) left right = List.zipWith (· ^^^ ·) right left := by
  apply List.zipWith_comm_of_comm
  intro first second
  exact UInt8.xor_comm first second

theorem zipWith_xor_zeros {count : Nat} (size : left.length = count) :
    List.zipWith (· ^^^ ·) left (List.replicate count 0) = left := by
  subst size
  induction left with
  | nil => rfl
  | cons byte left induction =>
      rw [List.length_cons, List.replicate_succ, List.zipWith_cons_cons,
        induction, UInt8.xor_zero]

end Xor

section Signatures

variable {crypto : Primitives} {secret data hello : Bytes} {timestamp : Nat}

theorem length_signature (crypto : Primitives) (secret hello : Bytes)
    (timestamp : Nat) :
    (signature crypto secret hello timestamp).length = 32 := by
  simp [signature, Primitives.length_hmacSha256]

/-- The HMAC, and behind its 28 bytes the time. -/
theorem signature_eq (crypto : Primitives) (secret hello : Bytes)
    (timestamp : Nat) :
    signature crypto secret hello timestamp =
      (crypto.hmacSha256 secret (zeroRandom hello)).take 28 ++
        List.zipWith (· ^^^ ·)
          (slice (crypto.hmacSha256 secret (zeroRandom hello)) 28 32)
          (natToLe 4 timestamp) := by
  have size := crypto.length_hmacSha256 secret (zeroRandom hello)
  rw [signature]
  generalize crypto.hmacSha256 secret (zeroRandom hello) = mac at size
  have back : slice mac 28 32 = mac.drop 28 := by
    rw [slice, List.take_of_length_le (Nat.le_of_eq size)]
  have front : (mac.take 28).length = 28 := by
    rw [List.length_take]
    omega
  rw [back]
  conv_lhs => rw [← List.take_append_drop 28 mac]
  rw [List.zipWith_append (by simp [front]), zipWith_xor_zeros front]

/-- A random which carries a time gives it back. -/
theorem xor_time {field mac : Bytes} (size : mac.length = 4)
    (fieldSize : field.length = 4) :
    timestamp < 2 ^ 32 ∧
        field = List.zipWith (· ^^^ ·) mac (natToLe 4 timestamp) ↔
      timestamp = leNat (List.zipWith (· ^^^ ·) field mac) := by
  constructor
  · rintro ⟨word, rfl⟩
    rw [zipWith_xor_comm _ mac, zipWith_xor_cancel (by simp [size])]
    exact (leNat_natToLe word).symm
  · rintro rfl
    have four : (List.zipWith (· ^^^ ·) field mac).length = 4 := by
      rw [List.length_zipWith, size, fieldSize]
      rfl
    have bound := leNat_lt (List.zipWith (· ^^^ ·) field mac)
    have back := natToLe_leNat (List.zipWith (· ^^^ ·) field mac)
    rw [four] at bound back
    refine ⟨bound, ?_⟩
    rw [back, zipWith_xor_comm field mac,
      zipWith_xor_cancel (size.trans fieldSize.symm)]

theorem signedAt_iff :
    SignedAt crypto secret data timestamp ↔
      Signed crypto secret data ∧
        timestamp = helloTimestamp crypto secret data := by
  have macSize : (slice (crypto.hmacSha256 secret (zeroRandom data)) 28
      32).length = 4 := by
    rw [length_slice, Primitives.length_hmacSha256]
    rfl
  have split : slice data 11 43 = slice data 11 39 ++ slice data 39 43 := by
    have cut := List.take_append_drop 28 (slice data 11 43)
    have back : (slice data 11 43).drop 28 = slice data 39 43 := by
      simp [slice, List.drop_drop]
    rw [take_random, back] at cut
    exact cut.symm
  have fieldSize (long : 43 ≤ data.length) : (slice data 39 43).length = 4 := by
    rw [length_slice]
    omega
  have frontSize (long : 43 ≤ data.length) :
      (slice data 11 39).length =
        ((crypto.hmacSha256 secret (zeroRandom data)).take 28).length := by
    rw [length_slice, List.length_take, Primitives.length_hmacSha256]
    omega
  constructor
  · rintro ⟨long, record, hello, word, random⟩
    rw [split, signature_eq] at random
    obtain ⟨front, back⟩ := List.append_inj random (frontSize long)
    refine ⟨⟨long, record, hello, front.symm⟩, ?_⟩
    exact (xor_time macSize (fieldSize long)).mp ⟨word, back⟩
  · rintro ⟨⟨long, record, hello, front⟩, time⟩
    obtain ⟨word, back⟩ := (xor_time macSize (fieldSize long)).mpr time
    refine ⟨long, record, hello, word, ?_⟩
    rw [split, signature_eq, ← front, ← back]

theorem helloVerdict_eq_some_iff {now : Nat} {verdict : HelloVerdict} :
    helloVerdict crypto now secret data = some verdict ↔
      ∃ timestamp, SignedAt crypto secret data timestamp ∧
        ((now : Int) - timestamp).natAbs ≤ timestampTolerance ∧
        verdict = ⟨slice data 11 43, helloSessionId data, timestamp⟩ := by
  simp only [helloVerdict, Option.ite_none_right_eq_some, Option.some.injEq]
  constructor
  · rintro ⟨⟨signed, close⟩, rfl⟩
    exact ⟨_, signedAt_iff.mpr ⟨signed, rfl⟩, close, rfl⟩
  · rintro ⟨timestamp, signedAt, close, rfl⟩
    obtain ⟨signed, rfl⟩ := signedAt_iff.mp signedAt
    exact ⟨⟨signed, close⟩, rfl⟩

theorem slice_signHello (long : 11 ≤ hello.length) :
    slice (signHello crypto secret hello timestamp) 11 43 =
      signature crypto secret hello timestamp := by
  have frontSize : (hello.take 11).length = 11 := by
    rw [List.length_take]
    omega
  have size := length_signature crypto secret hello timestamp
  rw [slice, signHello,
    List.take_left' (by rw [List.length_append, frontSize, size]),
    List.drop_left' frontSize]

/-- What a client signs is signed. -/
theorem signHello_signedAt (long : 43 ≤ hello.length)
    (record : hello[0]? = some 0x16) (kind : hello[5]? = some 0x01)
    (word : timestamp < 2 ^ 32) :
    SignedAt crypto secret (signHello crypto secret hello timestamp)
      timestamp := by
  have frontSize : (hello.take 11).length = 11 := by
    rw [List.length_take]
    omega
  have size := length_signature crypto secret hello timestamp
  have same : zeroRandom (signHello crypto secret hello timestamp) =
      zeroRandom hello := by
    have front : (signHello crypto secret hello timestamp).take 11 =
        hello.take 11 := by
      rw [signHello, List.append_assoc, List.take_left' frontSize]
    have back : (signHello crypto secret hello timestamp).drop 43 =
        hello.drop 43 := by
      apply List.drop_left'
      rw [List.length_append, frontSize, size]
    rw [zeroRandom, front, back, zeroRandom]
  have early {index : Nat} (inside : index < 11) :
      (signHello crypto secret hello timestamp)[index]? = hello[index]? := by
    rw [signHello, List.append_assoc,
      List.getElem?_append_left (by rw [frontSize]; exact inside),
      List.getElem?_take_of_lt inside]
  constructor
  · simp only [signHello, List.length_append, List.length_drop, frontSize, size]
    omega
  · rw [early (by decide), record]
  · rw [early (by decide), kind]
  · exact word
  · rw [slice_signHello (by omega), signature, signature, same]

end Signatures

/-- Both implementations return the same, and accept exactly the hellos which
were signed within the tolerance; so a client which signs its hello with the
time of day is accepted with this time. -/
theorem verifyClientHello_accepts (crypto : Primitives) (now : Nat)
    (secret : Bytes) :
    (∀ data, ∃ result,
      Python.verifyClientHello crypto now data secret = .ok result ∧
      Rust.verifyClientHello crypto now data secret = .ok result ∧
      ∀ verdict, result = some verdict ↔
        ∃ timestamp, SignedAt crypto secret data timestamp ∧
          ((now : Int) - timestamp).natAbs ≤ timestampTolerance ∧
          verdict = ⟨slice data 11 43, helloSessionId data, timestamp⟩) ∧
    ∀ (hello : Bytes) (timestamp : Nat), 43 ≤ hello.length → hello[0]? = some 0x16 →
      hello[5]? = some 0x01 → timestamp < 2 ^ 32 →
      ((now : Int) - timestamp).natAbs ≤ timestampTolerance →
      let data := signHello crypto secret hello timestamp
      let verdict : HelloVerdict :=
        ⟨signature crypto secret hello timestamp, helloSessionId data, timestamp⟩
      Python.verifyClientHello crypto now data secret = .ok (some verdict) ∧
        Rust.verifyClientHello crypto now data secret = .ok (some verdict) := by
  constructor
  · intro data
    refine ⟨_, Python.verifyClientHello_eq crypto now secret data,
      Rust.verifyClientHello_eq crypto now secret data, ?_⟩
    intro verdict
    exact helloVerdict_eq_some_iff
  · intro hello timestamp long record kind word close data verdict
    have signed := @signHello_signedAt crypto secret hello timestamp long record
      kind word
    have accepted : helloVerdict crypto now secret data = some verdict := by
      apply helloVerdict_eq_some_iff.mpr
      refine ⟨timestamp, signed, close, ?_⟩
      rw [slice_signHello (by omega)]
    rw [Python.verifyClientHello_eq, Rust.verifyClientHello_eq, accepted]
    exact ⟨rfl, rfl⟩

/-- The shortest hello, signed a minute before its time. -/
theorem verifyClientHello_accepts_shortest :
    let crypto := Primitives.ofTables [] []
    let hello : Bytes := [0x16, 0x03, 0x01, 0x00, 0x26, 0x01] ++
      List.replicate 37 0
    Python.verifyClientHello crypto 1700000060
        (signHello crypto [] hello 1700000000) [] =
      .ok (some ⟨signature crypto [] hello 1700000000,
        helloSessionId (signHello crypto [] hello 1700000000), 1700000000⟩) :=
  ((verifyClientHello_accepts (Primitives.ofTables [] []) 1700000060 []).2 _
    1700000000 (by decide) rfl rfl (by decide) (by decide)).1

end TgWsProxy
