import TgWsProxy.ClientHello
import TgWsProxy.Lib.ExactReader

/-!
# The answer to a ClientHello

In Fake-TLS mode the proxy answers with three TLS records: a ServerHello, a
change of the cipher specification, and some bytes of application data.  Each
length in them counts what follows it, one level inside the other, and the
random of the ServerHello signs the whole answer.
-/

namespace TgWsProxy

open Lib

abbrev Bytes32 := { data : Bytes // data.length = 32 }

/-- What the proxy draws for an answer.  The application data has at least 1900
bytes, and fewer than the limit. -/
structure HelloDraws (limit : Nat) where
  pubkey : Bytes32
  encryptedData : Bytes
  large : 1900 ≤ encryptedData.length
  small : encryptedData.length < limit

/-- The entry of the key share, with 36 bytes. -/
def keyShareEntry (pubkey : Bytes) : Bytes := [0x00, 0x1d] ++ [0x00, 0x20] ++ pubkey

/-- The two extensions, with 46 bytes. -/
def helloExtensions (pubkey : Bytes) : Bytes :=
  [0x00, 0x33] ++ [0x00, 0x24] ++ keyShareEntry pubkey ++
    ([0x00, 0x2b] ++ [0x00, 0x02] ++ [0x03, 0x04])

/-- The body of the ServerHello, with 118 bytes. -/
def helloBody (random sessionId pubkey : Bytes) : Bytes :=
  [0x03, 0x03] ++ random ++ ([0x20] ++ sessionId) ++ [0x13, 0x01] ++ [0x00] ++
    ([0x00, 0x2e] ++ helloExtensions pubkey)

/-- The handshake message, with 122 bytes. -/
def helloMessage (random sessionId pubkey : Bytes) : Bytes :=
  [0x02] ++ [0x00, 0x00, 0x76] ++ helloBody random sessionId pubkey

/-- The three records of an answer. -/
def serverFlight (random sessionId pubkey encryptedData : Bytes) : Bytes :=
  [0x16] ++ [0x03, 0x03] ++ [0x00, 0x7a] ++ helloMessage random sessionId pubkey ++
    ([0x14] ++ [0x03, 0x03] ++ [0x00, 0x01] ++ [0x01]) ++
    ([0x17] ++ [0x03, 0x03] ++ natToBe 2 encryptedData.length ++ encryptedData)

/-- A TLS record. -/
structure PlainRecord where
  contentType : UInt8
  version : Bytes
  body : Bytes
deriving DecidableEq, Repr

/-- The fields of a ServerHello. -/
structure ServerHello where
  version : Bytes
  random : Bytes
  sessionId : Bytes
  cipherSuite : Bytes
  compression : Bytes
  extensions : Bytes
deriving DecidableEq, Repr

/-- A reader which fails in no other way than by a lack of bytes. -/
abbrev FieldReading := Reading UInt8 Empty

/-- A field behind its length in some bytes. -/
def readField (count : Nat) : FieldReading Bytes := Reading.prefixed count beNat

def readPlainRecord : FieldReading PlainRecord := do
  let contentType ← Reading.readExact 1
  let version ← Reading.readExact 2
  let body ← readField 2
  return ⟨contentType.headD 0, version, body⟩

/-- A handshake message: its type, and its body behind three bytes of length. -/
def readHandshake : FieldReading (Bytes × Bytes) := do
  let kind ← Reading.readExact 1
  let body ← readField 3
  return (kind, body)

def readServerHello : FieldReading ServerHello := do
  let version ← Reading.readExact 2
  let random ← Reading.readExact 32
  let sessionId ← readField 1
  let cipherSuite ← Reading.readExact 2
  let compression ← Reading.readExact 1
  let extensions ← readField 2
  return { version, random, sessionId, cipherSuite, compression, extensions }

/-- An extension, or an entry of the key share: two bytes for its kind, and a
field. -/
def readExtension : FieldReading (Bytes × Bytes) := do
  let kind ← Reading.readExact 2
  let body ← readField 2
  return (kind, body)

/-- The answer is three records and nothing else, its lengths nest, the session
id stands in its place, and the random signs what the client can compute. -/
structure SignedFlight (crypto : Primitives) (secret clientRandom : Bytes)
    (sessionId result : Bytes) : Prop where
  nested : ∃ message hello extensions keyShare encryptedData,
    (readPlainRecord.replicate 3).whole result =
      some [⟨0x16, [0x03, 0x03], message⟩, ⟨0x14, [0x03, 0x03], [0x01]⟩,
        ⟨0x17, [0x03, 0x03], encryptedData⟩] ∧
    readHandshake.whole message = some ([0x02], hello) ∧
    readServerHello.whole hello =
      some ⟨[0x03, 0x03], slice result 11 43, sessionId, [0x13, 0x01], [0x00],
        extensions⟩ ∧
    (readExtension.replicate 2).whole extensions =
      some [([0x00, 0x33], keyShare), ([0x00, 0x2b], [0x03, 0x04])] ∧
    ∃ pubkey : Bytes32,
      readExtension.whole keyShare = some ([0x00, 0x1d], pubkey.val)
  echoed : slice result 44 76 = sessionId
  signed : crypto.hmacSha256 secret (clientRandom ++ zeroRandom result) =
    slice result 11 43

section Layout

variable {random sessionId pubkey encryptedData body field kind : Bytes}

theorem length_keyShareEntry (size : pubkey.length = 32) :
    (keyShareEntry pubkey).length = 36 := by
  simp [keyShareEntry, size]

theorem length_helloExtensions (size : pubkey.length = 32) :
    (helloExtensions pubkey).length = 46 := by
  simp [helloExtensions, length_keyShareEntry size]

theorem length_helloBody (randomSize : random.length = 32)
    (sessionSize : sessionId.length = 32) (size : pubkey.length = 32) :
    (helloBody random sessionId pubkey).length = 118 := by
  simp [helloBody, randomSize, sessionSize, length_helloExtensions size]

theorem length_helloMessage (randomSize : random.length = 32)
    (sessionSize : sessionId.length = 32) (size : pubkey.length = 32) :
    (helloMessage random sessionId pubkey).length = 122 := by
  simp [helloMessage, length_helloBody randomSize sessionSize size]

theorem readExtension_on (kindSize : kind.length = 2)
    (fieldSize : field.length = 2) (announced : beNat field = body.length)
    (later : Bytes) :
    readExtension.on (kind ++ field ++ body ++ later) =
      .done (kind, body) later := by
  rw [readExtension, List.append_assoc, List.append_assoc,
    Reading.on_readExact_bind kindSize, readField,
    Reading.on_prefixed_bind fieldSize announced, Reading.on_pure]

theorem readPlainRecord_on (contentType : UInt8) (fieldSize : field.length = 2)
    (announced : beNat field = body.length) (later : Bytes) :
    readPlainRecord.on
        ([contentType] ++ [0x03, 0x03] ++ field ++ body ++ later) =
      .done ⟨contentType, [0x03, 0x03], body⟩ later := by
  rw [readPlainRecord, List.append_assoc, List.append_assoc, List.append_assoc,
    Reading.on_readExact_bind (show ([_] : Bytes).length = 1 from rfl),
    Reading.on_readExact_bind (show ([_, _] : Bytes).length = 2 from rfl),
    readField,
    Reading.on_prefixed_bind fieldSize announced, Reading.on_pure,
    List.headD_cons]

theorem readHandshake_whole (randomSize : random.length = 32)
    (sessionSize : sessionId.length = 32) (size : pubkey.length = 32) :
    readHandshake.whole (helloMessage random sessionId pubkey) =
      some ([0x02], helloBody random sessionId pubkey) := by
  have announced : beNat [0x00, 0x00, 0x76] =
      (helloBody random sessionId pubkey).length := by
    rw [length_helloBody randomSize sessionSize size]
    rfl
  apply Reading.whole_of_on
  rw [← List.append_nil (helloMessage random sessionId pubkey), readHandshake,
    helloMessage, List.append_assoc, List.append_assoc,
    Reading.on_readExact_bind (show ([_] : Bytes).length = 1 from rfl),
    readField,
    Reading.on_prefixed_bind (show ([_, _, _] : Bytes).length = 3 from rfl)
      announced, Reading.on_pure]

theorem readServerHello_whole (randomSize : random.length = 32)
    (sessionSize : sessionId.length = 32) (size : pubkey.length = 32) :
    readServerHello.whole (helloBody random sessionId pubkey) =
      some ⟨[0x03, 0x03], random, sessionId, [0x13, 0x01], [0x00],
        helloExtensions pubkey⟩ := by
  have sessionAnnounced : beNat [0x20] = sessionId.length :=
    sessionSize.symm
  have announced : beNat [0x00, 0x2e] = (helloExtensions pubkey).length := by
    rw [length_helloExtensions size]
    rfl
  apply Reading.whole_of_on
  rw [← List.append_nil (helloBody random sessionId pubkey), readServerHello,
    helloBody]
  simp only [List.append_assoc]
  rw [Reading.on_readExact_bind (show ([_, _] : Bytes).length = 2 from rfl),
    Reading.on_readExact_bind randomSize, readField,
    Reading.on_prefixed_bind (show ([_] : Bytes).length = 1 from rfl)
      sessionAnnounced,
    Reading.on_readExact_bind (show ([_, _] : Bytes).length = 2 from rfl),
    Reading.on_readExact_bind (show ([_] : Bytes).length = 1 from rfl),
    readField,
    Reading.on_prefixed_bind (show ([_, _] : Bytes).length = 2 from rfl)
      announced, Reading.on_pure]

theorem readExtensions_whole (size : pubkey.length = 32) :
    (readExtension.replicate 2).whole (helloExtensions pubkey) =
      some [([0x00, 0x33], keyShareEntry pubkey),
        ([0x00, 0x2b], [0x03, 0x04])] := by
  have announced : beNat [0x00, 0x24] = (keyShareEntry pubkey).length := by
    rw [length_keyShareEntry size]
    rfl
  have first := readExtension_on (show ([0x00, 0x33] : Bytes).length = 2 from rfl)
    (show ([0x00, 0x24] : Bytes).length = 2 from rfl) announced
    ([0x00, 0x2b] ++ [0x00, 0x02] ++ [0x03, 0x04])
  have second : readExtension.on ([0x00, 0x2b] ++ [0x00, 0x02] ++ [0x03, 0x04]) =
      .done ([0x00, 0x2b], [0x03, 0x04]) [] := rfl
  apply Reading.whole_of_on
  simp only [Reading.replicate, Reading.on_bind, helloExtensions, first, second,
    Reading.on_pure]

theorem readKeyShare_whole (size : pubkey.length = 32) :
    readExtension.whole (keyShareEntry pubkey) =
      some ([0x00, 0x1d], pubkey) := by
  have entry := readExtension_on (show ([0x00, 0x1d] : Bytes).length = 2 from rfl)
    (show ([0x00, 0x20] : Bytes).length = 2 from rfl)
    (show beNat [0x00, 0x20] = pubkey.length from size.symm) []
  rw [List.append_nil] at entry
  exact Reading.whole_of_on entry

theorem readFlight_whole (randomSize : random.length = 32)
    (sessionSize : sessionId.length = 32) (size : pubkey.length = 32)
    (fits : encryptedData.length < 65536) :
    (readPlainRecord.replicate 3).whole
        (serverFlight random sessionId pubkey encryptedData) =
      some [⟨0x16, [0x03, 0x03], helloMessage random sessionId pubkey⟩,
        ⟨0x14, [0x03, 0x03], [0x01]⟩, ⟨0x17, [0x03, 0x03], encryptedData⟩] := by
  have announced : beNat [0x00, 0x7a] =
      (helloMessage random sessionId pubkey).length := by
    rw [length_helloMessage randomSize sessionSize size]
    rfl
  have last := readPlainRecord_on 0x17 (length_natToBe 2 encryptedData.length)
    (beNat_natToBe fits) []
  rw [List.append_nil] at last
  have middle := readPlainRecord_on 0x14
    (show ([0x00, 0x01] : Bytes).length = 2 from rfl)
    (show beNat [0x00, 0x01] = ([0x01] : Bytes).length from rfl)
    ([0x17] ++ [0x03, 0x03] ++ natToBe 2 encryptedData.length ++ encryptedData)
  have first := readPlainRecord_on 0x16
    (show ([0x00, 0x7a] : Bytes).length = 2 from rfl) announced
    ([0x14] ++ [0x03, 0x03] ++ [0x00, 0x01] ++ [0x01] ++
      ([0x17] ++ [0x03, 0x03] ++ natToBe 2 encryptedData.length ++
        encryptedData))
  rw [← List.append_assoc] at first
  apply Reading.whole_of_on
  simp only [Reading.replicate, Reading.on_bind, serverFlight, first, middle,
    last, Reading.on_pure]

end Layout

section Random

variable {random sessionId : Bytes}

def flightFront : Bytes :=
  [0x16, 0x03, 0x03, 0x00, 0x7a, 0x02, 0x00, 0x00, 0x76, 0x03, 0x03]

/-- What stands behind the random. -/
def flightBack (sessionId pubkey encryptedData : Bytes) : Bytes :=
  [0x20] ++ (sessionId ++ ([0x13, 0x01] ++ ([0x00] ++ ([0x00, 0x2e] ++
    helloExtensions pubkey)))) ++
    ([0x14] ++ [0x03, 0x03] ++ [0x00, 0x01] ++ [0x01]) ++
    ([0x17] ++ [0x03, 0x03] ++ natToBe 2 encryptedData.length ++ encryptedData)

theorem serverFlight_eq (random sessionId pubkey encryptedData : Bytes) :
    serverFlight random sessionId pubkey encryptedData =
      flightFront ++ random ++ flightBack sessionId pubkey encryptedData := by
  simp only [serverFlight, helloMessage, helloBody, flightFront, flightBack,
    List.append_assoc, List.cons_append, List.nil_append]

theorem length_flightFront_append (size : random.length = 32) :
    (flightFront ++ random).length = 43 := by
  rw [List.length_append, size]
  rfl

theorem slice_flight_random (size : random.length = 32) (back : Bytes) :
    slice (flightFront ++ random ++ back) 11 43 = random := by
  rw [slice, List.take_left' (length_flightFront_append size)]
  exact List.drop_left' rfl

theorem zeroRandom_flight (size : random.length = 32) (back : Bytes) :
    zeroRandom (flightFront ++ random ++ back) =
      flightFront ++ List.replicate 32 0 ++ back := by
  have front : (flightFront ++ (random ++ back)).take 11 = flightFront :=
    List.take_left' rfl
  rw [zeroRandom, List.drop_left' (length_flightFront_append size),
    List.append_assoc flightFront random, front]

theorem slice_flight_sessionId (size : random.length = 32)
    (sessionSize : sessionId.length = 32) (pubkey encryptedData : Bytes) :
    slice (flightFront ++ random ++ flightBack sessionId pubkey encryptedData)
      44 76 = sessionId := by
  have front := length_flightFront_append size
  have behind := slice_append_right (flightFront ++ random)
    (flightBack sessionId pubkey encryptedData) 1 33
  rw [front] at behind
  rw [behind, flightBack, slice]
  simp only [List.append_assoc, List.cons_append, List.nil_append,
    List.take_succ_cons, List.drop_succ_cons, List.drop_zero]
  exact List.take_left' sessionSize

end Random

/-- An answer whose random is the HMAC of the answer without it. -/
theorem signedFlight (crypto : Primitives) (secret : Bytes)
    (clientRandom sessionId pubkey : Bytes32) {encryptedData : Bytes}
    (fits : encryptedData.length < 65536) :
    SignedFlight crypto secret clientRandom sessionId
      (serverFlight (crypto.hmacSha256 secret (clientRandom ++
          serverFlight (List.replicate 32 0) sessionId pubkey encryptedData))
        sessionId pubkey encryptedData) := by
  have size := crypto.length_hmacSha256 secret (clientRandom ++
    serverFlight (List.replicate 32 0) sessionId pubkey encryptedData)
  have random : slice (serverFlight (crypto.hmacSha256 secret (clientRandom ++
        serverFlight (List.replicate 32 0) sessionId pubkey encryptedData))
      sessionId pubkey encryptedData) 11 43 = crypto.hmacSha256 secret
        (clientRandom ++
          serverFlight (List.replicate 32 0) sessionId pubkey encryptedData) := by
    rw [serverFlight_eq (Primitives.hmacSha256 _ _ _), slice_flight_random size]
  constructor
  · refine ⟨_, _, _, _, _, readFlight_whole size sessionId.property
      pubkey.property fits, readHandshake_whole size sessionId.property
      pubkey.property, ?_, readExtensions_whole pubkey.property, pubkey,
      readKeyShare_whole pubkey.property⟩
    rw [random]
    exact readServerHello_whole size sessionId.property pubkey.property
  · rw [serverFlight_eq,
      slice_flight_sessionId size sessionId.property]
  · rw [random, serverFlight_eq (Primitives.hmacSha256 _ _ _),
      zeroRandom_flight size, ← serverFlight_eq]

end TgWsProxy
