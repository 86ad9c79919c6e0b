import TgWsProxy.Crypto
import TgWsProxy.Utils

/-!
# The obfuscated transport header

A connection starts with 64 bytes which carry their own cipher key: bytes 8 to
40 are a key, bytes 40 to 56 an IV, and the header decrypted under them shows
the protocol tag and the DC index.  The opposite direction uses the same 48
bytes reversed.  Towards the proxy both keys are hashed with the secret.

These definitions say what the two ends of a connection agree on; the code of
either implementation is compared with them.
-/

namespace TgWsProxy

def headerKey (header : Bytes) : Bytes := slice header 8 40
def headerIv (header : Bytes) : Bytes := slice header 40 56

def reversedKey (header : Bytes) : Bytes := (slice header 8 56).reverse.take 32
def reversedIv (header : Bytes) : Bytes := (slice header 8 56).reverse.drop 32

section Lengths

variable {header : Bytes} (size : 56 ≤ header.length)

include size

theorem length_headerKey : (headerKey header).length = 32 := by
  simp only [headerKey, length_slice]
  omega

theorem length_headerIv : (headerIv header).length = 16 := by
  simp only [headerIv, length_slice]
  omega

theorem length_reversedKey : (reversedKey header).length = 32 := by
  simp only [reversedKey, List.length_take, List.length_reverse, length_slice]
  omega

theorem length_reversedIv : (reversedIv header).length = 16 := by
  simp only [reversedIv, List.length_drop, List.length_reverse, length_slice]
  omega

end Lengths

section Cuts

/-! How the code of both implementations cuts a header. -/

theorem slice_key (header : Bytes) : slice header 8 40 = headerKey header := rfl

theorem slice_iv (header : Bytes) : slice header 40 56 = headerIv header := rfl

theorem take_prekey (header : Bytes) :
    (slice header 8 56).take 32 = headerKey header := by
  have cut := slice_slice header 8 56 0 32 (by omega)
  simpa [slice, headerKey] using cut

theorem drop_prekey (header : Bytes) :
    (slice header 8 56).drop 32 = headerIv header := by
  simp [slice, headerIv, List.drop_drop]

theorem take_reversed (header : Bytes) :
    (slice header 8 56).reverse.take 32 = reversedKey header := rfl

theorem drop_reversed (header : Bytes) :
    (slice header 8 56).reverse.drop 32 = reversedIv header := rfl

theorem headerKey_append {front : Bytes} (tail : Bytes)
    (inside : 56 ≤ front.length) : headerKey (front ++ tail) = headerKey front :=
  slice_append_of_le tail (by omega)

theorem headerIv_append {front : Bytes} (tail : Bytes)
    (inside : 56 ≤ front.length) : headerIv (front ++ tail) = headerIv front :=
  slice_append_of_le tail inside

theorem headerKey_take (header : Bytes) :
    headerKey (header.take 56) = headerKey header :=
  slice_take header (by omega)

theorem headerIv_take (header : Bytes) :
    headerIv (header.take 56) = headerIv header :=
  slice_take header (by omega)

end Cuts

/-- The client's handshake as the client wrote it. -/
def clientView (crypto : Primitives) (secret handshake : Bytes) : Bytes :=
  crypto.ctrXor (crypto.sha256 (headerKey handshake ++ secret))
    (headerIv handshake) 0 handshake

/-- The relay header as the Telegram server reads it. -/
def peerView (crypto : Primitives) (header : Bytes) : Bytes :=
  crypto.ctrXor (headerKey header) (headerIv header) 0 header

def viewTag (view : Bytes) : Bytes := slice view 56 60
def viewDcIdx (view : Bytes) : Int := leInt (slice view 60 62)

theorem slice_peerView (crypto : Primitives) (header : Bytes)
    (start stop : Nat) :
    slice (peerView crypto header) start stop =
      crypto.ctrXor (headerKey header) (headerIv header) start
        (slice header start stop) := by
  rw [peerView, crypto.slice_ctrXor, Nat.zero_add]

/-- Both generators recover the keystream of the tail by XORing an encrypted
segment with the segment itself. -/
theorem zipWith_recovered_keystream (crypto : Primitives) (key iv : Bytes)
    (offset : Nat) {tail segment : Bytes}
    (size : tail.length = segment.length) :
    List.zipWith (· ^^^ ·) tail
        (List.zipWith (· ^^^ ·) (crypto.ctrXor key iv offset segment) segment) =
      crypto.ctrXor key iv offset tail := by
  induction tail generalizing segment offset with
  | nil => rfl
  | cons byte tail induction =>
      cases segment with
      | nil => simp at size
      | cons first segment =>
          have head : byte ^^^ (crypto.xorByte key iv offset first ^^^ first) =
              crypto.xorByte key iv offset byte := by
            rw [Primitives.xorByte, Primitives.xorByte,
              UInt8.xor_comm first, UInt8.xor_assoc, UInt8.xor_self,
              UInt8.xor_zero]
          have tailSize : tail.length = segment.length := by simpa using size
          exact congrArg₂ List.cons head (induction (offset + 1) tailSize)

/-- What a handshake tells the proxy. -/
structure ClientRequest where
  dc : Nat
  isMedia : Bool
  protoTag : Bytes
  decPrekeyIv : Bytes
deriving DecidableEq, Repr

def knownTags : List Bytes :=
  [protoTagAbridged, protoTagIntermediate, protoTagSecure]

/-- The request in a handshake, if its tag is a known one. -/
def requestOf (crypto : Primitives) (secret handshake : Bytes) :
    Option ClientRequest :=
  let view := clientView crypto secret handshake
  if viewTag view ∈ knownTags then
    some ⟨(viewDcIdx view).natAbs, decide (viewDcIdx view < 0), viewTag view,
      slice handshake 8 56⟩
  else none

theorem requestOf_eq_some {crypto : Primitives} {secret handshake : Bytes}
    {request : ClientRequest}
    (accepted : requestOf crypto secret handshake = some request) :
    viewTag (clientView crypto secret handshake) ∈ knownTags ∧
      request =
        ⟨(viewDcIdx (clientView crypto secret handshake)).natAbs,
          decide (viewDcIdx (clientView crypto secret handshake) < 0),
          viewTag (clientView crypto secret handshake),
          slice handshake 8 56⟩ := by
  unfold requestOf at accepted
  by_cases known : viewTag (clientView crypto secret handshake) ∈ knownTags
  · simp only [known, if_true, Option.some.injEq] at accepted
    exact ⟨known, accepted.symm⟩
  · simp [known] at accepted

theorem length_of_knownTag {tag : Bytes} (known : tag ∈ knownTags) :
    tag.length = 4 := by
  simp only [knownTags, List.mem_cons, List.not_mem_nil, or_false] at known
  rcases known with rfl | rfl | rfl <;> rfl

theorem viewDcIdx_range (crypto : Primitives) (secret : Bytes)
    {handshake : Bytes} (size : handshake.length = 64) :
    -32768 ≤ viewDcIdx (clientView crypto secret handshake) ∧
      viewDcIdx (clientView crypto secret handshake) ≤ 32767 := by
  apply leInt_range
  simp [clientView, size]

/-- The signed index is recovered from its absolute value and sign. -/
theorem signed_of_abs (index : Int) :
    (if decide (index < 0) then -(index.natAbs : Int) else index.natAbs) =
      index := by
  by_cases negative : index < 0 <;> simp only [negative, decide_true,
    decide_false, if_true, if_false, Bool.false_eq_true] <;> omega

/-- The four ciphers of a session. -/
structure CryptoCtx where
  cltDec : AesCtr
  cltEnc : AesCtr
  tgEnc : AesCtr
  tgDec : AesCtr
deriving DecidableEq, Repr

/-- The ciphers of a session right after the two headers. -/
def sessionCiphers (crypto : Primitives) (secret handshake relayInit : Bytes) :
    CryptoCtx :=
  { cltDec :=
      ⟨crypto.sha256 (headerKey handshake ++ secret), headerIv handshake, 64⟩
    cltEnc :=
      ⟨crypto.sha256 (reversedKey handshake ++ secret), reversedIv handshake, 0⟩
    tgEnc := ⟨headerKey relayInit, headerIv relayInit, 64⟩
    tgDec := ⟨reversedKey relayInit, reversedIv relayInit, 0⟩ }

/-- What a bridge makes of bytes which the client sent. -/
def reencryptedUp (crypto : Primitives) (session : CryptoCtx)
    (read : Bytes) : Bytes :=
  session.tgEnc.apply crypto (session.cltDec.apply crypto read)

/-- What a bridge makes of bytes which Telegram sent. -/
def reencryptedDown (crypto : Primitives) (session : CryptoCtx)
    (received : Bytes) : Bytes :=
  session.cltEnc.apply crypto (session.tgDec.apply crypto received)

section Reencryption

variable {crypto : Primitives} {session : CryptoCtx}

theorem reencryptedUp_append (read chunk : Bytes) :
    reencryptedUp crypto session (read ++ chunk) =
      reencryptedUp crypto session read ++
        (session.tgEnc.advance read.length).apply crypto
          ((session.cltDec.advance read.length).apply crypto chunk) := by
  rw [reencryptedUp, AesCtr.apply_append, AesCtr.apply_append,
    AesCtr.length_apply, reencryptedUp]

theorem reencryptedDown_append (received data : Bytes) :
    reencryptedDown crypto session (received ++ data) =
      reencryptedDown crypto session received ++
        (session.cltEnc.advance received.length).apply crypto
          ((session.tgDec.advance received.length).apply crypto data) := by
  rw [reencryptedDown, AesCtr.apply_append, AesCtr.apply_append,
    AesCtr.length_apply, reencryptedDown]

end Reencryption

/-- What the client sends of its plaintext, after its handshake. -/
def clientUpstream (crypto : Primitives) (secret handshake plain : Bytes) :
    Bytes :=
  crypto.ctrXor (crypto.sha256 (headerKey handshake ++ secret))
    (headerIv handshake) 64 plain

/-- What the client reads in the bytes which it receives. -/
def clientDownPlain (crypto : Primitives)
    (secret handshake stream : Bytes) : Bytes :=
  crypto.ctrXor (crypto.sha256 (reversedKey handshake ++ secret))
    (reversedIv handshake) 0 stream

/-- What Telegram sends of its plaintext. -/
def telegramDownstream (crypto : Primitives) (relayInit plain : Bytes) :
    Bytes :=
  crypto.ctrXor (reversedKey relayInit) (reversedIv relayInit) 0 plain

/-- The plaintext of the upstream bytes which follow the relay header. -/
def relayPlain (crypto : Primitives) (relayInit stream : Bytes) : Bytes :=
  crypto.ctrXor (headerKey relayInit) (headerIv relayInit) 64 stream

/-- `relayPlain` of a stream which was cut into pieces. -/
def relayPlainEach (crypto : Primitives) (relayInit : Bytes)
    (pieces : List Bytes) : List Bytes :=
  crypto.ctrXorEach (headerKey relayInit) (headerIv relayInit) 64 pieces

theorem relayPlain_prefix (crypto : Primitives) (relayInit : Bytes)
    {front whole : Bytes} (initialPart : front <+: whole) :
    relayPlain crypto relayInit front <+: relayPlain crypto relayInit whole := by
  obtain ⟨back, rfl⟩ := initialPart
  rw [relayPlain, relayPlain, crypto.ctrXor_append]
  exact List.prefix_append _ _

/-- What the bridge makes of the client's bytes reads as the client's
plaintext. -/
theorem relayPlain_reencryptedUp (crypto : Primitives)
    (secret handshake relayInit : Bytes) {read plain : Bytes}
    (initialPart : read <+: clientUpstream crypto secret handshake plain) :
    relayPlain crypto relayInit (reencryptedUp crypto
      (sessionCiphers crypto secret handshake relayInit) read) =
        plain.take read.length :=
  (crypto.ctrXor_ctrXor _ _ _ _).trans
    (crypto.ctrXor_of_isPrefix _ _ initialPart)

/-- What the bridge makes of Telegram's bytes reads as Telegram's plaintext. -/
theorem clientDownPlain_reencryptedDown (crypto : Primitives)
    (secret handshake relayInit : Bytes) {received plain : Bytes}
    (initialPart : received <+: telegramDownstream crypto relayInit plain) :
    clientDownPlain crypto secret handshake (reencryptedDown crypto
      (sessionCiphers crypto secret handshake relayInit) received) =
        plain.take received.length :=
  (crypto.ctrXor_ctrXor _ _ _ _).trans
    (crypto.ctrXor_of_isPrefix _ _ initialPart)

/-! ### A recorded session

SHA-256 and AES-256-CTR values for one client handshake (intermediate
transport, DC index -2) and one draw of the relay header, so that the
functions below can be evaluated. -/

def recordedSecret : Bytes :=
  natToBe 16
    0x000102030405060708090a0b0c0d0e0f

def recordedHandshake : Bytes :=
  natToBe 32
    0x000102030405060708090a0b0c0d0e0f101112131415161718191a1b1c1d1e1f ++
  natToBe 32
    0x202122232425262728292a2b2c2d2e2f30313233343536374c84949e47f793db

def recordedDraw : Bytes :=
  natToBe 32
    0x6465666768696a6b6c6d6e6f707172737475767778797a7b7c7d7e7f80818283 ++
  natToBe 32
    0x8485868788898a8b8c8d8e8f909192939495969798999a9b9c9d9e9fa0a1a2a3

def recordedCrypto : Primitives :=
  Primitives.ofTables
    [(natToBe 32
        0x08090a0b0c0d0e0f101112131415161718191a1b1c1d1e1f2021222324252627 ++
      natToBe 16
        0x000102030405060708090a0b0c0d0e0f,
        natToBe 32
          0x58e43c97ffd7f8263296692cd28695bc3e29e03707aa98faa3be518061df6e67),
      (natToBe 32
        0x37363534333231302f2e2d2c2b2a292827262524232221201f1e1d1c1b1a1918 ++
      natToBe 16
        0x000102030405060708090a0b0c0d0e0f,
        natToBe 32
          0xf4effaeae14a397813a60bc9ff0da4a25a01c756fe62eeed037a5841d3cadcee)]
    [((natToBe 32
          0x58e43c97ffd7f8263296692cd28695bc3e29e03707aa98faa3be518061df6e67,
        natToBe 16
          0x28292a2b2c2d2e2f3031323334353637),
        natToBe 32
          0xfec3265a28dcb556c7c3b392bd55fb1af365b31cb276bc73c3e45e80fddac5c9 ++
        natToBe 32
          0x1a6b3a0278f9b3e08cbc09b60f580b12af169c679f0aff81a26a7a70b90893db ++
        natToBe 16
          0x56decc6a1a716c4ddc43210950313d5c),
      ((natToBe 32
          0xf4effaeae14a397813a60bc9ff0da4a25a01c756fe62eeed037a5841d3cadcee,
        natToBe 16
          0x17161514131211100f0e0d0c0b0a0908),
        natToBe 16
          0xa009d788844755e13983ff70624a393b),
      ((natToBe 32
          0x6c6d6e6f707172737475767778797a7b7c7d7e7f808182838485868788898a8b,
        natToBe 16
          0x8c8d8e8f909192939495969798999a9b),
        natToBe 32
          0x70dc3f2fc4d6cc7968c700c0a274781a0418dc03da03788774c1444c9362ac92 ++
        natToBe 32
          0xe1fa74c0d4d3eafb3392ce6db498eebc32fececa564e6aa5a08eafdcfce45bb9 ++
        natToBe 16
          0xd99ae0f028f8d89d2d5b7304ad13cb95),
      ((natToBe 32
          0x9b9a999897969594939291908f8e8d8c8b8a898887868584838281807f7e7d7c,
        natToBe 16
          0x7b7a797877767574737271706f6e6d6c),
        natToBe 16
          0xcbefd79c265dfe07e03fef609215e5c7),
      ((natToBe 32
          0x04aa6eafd2050a69706daa74a27a02fc08bc3a3313e32e11657ff2475c5a6070,
        natToBe 16
          0xbf1f40e224097c2fa66b585dced7f03e),
        natToBe 32
          0x03bab90dea637790116dc3884ad82865bde0bdb844d9fb0421cfcfddfaceaf92 ++
        natToBe 32
          0xe240b6ef13f0b552a81030365a846039fc9e9b7a29b2203de6b13a07d63be328)]

end TgWsProxy
