import TgWsProxy.Bytes
import TgWsProxy.Lib.PositionalMap

/-!
# AES-CTR and SHA-256

Neither implementation contains its own AES or SHA-256: `proxy/_aes.py` wraps
a library cipher and `crypto.rs` uses a crate.  Both are parameters here.  A
CTR cipher is the XOR with a keystream which is indexed by key, IV and byte
offset, together with the offset it has reached.
-/

namespace TgWsProxy

open Lib

/-- HMAC over a hash whose blocks have 64 bytes. -/
def hmac (hash : Bytes → Bytes) (key message : Bytes) : Bytes :=
  let key := if 64 < key.length then hash key else key
  let block := key ++ List.replicate (64 - key.length) 0
  hash (block.map (· ^^^ 0x5c) ++ hash (block.map (· ^^^ 0x36) ++ message))

/-- The primitives taken from outside the repository. -/
structure Primitives where
  sha256 : Bytes → Bytes
  length_sha256 : ∀ data, (sha256 data).length = 32
  hmacSha256 : Bytes → Bytes → Bytes
  hmacSha256_eq : ∀ key message,
    hmacSha256 key message = hmac sha256 key message
  /-- Byte `offset` of the CTR keystream for a key and an IV. -/
  keystream : Bytes → Bytes → Nat → UInt8

namespace Primitives

theorem length_hmacSha256 (crypto : Primitives) (key message : Bytes) :
    (crypto.hmacSha256 key message).length = 32 := by
  rw [crypto.hmacSha256_eq]
  exact crypto.length_sha256 _

/-- The change made to one byte of the stream. -/
def xorByte (crypto : Primitives) (key iv : Bytes) (index : Nat)
    (byte : UInt8) : UInt8 :=
  byte ^^^ crypto.keystream key iv index

/-- XOR a segment which starts at `offset` with the keystream. -/
def ctrXor (crypto : Primitives) (key iv : Bytes) (offset : Nat)
    (data : Bytes) : Bytes :=
  mapAt (crypto.xorByte key iv) offset data

/-- `ctrXor` on the consecutive pieces of one stream. -/
def ctrXorEach (crypto : Primitives) (key iv : Bytes) (offset : Nat)
    (pieces : List Bytes) : List Bytes :=
  mapEachAt (crypto.xorByte key iv) offset pieces

section CtrXor

variable (crypto : Primitives) (key iv : Bytes)

@[simp] theorem ctrXor_nil (offset : Nat) :
    crypto.ctrXor key iv offset [] = [] := rfl

@[simp] theorem length_ctrXor (offset : Nat) (data : Bytes) :
    (crypto.ctrXor key iv offset data).length = data.length :=
  length_mapAt _ _ _

theorem ctrXor_append (offset : Nat) (left right : Bytes) :
    crypto.ctrXor key iv offset (left ++ right) =
      crypto.ctrXor key iv offset left ++
        crypto.ctrXor key iv (offset + left.length) right :=
  mapAt_append _ _ _ _

theorem ctrXor_take (offset count : Nat) (data : Bytes) :
    crypto.ctrXor key iv offset (data.take count) =
      (crypto.ctrXor key iv offset data).take count :=
  mapAt_take _ _ _ _

theorem ctrXor_drop (offset count : Nat) (data : Bytes) :
    (crypto.ctrXor key iv offset data).drop count =
      crypto.ctrXor key iv (offset + count) (data.drop count) :=
  mapAt_drop _ _ _ _

theorem slice_ctrXor (offset start stop : Nat) (data : Bytes) :
    slice (crypto.ctrXor key iv offset data) start stop =
      crypto.ctrXor key iv (offset + start) (slice data start stop) := by
  rw [slice, ← ctrXor_take, ctrXor_drop, slice]

private theorem xorByte_xorByte (index : Nat) (byte : UInt8) :
    crypto.xorByte key iv index (crypto.xorByte key iv index byte) = byte := by
  rw [xorByte, xorByte, UInt8.xor_assoc, UInt8.xor_self, UInt8.xor_zero]

/-- Decryption is encryption again. -/
@[simp] theorem ctrXor_ctrXor (offset : Nat) (data : Bytes) :
    crypto.ctrXor key iv offset (crypto.ctrXor key iv offset data) = data :=
  mapAt_leftInverse (crypto.xorByte_xorByte key iv) _ _

/-- An initial part of an encrypted stream decrypts to an initial part. -/
theorem ctrXor_of_isPrefix {offset : Nat} {seen plain : Bytes}
    (initial : seen <+: crypto.ctrXor key iv offset plain) :
    crypto.ctrXor key iv offset seen = plain.take seen.length := by
  rw [List.prefix_iff_eq_take.mp initial, ← ctrXor_take, ctrXor_ctrXor]
  simp

/-- Decrypting with another key gives the plaintext back exactly if the two
keystreams agree on the segment. -/
theorem ctrXor_ctrXor_eq_iff (otherKey otherIv : Bytes) (offset : Nat)
    (data : Bytes) :
    crypto.ctrXor otherKey otherIv offset (crypto.ctrXor key iv offset data) =
        data ↔
      ∀ index, offset ≤ index → index < offset + data.length →
        crypto.keystream otherKey otherIv index =
          crypto.keystream key iv index := by
  induction data generalizing offset with
  | nil =>
      constructor
      · intro _ index low high
        simp only [List.length_nil] at high
        omega
      · intro _
        rfl
  | cons byte data induction =>
      have head :
          crypto.xorByte otherKey otherIv offset
              (crypto.xorByte key iv offset byte) = byte ↔
            crypto.keystream otherKey otherIv offset =
              crypto.keystream key iv offset := by
        rw [xorByte, xorByte]
        constructor
        · intro kept
          have cancelled := congrArg (byte ^^^ ·) kept
          simp only [← UInt8.xor_assoc, UInt8.xor_self, UInt8.zero_xor,
            UInt8.xor_eq_zero_iff] at cancelled
          exact cancelled.symm
        · intro same
          rw [same, UInt8.xor_assoc, UInt8.xor_self, UInt8.xor_zero]
      have split : crypto.ctrXor otherKey otherIv offset
            (crypto.ctrXor key iv offset (byte :: data)) = byte :: data ↔
          crypto.xorByte otherKey otherIv offset
              (crypto.xorByte key iv offset byte) = byte ∧
            crypto.ctrXor otherKey otherIv (offset + 1)
              (crypto.ctrXor key iv (offset + 1) data) = data :=
        List.cons_eq_cons
      rw [split, head, induction]
      constructor
      · rintro ⟨first, later⟩ index low high
        rcases Nat.eq_or_lt_of_le low with rfl | above
        · exact first
        · apply later index above
          simp only [List.length_cons] at high
          omega
      · intro agree
        refine ⟨agree offset (Nat.le_refl _) (by simp), ?_⟩
        intro index low high
        apply agree index (by omega)
        simp only [List.length_cons]
        omega

@[simp] theorem ctrXorEach_ctrXorEach (offset : Nat) (pieces : List Bytes) :
    crypto.ctrXorEach key iv offset (crypto.ctrXorEach key iv offset pieces) =
      pieces :=
  mapEachAt_leftInverse (crypto.xorByte_xorByte key iv) _ _

@[simp] theorem ctrXorEach_nil (offset : Nat) :
    crypto.ctrXorEach key iv offset [] = [] := rfl

theorem ctrXorEach_cons (offset : Nat) (piece : Bytes) (pieces : List Bytes) :
    crypto.ctrXorEach key iv offset (piece :: pieces) =
      crypto.ctrXor key iv offset piece ::
        crypto.ctrXorEach key iv (offset + piece.length) pieces := rfl

theorem flatten_ctrXorEach (offset : Nat) (pieces : List Bytes) :
    (crypto.ctrXorEach key iv offset pieces).flatten =
      crypto.ctrXor key iv offset pieces.flatten :=
  flatten_mapEachAt _ _ _

theorem ctrXorEach_append (offset : Nat) (left right : List Bytes) :
    crypto.ctrXorEach key iv offset (left ++ right) =
      crypto.ctrXorEach key iv offset left ++
        crypto.ctrXorEach key iv (offset + left.flatten.length) right :=
  mapEachAt_append _ _ _ _

/-- Each piece is encrypted at its own position. -/
theorem exists_of_mem_ctrXorEach {offset : Nat} {pieces : List Bytes}
    {piece : Bytes} (member : piece ∈ crypto.ctrXorEach key iv offset pieces) :
    ∃ plain ∈ pieces, ∃ position, piece = crypto.ctrXor key iv position plain := by
  induction pieces generalizing offset with
  | nil => cases member
  | cons first pieces induction =>
      rw [ctrXorEach_cons] at member
      rcases List.mem_cons.mp member with rfl | later
      · exact ⟨first, List.mem_cons_self, offset, rfl⟩
      · obtain ⟨plain, among, position, same⟩ := induction later
        exact ⟨plain, List.mem_cons_of_mem _ among, position, same⟩

theorem ctrXorEach_nonempty {offset : Nat} {pieces : List Bytes}
    (nonempty : ∀ piece ∈ pieces, piece ≠ []) :
    ∀ piece ∈ crypto.ctrXorEach key iv offset pieces, piece ≠ [] := by
  intro piece member
  obtain ⟨plain, among, position, rfl⟩ :=
    crypto.exists_of_mem_ctrXorEach key iv member
  apply List.ne_nil_of_length_pos
  rw [length_ctrXor]
  exact List.length_pos_of_ne_nil (nonempty plain among)

end CtrXor

/-- A digest of 32 bytes from a table, zero elsewhere. -/
def tableDigest (digests : List (Bytes × Bytes)) (data : Bytes) : Bytes :=
  match digests.lookup data with
  | some digest => natToBe 32 (beNat digest)
  | none => natToBe 32 0

/-- Primitives given by finitely many values, zero elsewhere. -/
def ofTables (digests : List (Bytes × Bytes))
    (keystreams : List ((Bytes × Bytes) × Bytes)) : Primitives where
  sha256 := tableDigest digests
  length_sha256 data := by
    unfold tableDigest
    split <;> simp [natToBe]
  hmacSha256 := hmac (tableDigest digests)
  hmacSha256_eq _ _ := rfl
  keystream key iv offset :=
    match keystreams.lookup (key, iv) with
    | some bytes => bytes.getD offset 0
    | none => 0

end Primitives

/-- A running CTR cipher: `Cipher(..).encryptor()` in Python, `AesCtr` in
Rust. -/
structure AesCtr where
  key : Bytes
  iv : Bytes
  offset : Nat
deriving DecidableEq, Repr

namespace AesCtr

/-- `update(data)` in Python, `apply_keystream(&mut data)` in Rust: the
processed data and the advanced cipher. -/
def update (crypto : Primitives) (cipher : AesCtr) (data : Bytes) :
    Bytes × AesCtr :=
  (crypto.ctrXor cipher.key cipher.iv cipher.offset data,
    { cipher with offset := cipher.offset + data.length })

/-- The cipher after `count` more bytes. -/
def advance (cipher : AesCtr) (count : Nat) : AesCtr :=
  { cipher with offset := cipher.offset + count }

theorem advance_advance (cipher : AesCtr) (first second : Nat) :
    (cipher.advance first).advance second = cipher.advance (first + second) := by
  simp [advance, Nat.add_assoc]

theorem advance_append (cipher : AesCtr) (left right : Bytes) :
    (cipher.advance left.length).advance right.length =
      cipher.advance (left ++ right).length := by
  rw [advance_advance, List.length_append]

/-- What the cipher makes of the next bytes of its stream. -/
def apply (crypto : Primitives) (cipher : AesCtr) (data : Bytes) : Bytes :=
  crypto.ctrXor cipher.key cipher.iv cipher.offset data

@[simp] theorem length_apply (crypto : Primitives) (cipher : AesCtr)
    (data : Bytes) : (cipher.apply crypto data).length = data.length :=
  crypto.length_ctrXor _ _ _ _

theorem apply_append (crypto : Primitives) (cipher : AesCtr)
    (left right : Bytes) :
    cipher.apply crypto (left ++ right) =
      cipher.apply crypto left ++
        (cipher.advance left.length).apply crypto right :=
  crypto.ctrXor_append _ _ _ _ _

theorem update_eq (crypto : Primitives) (cipher : AesCtr) (data : Bytes) :
    cipher.update crypto data =
      (cipher.apply crypto data, cipher.advance data.length) := rfl

end AesCtr

/-- `Cipher(algorithms.AES(key), modes.CTR(iv)).encryptor()`, which raises for
a key or IV of the wrong length. -/
def Python.encryptor (key iv : Bytes) : Except PyError AesCtr :=
  if (key.length = 16 ∨ key.length = 24 ∨ key.length = 32) ∧ iv.length = 16
  then .ok ⟨key, iv, 0⟩
  else .error .valueError

theorem Python.encryptor_of_length {key iv : Bytes} (keySize : key.length = 32)
    (ivSize : iv.length = 16) : encryptor key iv = .ok ⟨key, iv, 0⟩ := by
  simp [encryptor, keySize, ivSize]

/-- `aes_ctr_new`, which panics for a key or IV of the wrong length. -/
def Rust.aesCtrNew (key iv : Bytes) : Except Panic AesCtr :=
  if key.length = 32 ∧ iv.length = 16 then .ok ⟨key, iv, 0⟩
  else .error .invalidLength

theorem Rust.aesCtrNew_of_length {key iv : Bytes} (keySize : key.length = 32)
    (ivSize : iv.length = 16) : aesCtrNew key iv = .ok ⟨key, iv, 0⟩ := by
  simp [aesCtrNew, keySize, ivSize]

end TgWsProxy
