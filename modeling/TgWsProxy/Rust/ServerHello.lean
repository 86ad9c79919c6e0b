import TgWsProxy.Rust.ClientHello
import TgWsProxy.ServerHello

/-!
# The Rust ServerHello

`build_server_hello` of `proxy/fake_tls.rs`, which writes the ServerHello piece
by piece and copies the public key and the random to their offsets.
-/

namespace TgWsProxy.Rust

def shRandomOff : Nat := 11
def shPubkeyOff : Nat := 89

def ccsFrame : Bytes := [0x14, 0x03, 0x03, 0x00, 0x01, 0x01]

/-- `build_server_hello`.  `random_range(1900..2100)` is never 2100. -/
def buildServerHello (crypto : Primitives) (secret : Bytes)
    (clientRandom sessionId : Bytes32) (draws : HelloDraws 2100) :
    Except Panic Bytes := do
  let sh : Bytes :=
    [0x16, 0x03, 0x03, 0x00, 0x7a, 0x02, 0x00, 0x00, 0x76, 0x03, 0x03]
  let sh := sh ++ List.replicate 32 0 ++ [0x20] ++ sessionId.val ++
    [0x13, 0x01, 0x00, 0x00, 0x2e, 0x00, 0x33, 0x00, 0x24, 0x00, 0x1d, 0x00,
      0x20] ++ List.replicate 32 0 ++ [0x00, 0x2b, 0x00, 0x02, 0x03, 0x04]
  let sh ← copyFromSlice sh shPubkeyOff (shPubkeyOff + 32) draws.pubkey
  let response := sh ++ ccsFrame
  let encryptedSize := draws.encryptedData.length
  -- `as u16` keeps the low two bytes.
  let response := response ++ [0x17] ++ [0x03] ++ [0x03] ++
    natToBe 2 encryptedSize ++ draws.encryptedData
  let serverRandom := crypto.hmacSha256 secret (clientRandom ++ response)
  copyFromSlice response shRandomOff (shRandomOff + 32) serverRandom

section Layout

variable {front old new : Bytes} {start stop : Nat}

theorem copyFromSlice_patch (first : front.length = start)
    (last : start + old.length = stop) (same : new.length = old.length)
    (back : Bytes) :
    copyFromSlice (front ++ old ++ back) start stop new =
      .ok (front ++ new ++ back) := by
  have size : (front ++ old).length = stop := by
    rw [List.length_append, first, last]
  have fits : start ≤ stop ∧ stop ≤ (front ++ old ++ back).length ∧
      new.length = stop - start := by
    simp only [List.length_append] at size ⊢
    omega
  simp only [copyFromSlice, if_pos fits, List.drop_left' size]
  rw [List.append_assoc front old, List.take_left' first]

/-- The ServerHello with the public key at its offset. -/
theorem copyFromSlice_pubkey (sessionId pubkey : Bytes32) :
    copyFromSlice ([0x16, 0x03, 0x03, 0x00, 0x7a, 0x02, 0x00, 0x00, 0x76, 0x03,
        0x03] ++ List.replicate 32 0 ++ [0x20] ++ sessionId.val ++
        [0x13, 0x01, 0x00, 0x00, 0x2e, 0x00, 0x33, 0x00, 0x24, 0x00, 0x1d, 0x00,
          0x20] ++ List.replicate 32 0 ++ [0x00, 0x2b, 0x00, 0x02, 0x03, 0x04])
      89 121 pubkey =
      .ok ([0x16] ++ [0x03, 0x03] ++ [0x00, 0x7a] ++
        helloMessage (List.replicate 32 0) sessionId pubkey) := by
  have offset : ([0x16, 0x03, 0x03, 0x00, 0x7a, 0x02, 0x00, 0x00, 0x76, 0x03,
      0x03] ++ List.replicate 32 0 ++ [0x20] ++ sessionId.val ++
      [0x13, 0x01, 0x00, 0x00, 0x2e, 0x00, 0x33, 0x00, 0x24, 0x00, 0x1d, 0x00,
        0x20] : Bytes).length = 89 := by
    simp only [List.length_append, List.length_replicate, sessionId.property]
    rfl
  have stop : 89 + (List.replicate 32 0 : Bytes).length = 121 := rfl
  have same : pubkey.val.length = (List.replicate 32 0 : Bytes).length :=
    pubkey.property
  rw [copyFromSlice_patch offset stop same]
  simp only [helloMessage, helloBody, helloExtensions, keyShareEntry,
    List.append_assoc, List.cons_append, List.nil_append]

end Layout

theorem buildServerHello_eq (crypto : Primitives) (secret : Bytes)
    (clientRandom sessionId : Bytes32) (draws : HelloDraws 2100) :
    buildServerHello crypto secret clientRandom sessionId draws =
      .ok (serverFlight (crypto.hmacSha256 secret (clientRandom ++
          serverFlight (List.replicate 32 0) sessionId draws.pubkey
            draws.encryptedData)) sessionId draws.pubkey draws.encryptedData) := by
  have response : [0x16] ++ [0x03, 0x03] ++ [0x00, 0x7a] ++
        helloMessage (List.replicate 32 0) sessionId draws.pubkey ++ ccsFrame ++
        [0x17] ++ [0x03] ++ [0x03] ++ natToBe 2 draws.encryptedData.length ++
        draws.encryptedData =
      serverFlight (List.replicate 32 0) sessionId draws.pubkey
        draws.encryptedData := by
    simp only [serverFlight, ccsFrame, List.append_assoc, List.cons_append,
      List.nil_append]
  have stop : 11 + (List.replicate 32 0 : Bytes).length = 43 := rfl
  have signed {random : Bytes} (size : random.length = 32) :
      copyFromSlice (serverFlight (List.replicate 32 0) sessionId draws.pubkey
        draws.encryptedData) 11 43 random =
      .ok (serverFlight random sessionId draws.pubkey draws.encryptedData) := by
    simp only [serverFlight_eq]
    exact copyFromSlice_patch (show flightFront.length = 11 from rfl) stop size _
  simp only [buildServerHello, shPubkeyOff, shRandomOff, Nat.reduceAdd,
    copyFromSlice_pubkey, bind, Except.bind, response]
  exact signed (crypto.length_hmacSha256 secret _)

end TgWsProxy.Rust
