import TgWsProxy.Python.ClientHello
import TgWsProxy.Python.RawWebSocket
import TgWsProxy.ServerHello

/-!
# The Python ServerHello

`build_server_hello` of `proxy/fake_tls.py`, which patches its fields into
`_SERVER_HELLO_TEMPLATE`.
-/

namespace TgWsProxy.Python

def tlsRandomLen : Nat := 32
def tlsSessionIdLen : Nat := 32
def tlsPubkeyLen : Nat := 32
/-- `_TLS_SH_RANDOM_OFF`, `_TLS_SH_SESSID_OFF` and `_TLS_SH_PUBKEY_OFF`. -/
def tlsShRandomOff : Nat := 11
def tlsShSessidOff : Nat := 44
def tlsShPubkeyOff : Nat := 89

def ccsFrame : Bytes := [0x14, 0x03, 0x03, 0x00, 0x01, 0x01]

def serverHelloTemplate : Bytes :=
  [0x16, 0x03, 0x03, 0x00, 0x7a] ++
  [0x02, 0x00, 0x00, 0x76] ++
  [0x03, 0x03] ++
  List.replicate tlsRandomLen 0 ++
  [UInt8.ofNat tlsSessionIdLen] ++
  List.replicate tlsSessionIdLen 0 ++
  [0x13, 0x01, 0x00] ++
  [0x00, 0x2e] ++
  [0x00, 0x33, 0x00, 0x24, 0x00, 0x1d, 0x00, 0x20] ++
  List.replicate tlsPubkeyLen 0 ++
  [0x00, 0x2b, 0x00, 0x02, 0x03, 0x04]

/-- `build_server_hello`.  `random.randint(1900, 2100)` may be 2100. -/
def buildServerHello (crypto : Primitives) (secret : Bytes)
    (clientRandom sessionId : Bytes32) (draws : HelloDraws 2101) :
    Except PyError Bytes := do
  let sh := serverHelloTemplate
  let sh := assignSlice sh tlsShSessidOff (tlsShSessidOff + tlsSessionIdLen)
    sessionId
  let sh := assignSlice sh tlsShPubkeyOff (tlsShPubkeyOff + tlsPubkeyLen)
    draws.pubkey
  let encryptedSize := draws.encryptedData.length
  let appRecord := [0x17, 0x03, 0x03] ++ (← structPack [(2, encryptedSize)]) ++
    draws.encryptedData
  let response := sh ++ ccsFrame ++ appRecord
  let hmacInput := clientRandom ++ response
  let serverRandom := crypto.hmacSha256 secret hmacInput
  return assignSlice response tlsShRandomOff (tlsShRandomOff + tlsRandomLen)
    serverRandom

section Layout

variable {front old back sessionId pubkey : Bytes} {start stop : Nat}

theorem assignSlice_patch (first : front.length = start)
    (last : start + old.length = stop) (new : Bytes) :
    assignSlice (front ++ old ++ back) start stop new =
      front ++ new ++ back := by
  have ordered : max start stop = stop := by omega
  have size : (front ++ old).length = stop := by
    rw [List.length_append, first, last]
  rw [assignSlice, ordered, List.drop_left' size, List.append_assoc front old,
    List.take_left' first]

/-- The template with a session id and a public key. -/
theorem template_patched (sessionSize : sessionId.length = 32)
    (pubkey : Bytes) :
    assignSlice (assignSlice serverHelloTemplate 44 76 sessionId) 89 121 pubkey =
      [0x16] ++ [0x03, 0x03] ++ [0x00, 0x7a] ++
        helloMessage (List.replicate 32 0) sessionId pubkey := by
  have zeros : (List.replicate 32 0 : Bytes).length = 32 :=
    List.length_replicate
  have template : serverHelloTemplate =
      (flightFront ++ List.replicate 32 0 ++ [0x20]) ++ List.replicate 32 0 ++
        ([0x13, 0x01, 0x00, 0x00, 0x2e, 0x00, 0x33, 0x00, 0x24, 0x00, 0x1d, 0x00,
            0x20] ++ List.replicate 32 0 ++
          [0x00, 0x2b, 0x00, 0x02, 0x03, 0x04]) :=
    rfl
  have idOffset : (flightFront ++ List.replicate 32 0 ++ [0x20]).length = 44 :=
    rfl
  have keyOffset : (flightFront ++ List.replicate 32 0 ++ [0x20] ++ sessionId ++
      [0x13, 0x01, 0x00, 0x00, 0x2e, 0x00, 0x33, 0x00, 0x24, 0x00, 0x1d, 0x00,
        0x20]).length = 89 := by
    simp only [List.length_append, zeros, sessionSize]
    rfl
  have idEnd : 44 + (List.replicate 32 0 : Bytes).length = 76 := rfl
  have keyEnd : 89 + (List.replicate 32 0 : Bytes).length = 121 := rfl
  rw [template, assignSlice_patch idOffset idEnd, ← List.append_assoc,
    ← List.append_assoc, assignSlice_patch keyOffset keyEnd]
  simp only [helloMessage, helloBody, helloExtensions, keyShareEntry,
    flightFront, List.append_assoc, List.cons_append, List.nil_append]

end Layout

theorem buildServerHello_eq (crypto : Primitives) (secret : Bytes)
    (clientRandom sessionId : Bytes32) (draws : HelloDraws 2101) :
    buildServerHello crypto secret clientRandom sessionId draws =
      .ok (serverFlight (crypto.hmacSha256 secret (clientRandom ++
          serverFlight (List.replicate 32 0) sessionId draws.pubkey
            draws.encryptedData)) sessionId draws.pubkey draws.encryptedData) := by
  have fits : draws.encryptedData.length < 256 ^ 2 :=
    Nat.lt_trans draws.small (by decide)
  have packed : structPack [(2, draws.encryptedData.length)] =
      .ok (natToBe 2 draws.encryptedData.length) := by
    simp only [structPack, if_pos fits, bind, Except.bind, pure, Except.pure,
      List.append_nil]
  have response : assignSlice (assignSlice serverHelloTemplate 44 76 sessionId)
        89 121 draws.pubkey ++ ccsFrame ++
      ([0x17, 0x03, 0x03] ++ natToBe 2 draws.encryptedData.length ++
        draws.encryptedData) =
      serverFlight (List.replicate 32 0) sessionId draws.pubkey
        draws.encryptedData := by
    rw [template_patched sessionId.property, serverFlight]
    rfl
  have randomEnd : 11 + (List.replicate 32 0 : Bytes).length = 43 := rfl
  have signed (random : Bytes) :
      assignSlice (serverFlight (List.replicate 32 0) sessionId draws.pubkey
        draws.encryptedData) 11 43 random =
      serverFlight random sessionId draws.pubkey draws.encryptedData := by
    rw [serverFlight_eq, assignSlice_patch (show flightFront.length = 11 from rfl)
      randomEnd,
      ← serverFlight_eq]
  simp only [buildServerHello, packed, bind, Except.bind, pure, Except.pure,
    tlsShSessidOff, tlsSessionIdLen, tlsShPubkeyOff, tlsPubkeyLen,
    tlsShRandomOff, tlsRandomLen, Nat.reduceAdd, response, signed]

end TgWsProxy.Python
