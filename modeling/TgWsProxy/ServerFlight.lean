import TgWsProxy.Python.ServerHello
import TgWsProxy.Rust.ServerHello

/-!
# The answers of the two builders

Both builders lay out the same answer around the random they compute, so what
is known of one answer is known of both.
-/

namespace TgWsProxy

theorem HelloDraws.fits {limit : Nat} (draws : HelloDraws limit)
    (bounded : limit ≤ 65536) : draws.encryptedData.length < 65536 :=
  Nat.lt_of_lt_of_le draws.small bounded

/-- Whatever is drawn, the answer of either builder is well formed and
signed. -/
theorem buildServerHello_signed (crypto : Primitives) (secret : Bytes)
    (clientRandom sessionId : Bytes32) :
    (∀ draws : HelloDraws 2100, ∃ result,
      Rust.buildServerHello crypto secret clientRandom sessionId draws =
        .ok result ∧
      SignedFlight crypto secret clientRandom sessionId result) ∧
    (∀ draws : HelloDraws 2101, ∃ result,
      Python.buildServerHello crypto secret clientRandom sessionId draws =
        .ok result ∧
      SignedFlight crypto secret clientRandom sessionId result) := by
  constructor
  · intro draws
    refine ⟨_, Rust.buildServerHello_eq crypto secret clientRandom sessionId
      draws, ?_⟩
    apply signedFlight
    exact draws.fits (by decide)
  · intro draws
    refine ⟨_, Python.buildServerHello_eq crypto secret clientRandom sessionId
      draws, ?_⟩
    apply signedFlight
    exact draws.fits (by decide)

end TgWsProxy
