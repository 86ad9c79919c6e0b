import TgWsProxy.Python.Session
import TgWsProxy.Rust.Session

/-!
# One bridge for each session

Both implementations try up to five kinds of transport with one set of ciphers
and one client stream.  Whichever attempts fail, and wherever they fail, the
bridge which is started at last finds both untouched.
-/

namespace TgWsProxy

open Lib

/-- At every moment of a session, whatever its lookups, connections and sends
have come to. -/
theorem sessions_bridge_once (crypto : Primitives) (config : RouteConfig)
    (request : ClientRequest) (relayInit : Bytes) (ctx : CryptoCtx)
    (wsBlacklist : List String) (dcFailUntil : List (String × Nat))
    (count : Nat) :
    (∀ outcomes, OneBridge ctx relayInit
      ((Python.handleClient crypto config request relayInit).stateAfter
        (sessionWorld Python.MsgSplitter) outcomes
        (SessionState.start ctx wsBlacklist dcFailUntil) count)) ∧
    ∀ outcomes, OneBridge ctx relayInit
      ((Rust.handleClient crypto config request relayInit).stateAfter
        (sessionWorld Rust.MsgSplitter) outcomes
        (SessionState.start ctx wsBlacklist dcFailUntil) count) := by
  constructor
  · intro outcomes
    exact (Python.meets_handleClient crypto
      (start_fresh ctx wsBlacklist dcFailUntil) config request).stateAfter
        outcomes count
  · intro outcomes
    exact (Rust.meets_handleClient crypto
      (start_fresh ctx wsBlacklist dcFailUntil) config request).stateAfter
        outcomes count

end TgWsProxy
