import TgWsProxy.Rust.Blacklist
import TgWsProxy.Python.Blacklist

/-!
# The WebSocket blacklist

In both implementations the blacklist holds the keys for which a session has
found redirects only, for as long as the run lasts, and a session which begins
with such a key does not ask for a WebSocket of its own DC.
-/

namespace TgWsProxy

open Lib

/-- In every state which any number of concurrent sessions reach.  Sessions of an
earlier run of the Python proxy may still record in a later one; where none does,
all that a listed key rests on has happened in the run itself. -/
theorem blacklists_sound (crypto : Primitives) :
    (∀ events, Handlers.BlacklistSound (Rust.handle crypto)
      (run (Handlers.step (Rust.handle crypto)) Handlers.initial events)) ∧
    (∀ events, Handlers.BlacklistSound (Python.handle crypto)
      (run (Python.runStep crypto) Handlers.initial events)) ∧
    ∀ events, AllSteps (Python.runStep crypto) Python.InOwnRun
        Handlers.initial events →
      let handlers := run (Python.runStep crypto) Handlers.initial events
      ∀ session ∈ handlers.sessions,
        session.RecordedRedirects handlers.run →
          ∀ call ∈ session.calls, call.run = handlers.run := by
  refine ⟨?_, ?_, ?_⟩
  · intro events
    have kept := @run_invariant _ _ (Handlers.step (Rust.handle crypto))
      Handlers.Kept
      (fun _ event kept => kept.step (Rust.handle_keepsProtocol crypto) event)
      _ events Handlers.initial_kept
    exact kept.blacklistSound (Rust.handle_keepsProtocol crypto)
  · intro events
    have kept := @run_invariant _ _ (Python.runStep crypto) Handlers.Kept
      (fun _ event kept => Python.kept_runStep crypto kept event) _ events
      Handlers.initial_kept
    exact kept.blacklistSound (Python.handle_keepsProtocol crypto)
  · intro events own handlers session member recorded call among
    have each : Python.OneRunEach handlers := by
      apply AllSteps.invariant _ _ own
      · exact fun _ _ each own => each.runStep crypto own
      · intro session member
        cases member
    obtain ⟨record, amongToo, inRun⟩ := recorded.1.exists_call
    rw [each session member call among record amongToo]
    exact inRun

end TgWsProxy
