import TgWsProxy.ClientHello
import TgWsProxy.Obfuscation
import TgWsProxy.Lib.Program

/-!
# From the first byte to the handshake

What both implementations do with a new client until they have its handshake:
timed reads of exact sizes, and what they do about the bytes.
-/

namespace TgWsProxy

open Lib

/-- The reads, each of which has a time limit of its own. -/
inductive InitRead where
  | firstByte
  | recordHeader
  | recordBody
  | handshakeRest
  | handshakeInTls
deriving DecidableEq, Repr

/-- What a timed read of an exact number of bytes comes to.  A read which meets
the end of the stream or an error may have taken some bytes. -/
inductive TimedRead where
  | filled (bytes : Bytes)
  | ended (taken : Bytes)
  | failed (taken : Bytes)
  | elapsed
deriving DecidableEq, Repr

inductive InitOp where
  /-- The loop over the PROXY line. -/
  | proxyLine
  | read (step : InitRead) (count : Nat)
  | verifyClientHello (clientHello : Bytes)
  /-- The ServerHello is built, written and flushed. -/
  | serverHello (clientRandom sessionId : Bytes)
  /-- The response is written and flushed. -/
  | redirect (response : String)
  | proxyToMaskingDomain (clientHello : Bytes) (domain : String)
  | tryHandshake (handshake : Bytes)
  /-- `connections_bad` is incremented. -/
  | countBad
deriving DecidableEq, Repr

namespace InitOp

@[reducible] def Reply (Fault : Type) : InitOp → Type
  | .proxyLine | .serverHello _ _ | .redirect _ => Bool
  | .read _ _ => TimedRead
  | .verifyClientHello _ => Except Fault (Option HelloVerdict)
  | .tryHandshake _ => Except Fault (Option ClientRequest)
  | .proxyToMaskingDomain _ _ | .countBad => Unit

/-- A call which does something about the bytes of the client. -/
def Acts : InitOp → Bool
  | .proxyLine | .read _ _ => false
  | .verifyClientHello _ | .serverHello _ _ | .redirect _
  | .proxyToMaskingDomain _ _ | .tryHandshake _ | .countBad => true

end InitOp

abbrev InitProgram (Fault Result : Type) :=
  Program InitOp (InitOp.Reply Fault) Result

/-- Make a call. -/
abbrev initAct {Fault : Type} (op : InitOp) :
    InitProgram Fault (op.Reply Fault) :=
  Program.perform op

section ShortReads

variable {Fault : Type} {world : Surroundings InitOp (InitOp.Reply Fault)}

/-- What a read came to which did not get all its bytes. -/
def shortReply (performed : Program.Performed world) : Option TimedRead :=
  match performed with
  | ⟨_, .read _ _, result⟩ =>
      match result with
      | .filled _ => none
      | .ended taken => some (.ended taken)
      | .failed taken => some (.failed taken)
      | .elapsed => some .elapsed
  | _ => none

/-- The first read which did not get all its bytes, and the calls after it. -/
def shortRead : List (Program.Performed world) →
    Option (TimedRead × List (Program.Performed world))
  | [] => none
  | performed :: later =>
      match shortReply performed with
      | some result => some (result, later)
      | none => shortRead later

/-- Nothing is done about the bytes of the client after a read which did not
get all its bytes. -/
def LeavesShortRead (calls : List (Program.Performed world)) : Prop :=
  ∀ result later, shortRead calls = some (result, later) →
    ∀ performed ∈ later, performed.op.Acts = false

theorem shortRead_of_short {performed : Program.Performed world}
    {result : TimedRead} (later : List (Program.Performed world))
    (short : shortReply performed = some result) :
    shortRead (performed :: later) = some (result, later) := by
  rw [shortRead, short]

theorem shortRead_of_not_short {performed : Program.Performed world}
    (later : List (Program.Performed world))
    (whole : shortReply performed = none) :
    shortRead (performed :: later) = shortRead later := by
  rw [shortRead, whole]

end ShortReads

/-- The answer to a client which does not speak TLS. -/
def redirectResponse (masking : String) : String :=
  "HTTP/1.1 301 Moved Permanently\r\nLocation: https://" ++ masking ++
    "/\r\nContent-Length: 0\r\nConnection: close\r\n\r\n"

end TgWsProxy
