import TgWsProxy.Rust.BridgeUpstream
import TgWsProxy.Rust.Handshake
import TgWsProxy.Rust.Session

/-!
# Packets on the WebSocket routes

`handle_client` makes the splitter of a pooled or new WebSocket for the
protocol of the client.  `do_fallback_tcp_ws` is not told the protocol, and
makes the splitters of both Cloudflare routes for the intermediate transport.
-/

namespace TgWsProxy.Rust

open Lib

/-- The routes on which a session splits the client's stream. -/
inductive WsRoute where
  | webSocket
  | cfWorker
  | cfProxy
deriving DecidableEq, Repr

/-- The protocol for which the splitter of a route is made. -/
def WsRoute.protoInt (route : WsRoute) (protoTag : Bytes) : UInt32 :=
  match route with
  | .webSocket => UInt32.ofNat (protoIntOfTag protoTag)
  | .cfWorker | .cfProxy => protoIntermediate

/-- The route of the transport which a call opens.  A WebSocket of Telegram is
asked for `/apiws`, and a CF proxy for the address. -/
def WsRoute.ofCall : SessionOp MsgSplitter → Option WsRoute
  | .find (.wsPool _ _ _ _) => some .webSocket
  | .find (.cfWorkerPool _ _ _) => some .cfWorker
  | .connect _ _ path _ => some (if path = "/apiws" then .webSocket else .cfProxy)
  | _ => none

/-- The transport which a reply names. -/
def openedBy : (op : SessionOp MsgSplitter) → op.Reply → Option Nat
  | .find _, transport => transport
  | .connect _ _ _ _, .ok transport => some transport
  | _, _ => none

/-- At a stage, the session has opened transports on these routes.  A bridge
which is started with a splitter has that of the route of its transport. -/
def routeProtocol (crypto : Primitives) (relayInit protoTag : Bytes) :
    Protocol (SessionOp MsgSplitter) SessionOp.Reply (List (Nat × WsRoute)) where
  allows routes op :=
    match op with
    | .bridge transport (some splitter) => ∃ route,
        routes.lookup transport = some route ∧
          MsgSplitter.new crypto relayInit (route.protoInt protoTag) =
            .ok splitter
    | _ => True
  next routes op reply :=
    match WsRoute.ofCall op, openedBy op reply with
    | some route, some transport => (transport, route) :: routes
    | _, _ => routes

section Routes

variable {crypto : Primitives} {relayInit protoTag : Bytes}
  {routes : List (Nat × WsRoute)} {route : WsRoute} {ws : Nat}

/-- The splitters of the program are those of the routes. -/
abbrev KeepsRoutes (crypto : Primitives) (relayInit protoTag : Bytes)
    {Result : Type} (program : SessionProgram MsgSplitter Result)
    (routes : List (Nat × WsRoute)) : Prop :=
  program.Obeys (routeProtocol crypto relayInit protoTag) (fun _ _ => True)
    routes

theorem splitAndBridge_keepsRoutes (opened : routes.lookup ws = some route) :
    KeepsRoutes crypto relayInit protoTag
      (splitAndBridge crypto relayInit (route.protoInt protoTag) ws) routes := by
  unfold splitAndBridge
  split
  · exact Program.Obeys.pure trivial
  · rename_i splitter made
    exact Program.Obeys.perform ⟨route, opened, made⟩ fun _ => trivial

theorem serveWebSocket_keepsRoutes
    (opened : routes.lookup ws = some .webSocket) :
    KeepsRoutes crypto relayInit protoTag
      (serveWebSocket crypto relayInit (WsRoute.webSocket.protoInt protoTag) ws)
      routes := by
  unfold serveWebSocket
  split
  · exact Program.Obeys.pure trivial
  · rename_i splitter made
    apply Program.Obeys.call trivial
    intro sent
    cases sent with
    | true =>
        exact Program.Obeys.perform ⟨.webSocket, opened, made⟩ fun _ => trivial
    | false => exact Program.Obeys.pure trivial

/-- The last part of both loops. -/
theorem sendInLoop_keepsRoutes (opened : routes.lookup ws = some route)
    (fallback : route.protoInt protoTag = protoIntermediate)
    {next : SessionProgram MsgSplitter Bool}
    (goesOn : KeepsRoutes crypto relayInit protoTag next routes) :
    KeepsRoutes crypto relayInit protoTag
      (do
        let sent ← act (.send ws relayInit)
        if sent then
          splitAndBridge crypto relayInit protoIntermediate ws
          return true
        else next) routes := by
  apply Program.Obeys.call trivial
  intro sent
  cases sent with
  | true =>
      apply Program.Obeys.bind (fallback ▸ splitAndBridge_keepsRoutes opened)
      intro _ _ _
      exact Program.Obeys.pure trivial
  | false => exact goesOn

theorem cfWorkerLoop_keepsRoutes (dc : Nat) (dst : String)
    (workerDomains : List String) :
    KeepsRoutes crypto relayInit protoTag
      (cfWorkerLoop crypto dc dst relayInit workerDomains) routes := by
  induction workerDomains generalizing routes with
  | nil => exact Program.Obeys.pure trivial
  | cons workerDomain workerDomains induction =>
      apply Program.Obeys.call trivial
      intro pooled
      cases pooled with
      | none => exact induction
      | some ws =>
          have opened : List.lookup ws ((ws, WsRoute.cfWorker) :: routes) =
              some .cfWorker := List.lookup_cons_self
          exact sendInLoop_keepsRoutes opened rfl induction

theorem cfProxyLoop_keepsRoutes {dst : String} (apart : "/" ++ dst ≠ "/apiws")
    (domains : List String) :
    KeepsRoutes crypto relayInit protoTag
      (cfProxyLoop crypto dst relayInit domains) routes := by
  induction domains generalizing routes with
  | nil => exact Program.Obeys.pure trivial
  | cons domain domains induction =>
      apply Program.Obeys.call trivial
      intro connected
      cases connected with
      | error error => exact induction
      | ok ws =>
          simp only [routeProtocol, WsRoute.ofCall, openedBy, if_neg apart]
          have opened : List.lookup ws ((ws, WsRoute.cfProxy) :: routes) =
              some .cfProxy := List.lookup_cons_self
          exact sendInLoop_keepsRoutes opened rfl induction

theorem tcpFallback_keepsRoutes (dst : String) :
    KeepsRoutes crypto relayInit protoTag (tcpFallback dst relayInit)
      routes := by
  apply Program.Obeys.call trivial
  intro connected
  cases connected with
  | none => exact Program.Obeys.pure trivial
  | some upStream =>
      apply Program.Obeys.call trivial
      intro sent
      cases sent with
      | false => exact Program.Obeys.pure trivial
      | true =>
          apply Program.Obeys.call trivial
          intro flushed
          cases flushed with
          | false => exact Program.Obeys.pure trivial
          | true => exact Program.Obeys.perform trivial fun _ => trivial

theorem doFallbackTcpWs_keepsRoutes (config : RouteConfig) (dc : Nat) :
    KeepsRoutes crypto relayInit protoTag
      (doFallbackTcpWs crypto config dc relayInit) routes := by
  unfold doFallbackTcpWs
  split
  · exact Program.Obeys.pure trivial
  · rename_i dst found
    apply Program.Obeys.bind (cfWorkerLoop_keepsRoutes dc dst _)
    intro settled routes _
    cases settled with
    | true => exact Program.Obeys.pure trivial
    | false =>
        simp only [Bool.false_eq_true, if_false, cfProxyOrTcp]
        split
        · apply Program.Obeys.call trivial
          intro domains
          apply Program.Obeys.bind
            (cfProxyLoop_keepsRoutes (slash_dst_ne found) domains)
          intro settled routes _
          cases settled with
          | true => exact Program.Obeys.pure trivial
          | false => exact tcpFallback_keepsRoutes dst
        · exact tcpFallback_keepsRoutes dst

/-- The WebSocket of a trial is one of Telegram. -/
def Direct (trial : ConnectTrial) (routes : List (Nat × WsRoute)) : Prop :=
  ∀ ws, trial.ws = some ws → routes.lookup ws = some .webSocket

theorem connectLoop_keepsRoutes (target : String) (timeout : Nat)
    (domains : List String) (wsFailedRedirect allRedirects : Bool) :
    (connectLoop target timeout domains wsFailedRedirect allRedirects).Obeys
      (routeProtocol crypto relayInit protoTag) Direct routes := by
  induction domains generalizing wsFailedRedirect allRedirects with
  | nil =>
      apply Program.Obeys.pure
      rintro ws ⟨⟩
  | cons domain domains induction =>
      apply Program.Obeys.call trivial
      intro connected
      cases connected with
      | ok ws =>
          apply Program.Obeys.pure
          rintro _ ⟨⟩
          exact List.lookup_cons_self
      | error error =>
          cases error with
          | redirect => exact induction true allRedirects
          | handshake => exact induction wsFailedRedirect false
          | other => exact induction wsFailedRedirect false

theorem poolOrConnect_keepsRoutes (dc : Nat) (isMedia : Bool) (target : String)
    (timeout : Nat) (domains : List String) :
    (poolOrConnect dc isMedia target timeout domains).Obeys
      (routeProtocol crypto relayInit protoTag) Direct routes := by
  apply Program.Obeys.call trivial
  intro pooled
  cases pooled with
  | some ws =>
      apply Program.Obeys.pure
      rintro _ ⟨⟩
      exact List.lookup_cons_self
  | none => exact connectLoop_keepsRoutes target timeout domains false true

/-- Whatever its calls come to, a session splits the stream on each route by
the protocol of the route. -/
theorem session_routeSplitters (config : RouteConfig)
    (request : ClientRequest) :
    KeepsRoutes crypto relayInit request.protoTag
      (handleClient crypto config request relayInit) [] := by
  unfold handleClient
  apply Program.Obeys.call trivial
  intro blacklisted
  split
  · exact doFallbackTcpWs_keepsRoutes config request.dc
  · split
    · exact doFallbackTcpWs_keepsRoutes config request.dc
    · apply Program.Obeys.call trivial
      intro now
      apply Program.Obeys.call trivial
      intro failUntil
      apply Program.Obeys.bind (poolOrConnect_keepsRoutes _ _ _ _ _)
      intro trial routes direct
      split
      · unfold afterFailedConnects
        split
        · exact Program.Obeys.call trivial fun _ =>
            doFallbackTcpWs_keepsRoutes config request.dc
        · exact Program.Obeys.call trivial fun _ =>
            doFallbackTcpWs_keepsRoutes config request.dc
      · rename_i ws found
        exact Program.Obeys.call trivial fun _ =>
          serveWebSocket_keepsRoutes (direct ws found)

end Routes

/-- Complete packets of the client's transport, whose abridged headers have one
byte. -/
structure ClientPackets (protoTag : Bytes) (packets : List Bytes) : Prop where
  complete : ∀ packet ∈ packets, packet ≠ [] ∧
    (transportFraming (protoIntOfTag protoTag)).packetLen packet =
      some packet.length
  oneByte : protoTag = protoTagAbridged → ∀ packet ∈ packets,
    ∀ first ∈ packet.head?, ¬ extendedMark first

/-- The splitter of the route reads the length of each packet. -/
def WsRoute.Announces (route : WsRoute) (protoTag : Bytes)
    (packets : List Bytes) : Prop :=
  ∀ packet ∈ packets, packet ≠ [] ∧
    (transportFraming (route.protoInt protoTag).toNat).packetLen packet =
      some packet.length

section Packets

variable {protoTag packet : Bytes} {packets : List Bytes}

theorem toNat_protoInt (protoTag : Bytes) :
    (WsRoute.webSocket.protoInt protoTag).toNat = protoIntOfTag protoTag := by
  change (UInt32.ofNat (protoIntOfTag protoTag)).toNat = protoIntOfTag protoTag
  unfold protoIntOfTag
  split
  · rfl
  · split
    · rfl
    · rfl

theorem packetLen_intermediate {proto : Nat}
    (intermediate : proto = protoIntermediateInt ∨
      proto = protoPaddedIntermediateInt) (stream : Bytes) :
    (transportFraming proto).packetLen stream = intermediateLen stream := by
  have notAbridged : proto ≠ protoAbridgedInt := by
    rcases intermediate with rfl | rfl
    · decide
    · decide
  simp only [transportFraming, if_neg notAbridged, if_pos intermediate]

theorem protoIntOfTag_of_not_abridged (notAbridged : protoTag ≠ protoTagAbridged) :
    protoIntOfTag protoTag = protoIntermediateInt ∨
      protoIntOfTag protoTag = protoPaddedIntermediateInt := by
  unfold protoIntOfTag
  rw [if_neg notAbridged]
  split
  · exact Or.inl rfl
  · exact Or.inr rfl

theorem packetLen_fallback {route : WsRoute} (fallback : route ≠ .webSocket)
    (protoTag stream : Bytes) :
    (transportFraming (route.protoInt protoTag).toNat).packetLen stream =
      intermediateLen stream := by
  apply packetLen_intermediate
  left
  cases route with
  | webSocket => exact absurd rfl fallback
  | cfWorker => rfl
  | cfProxy => rfl

/-- The splitter of the Cloudflare routes is the right one, unless the client
speaks the abridged transport. -/
theorem ClientPackets.announces_iff (client : ClientPackets protoTag packets)
    (route : WsRoute) :
    route.Announces protoTag packets ↔
      route = .webSocket ∨ protoTag ≠ protoTagAbridged ∨
        ∀ packet ∈ packets, intermediateLen packet = some packet.length := by
  by_cases direct : route = .webSocket
  · subst direct
    refine iff_of_true ?_ (Or.inl rfl)
    unfold WsRoute.Announces
    rw [toNat_protoInt]
    exact client.complete
  · have announced : route.Announces protoTag packets ↔
        ∀ packet ∈ packets, intermediateLen packet = some packet.length := by
      unfold WsRoute.Announces
      simp only [packetLen_fallback direct]
      constructor
      · intro announces packet member
        exact (announces packet member).2
      · intro announces packet member
        exact ⟨(client.complete packet member).1, announces packet member⟩
    by_cases abridged : protoTag = protoTagAbridged
    · rw [announced]
      simp only [direct, abridged, ne_eq, not_true_eq_false, false_or]
    · refine iff_of_true (announced.mpr ?_) (Or.inr (Or.inl abridged))
      intro packet member
      have complete := (client.complete packet member).2
      rwa [packetLen_intermediate (protoIntOfTag_of_not_abridged abridged)]
        at complete

/-- An abridged packet with a header of one byte. -/
theorem ClientPackets.abridged (client : ClientPackets protoTag packets)
    (abridged : protoTag = protoTagAbridged) (member : packet ∈ packets) :
    ∃ first rest, packet = first :: rest ∧ ¬ extendedMark first ∧
      rest.length = first.toNat % 128 * 4 ∧ rest ≠ [] := by
  obtain ⟨nonempty, complete⟩ := client.complete packet member
  have short := client.oneByte abridged packet member
  cases packet with
  | nil => exact absurd rfl nonempty
  | cons first rest =>
      have notExtended : ¬ extendedMark first := short first rfl
      have masked : (first &&& 0x7F).toNat = first.toNat % 128 := by
        rw [UInt8.toNat_and]
        exact Nat.and_two_pow_sub_one_eq_mod first.toNat 7
      have framing : (transportFraming (protoIntOfTag protoTag)).packetLen =
          abridgedLen := by
        apply abridged_packetLen
        rw [abridged]
        rfl
      simp only [framing, abridgedLen, if_neg notExtended, masked, packetLenOf,
        List.length_cons, Option.some.injEq] at complete
      refine ⟨first, rest, rfl, notExtended, ?_, ?_⟩
      · split at complete
        · omega
        · omega
      · rintro rfl
        split at complete
        · cases complete
        · simp only [List.length_nil] at complete
          omega

theorem ClientPackets.readable (client : ClientPackets protoTag packets)
    (abridged : protoTag = protoTagAbridged) (member : packet ∈ packets) :
    0 < packet.length ∧ packet.length ≤ 65536 := by
  obtain ⟨first, rest, rfl, -, size, -⟩ := client.abridged abridged member
  rw [List.length_cons]
  omega

theorem ClientPackets.not_longHeader (client : ClientPackets protoTag packets)
    (abridged : protoTag = protoTagAbridged) (member : packet ∈ packets) :
    longHeader packet = false := by
  obtain ⟨first, rest, rfl, notExtended, -, -⟩ :=
    client.abridged abridged member
  simp [longHeader_cons, notExtended]

/-- Read as an intermediate header, the first bytes of an abridged packet never
announce a length of zero. -/
theorem ClientPackets.intermediateLen_ne_zero
    (client : ClientPackets protoTag packets)
    (abridged : protoTag = protoTagAbridged) (member : packet ∈ packets) :
    intermediateLen packet ≠ some 0 := by
  obtain ⟨first, rest, rfl, -, size, nonempty⟩ :=
    client.abridged abridged member
  have positive := List.length_pos_of_ne_nil nonempty
  rcases rest with _ | ⟨b1, _ | ⟨b2, _ | ⟨b3, rest⟩⟩⟩
  · simp [intermediateLen]
  · simp [intermediateLen]
  · simp [intermediateLen]
  · rw [intermediateLen, ne_eq, Option.some.injEq, packetLenOf_eq_zero]
    intro zero
    simp only [leNat] at zero
    omega

end Packets

section Streams

variable {crypto : Primitives} {secret handshake relayInit : Bytes}
  {protoTag : Bytes} {packets : List Bytes} {overflowChecks : Bool}

/-- The splitter meets no long header, and the counters do not overflow. -/
theorem ClientPackets.cutsStream (client : ClientPackets protoTag packets)
    (route : WsRoute)
    (counted : overflowChecks = true → packets.flatten.length < 2 ^ 64) :
    ReadingBridge.CutsStream crypto
      (sessionCiphers crypto secret handshake relayInit) relayInit
      (route.protoInt protoTag) overflowChecks
      (clientUpstream crypto secret handshake packets.flatten) := by
  have size : (clientUpstream crypto secret handshake
      packets.flatten).length = packets.flatten.length :=
    crypto.length_ctrXor _ _ _ _
  refine ⟨?_, by rwa [size]⟩
  rintro ⟨abridgedRoute, packet, member, long⟩
  rw [Python.MsgSplitter.parseFed, relayPlain_reencryptedUp crypto secret
    handshake relayInit (List.prefix_refl _), size, List.take_length] at member
  by_cases direct : route = .webSocket
  · subst direct
    rw [toNat_protoInt] at abridgedRoute
    have abridged : protoTag = protoTagAbridged := by
      by_contra other
      rcases protoIntOfTag_of_not_abridged other with proto | proto
      · rw [proto] at abridgedRoute
        cases abridgedRoute
      · rw [proto] at abridgedRoute
        cases abridgedRoute
    rw [toNat_protoInt, Framing.parse_flatten _ client.complete] at member
    rcases List.mem_append.mp member with among | rest
    · rw [client.not_longHeader abridged among] at long
      cases long
    · rw [List.mem_singleton.mp rest] at long
      cases long
  · cases route with
    | webSocket => exact direct rfl
    | cfWorker => cases abridgedRoute
    | cfProxy => cases abridgedRoute

end Streams

/-- The packets which have been read completely were sent, each alone in one
binary frame. -/
def ReadingBridge.SendsPackets (crypto : Primitives) (relayInit : Bytes)
    (packets : List Bytes) (s : ReadingBridge) : Prop :=
  completeBy s.read.length packets <+:
    relayPlainEach crypto relayInit s.bridge.ws.binaryPayloads

/-- The clause for one route: whatever the client reads, Telegram and the
network do, as long as the sends succeed. -/
def WsRoute.SplitsByProtocol (route : WsRoute) (crypto : Primitives)
    (overflowChecks : Bool) (secret handshake relayInit : Bytes)
    (request : ClientRequest) (packets : List Bytes) : Prop :=
  ∃ session splitter,
    buildCryptoCtx crypto request.decPrekeyIv secret relayInit = .ok session ∧
    MsgSplitter.new crypto relayInit (route.protoInt request.protoTag) =
      .ok splitter ∧
    ∀ incoming events, (∀ event ∈ events, BridgeEvent.Sends event) →
      let s := run (ReadingBridge.step crypto overflowChecks)
        (ReadingBridge.start session splitter incoming) events
      s.read <+: clientUpstream crypto secret handshake packets.flatten →
        s.SendsPackets crypto relayInit packets

section Forwarding

variable {crypto : Primitives} {secret handshake relayInit : Bytes}
  {protoTag packet : Bytes} {packets front back : List Bytes}
  {overflowChecks : Bool} {route : WsRoute} {splitter : MsgSplitter}
  {s : ReadingBridge}

/-- What was parsed of the packets so far. -/
theorem parseFed_of_read (proto : Nat) {read plain : Bytes}
    (isPrefix : read <+: clientUpstream crypto secret handshake plain) :
    Python.MsgSplitter.parseFed crypto relayInit proto (reencryptedUp crypto
      (sessionCiphers crypto secret handshake relayInit) read) =
        (transportFraming proto).parse (plain.take read.length) := by
  rw [Python.MsgSplitter.parseFed,
    relayPlain_reencryptedUp crypto secret handshake relayInit isPrefix]

/-- A splitter which reads the length of each packet cuts them all. -/
theorem sendsPackets_of_announces
    (announces : route.Announces protoTag packets)
    (cut : ReadingBridge.UpCut crypto
      (sessionCiphers crypto secret handshake relayInit) relayInit
      (route.protoInt protoTag) overflowChecks splitter s)
    (isPrefix : s.read <+:
      clientUpstream crypto secret handshake packets.flatten) :
    s.SendsPackets crypto relayInit packets := by
  have sent := cut.follows.packets_isPrefix
  have size : s.read.length ≤ packets.flatten.length := by
    have shorter := isPrefix.length_le
    rwa [clientUpstream, crypto.length_ctrXor] at shorter
  have complete := (transportFraming
    (route.protoInt protoTag).toNat).completeBy_parse
      (packets.flatten.take s.read.length) (packets.flatten.drop s.read.length)
  rw [List.take_append_drop, Framing.parse_flatten _ announces,
    List.length_take, Nat.min_eq_left size] at complete
  rw [parseFed_of_read _ isPrefix, ← complete] at sent
  exact sent

/-- A packet which was sent alone after others has announced its length. -/
theorem announced_of_sent {proto : Nat} {fed : Bytes} {returned : List Bytes}
    {splitter : Python.MsgSplitter}
    (follows : Python.MsgSplitter.Follows crypto relayInit proto fed returned
      splitter)
    (parsed : Python.MsgSplitter.parseFed crypto relayInit proto fed =
      (transportFraming proto).parse (front.flatten ++ packet))
    (announced : ∀ packet ∈ front, packet ≠ [] ∧
      (transportFraming proto).packetLen packet = some packet.length)
    (nonzero : (transportFraming proto).packetLen packet ≠ some 0)
    (sent : front ++ [packet] <+: relayPlainEach crypto relayInit returned) :
    (transportFraming proto).packetLen packet = some packet.length := by
  have begun := follows.packets_isPrefix
  have resumed := (transportFraming proto).parse_append front.flatten packet
  rw [Framing.parse_flatten _ announced, Framing.resume_of_running _ _ rfl,
    List.nil_append] at resumed
  rw [parsed, resumed] at begun
  -- A packet which is not complete is not sent.
  have complete (held : (transportFraming proto).parse packet =
      ⟨[], packet, false⟩) : False := by
    have enabled : splitter.disabled = false := by
      cases disabled : splitter.disabled with
      | false => rfl
      | true =>
          have stopped := (follows.passing disabled).2.2.1
          rw [parsed, resumed, held] at stopped
          cases stopped
    obtain ⟨-, -, -, same⟩ := follows.running enabled
    rw [same, parsed, resumed, held] at sent
    simp only [List.append_nil] at sent
    have longer := sent.length_le
    rw [List.length_append, List.length_singleton] at longer
    omega
  rcases (transportFraming proto).step_cases packet with
    none | zero | ⟨len, announced, short⟩ |
      ⟨len, announced, positive, available⟩
  · exact absurd (Framing.parse_of_none _ none) complete
  · exact absurd zero nonzero
  · exact absurd (Framing.parse_of_short _ announced short) complete
  · rw [Framing.parse_of_packet _ announced positive available] at begun
    have ordered := List.prefix_of_prefix_length_le sent begun (by simp)
    rw [List.prefix_append_right_inj, List.cons_prefix_cons] at ordered
    have whole := congrArg List.length ordered.1
    rw [List.length_take, Nat.min_eq_left available] at whole
    rw [announced, whole]

/-- The client's packets, each in a read of its own. -/
def packetReads (crypto : Primitives) (secret handshake : Bytes)
    (packets : List Bytes) : List BridgeEvent :=
  (crypto.ctrXorEach (crypto.sha256 (headerKey handshake ++ secret))
    (headerIv handshake) 64 packets).map (.clientRead · none)

theorem packetReads_sends :
    ∀ event ∈ packetReads crypto secret handshake packets, event.Sends := by
  intro event member
  obtain ⟨chunk, -, rfl⟩ := List.mem_map.mp member
  rfl

theorem clientUpstream_append (left right : Bytes) :
    clientUpstream crypto secret handshake (left ++ right) =
      clientUpstream crypto secret handshake left ++
        crypto.ctrXor (crypto.sha256 (headerKey handshake ++ secret))
          (headerIv handshake) (64 + left.length) right :=
  crypto.ctrXor_append _ _ _ _ _

theorem clientUpstream_isPrefix (left right : Bytes) :
    clientUpstream crypto secret handshake left <+:
      clientUpstream crypto secret handshake (left ++ right) := by
  rw [clientUpstream_append]
  exact List.prefix_append _ _

theorem packetReads_append (front : List Bytes) (packet : Bytes) :
    packetReads crypto secret handshake (front ++ [packet]) =
      packetReads crypto secret handshake front ++
        [.clientRead (crypto.ctrXor
          (crypto.sha256 (headerKey handshake ++ secret)) (headerIv handshake)
          (64 + front.flatten.length) packet) none] := by
  rw [packetReads, crypto.ctrXorEach_append, List.map_append]
  rfl

/-- The bridge has read exactly these packets, and its splitter has read the
length of each. -/
structure PacketsRead (crypto : Primitives) (secret handshake : Bytes)
    (route : WsRoute) (protoTag : Bytes) (front : List Bytes)
    (s : ReadingBridge) : Prop where
  running : s.bridge.status = .running
  read : s.read = clientUpstream crypto secret handshake front.flatten
  announces : route.Announces protoTag front

/-- One more packet in a read of its own.  If it is sent, the bridge goes on,
and the splitter has read its length. -/
theorem PacketsRead.next {chunk : Bytes}
    (before : PacketsRead crypto secret handshake route protoTag front s)
    (cut : ReadingBridge.UpCut crypto
      (sessionCiphers crypto secret handshake relayInit) relayInit
      (route.protoInt protoTag) overflowChecks splitter s)
    (encrypted : chunk = crypto.ctrXor
      (crypto.sha256 (headerKey handshake ++ secret)) (headerIv handshake)
      (64 + front.flatten.length) packet)
    (readable : 0 < packet.length ∧ packet.length ≤ 65536)
    (nonzero : (transportFraming (route.protoInt protoTag).toNat).packetLen
      packet ≠ some 0)
    (cuts : ReadingBridge.CutsStream crypto
      (sessionCiphers crypto secret handshake relayInit) relayInit
      (route.protoInt protoTag) overflowChecks (clientUpstream crypto secret
        handshake (front ++ [packet]).flatten))
    (sends : (s.step crypto overflowChecks (.clientRead chunk none)).read =
        clientUpstream crypto secret handshake (front ++ [packet]).flatten →
      (s.step crypto overflowChecks (.clientRead chunk none)).SendsPackets
        crypto relayInit (front ++ [packet] ++ back)) :
    PacketsRead crypto secret handshake route protoTag (front ++ [packet])
      (s.step crypto overflowChecks (.clientRead chunk none)) := by
  have chunkSize : chunk.length = packet.length := by
    rw [encrypted, crypto.length_ctrXor]
  have chunkReadable : Bridge.Readable chunk := by
    unfold Bridge.Readable
    rwa [chunkSize]
  have flattened : (front ++ [packet]).flatten = front.flatten ++ packet := by
    rw [List.flatten_append, List.flatten_singleton]
  have readNext : s.read ++ chunk =
      clientUpstream crypto secret handshake (front ++ [packet]).flatten := by
    rw [flattened, before.read, encrypted, clientUpstream_append]
  have nextSize : (s.read ++ chunk).length =
      (front ++ [packet]).flatten.length := by
    rw [readNext, clientUpstream, crypto.length_ctrXor]
  rw [← readNext] at cuts sends
  obtain ⟨next, cutNext, status⟩ :=
    cut.clientRead before.running chunkReadable cuts.harmless cuts.fits
  have read : (s.step crypto overflowChecks (.clientRead chunk none)).read =
      s.read ++ chunk := if_pos ⟨before.running, chunkReadable⟩
  have sent : front ++ [packet] <+: relayPlainEach crypto relayInit
      (s.step crypto overflowChecks
        (.clientRead chunk none)).bridge.ws.binaryPayloads := by
    apply (List.prefix_append (front ++ [packet]) _).trans
    have all := sends read
    unfold ReadingBridge.SendsPackets at all
    rwa [read, completeBy_append (Nat.le_of_eq nextSize.symm)] at all
  refine ⟨?_, read.trans readNext, ?_⟩
  · rcases status with goesOn | same
    · exact goesOn
    · -- Nothing was sent of the chunk.
      have longer := sent.flatten.length_le
      rw [same, relayPlainEach, crypto.flatten_ctrXorEach,
        crypto.length_ctrXor, ← nextSize, List.length_append] at longer
      have bound := cut.length_payloads
      omega
  · have announced := announced_of_sent cutNext.follows (by
      rw [read, readNext, parseFed_of_read _ (List.prefix_refl _),
        clientUpstream, crypto.length_ctrXor, List.take_length, flattened])
      before.announces nonzero sent
    intro other among
    rcases List.mem_append.mp among with early | last
    · exact before.announces other early
    · rw [List.mem_singleton.mp last]
      exact ⟨List.ne_nil_of_length_pos readable.1, announced⟩

/-- If every run sends the packets, the splitter of the route has read the
length of each. -/
theorem announces_of_splits {request : ClientRequest}
    (keys : request.decPrekeyIv = slice handshake 8 56)
    (handshakeSize : 56 ≤ handshake.length) (relaySize : 56 ≤ relayInit.length)
    (readable : ∀ packet ∈ packets, 0 < packet.length ∧ packet.length ≤ 65536)
    (nonzero : ∀ packet ∈ packets,
      (transportFraming (route.protoInt request.protoTag).toNat).packetLen
        packet ≠ some 0)
    (cuts : ReadingBridge.CutsStream crypto
      (sessionCiphers crypto secret handshake relayInit) relayInit
      (route.protoInt request.protoTag) overflowChecks
      (clientUpstream crypto secret handshake packets.flatten))
    (splits : route.SplitsByProtocol crypto overflowChecks secret handshake
      relayInit request packets) :
    route.Announces request.protoTag packets := by
  obtain ⟨session, splitter, ciphers, made, always⟩ := splits
  rw [keys, buildCryptoCtx_eq crypto secret handshakeSize relaySize] at ciphers
  cases ciphers
  -- Along the packets which have been read.
  suffices along : ∀ front back, packets = front ++ back →
      PacketsRead crypto secret handshake route request.protoTag front
        (run (ReadingBridge.step crypto overflowChecks)
          (ReadingBridge.start
            (sessionCiphers crypto secret handshake relayInit) splitter [])
          (packetReads crypto secret handshake front)) from
    (along packets [] (List.append_nil packets).symm).announces
  intro front
  induction front using List.reverseRecOn with
  | nil =>
      intro back split
      refine ⟨rfl, rfl, ?_⟩
      intro packet member
      cases member
  | append_singleton front packet induction =>
      intro back split
      have member : packet ∈ packets := by
        rw [split]
        simp
      have shifted : packets = front ++ (packet :: back) := by
        rw [split, List.append_assoc]
        rfl
      have before := induction (packet :: back) shifted
      have isPrefix : clientUpstream crypto secret handshake
          (front ++ [packet]).flatten <+:
            clientUpstream crypto secret handshake packets.flatten := by
        rw [split, @List.flatten_append _ (front ++ [packet]) back]
        exact clientUpstream_isPrefix _ _
      have frontPrefix := (@clientUpstream_isPrefix crypto secret handshake
        front.flatten packet).trans (by simpa using isPrefix)
      rw [← before.read] at frontPrefix
      obtain ⟨current, cut⟩ := ReadingBridge.run_upCut [] relaySize made cuts
        packetReads_sends frontPrefix
      have sends := always [] (packetReads crypto secret handshake
        (front ++ [packet])) packetReads_sends
      rw [packetReads_append, run_append, run_cons, run_nil] at sends ⊢
      apply before.next cut rfl (readable packet member) (nonzero packet member)
        (cuts.of_isPrefix isPrefix)
      intro read
      rw [← split]
      apply sends
      rw [read]
      exact isPrefix

end Forwarding

/-- Every route sends each packet alone, except that the Cloudflare routes send
abridged packets alone only if each reads as a whole intermediate packet. -/
theorem splitsByProtocol_iff (crypto : Primitives) (overflowChecks : Bool)
    {handshake secret relayInit : Bytes} {request : ClientRequest}
    (route : WsRoute) {packets : List Bytes}
    (handshakeSize : handshake.length = 64)
    (accepted : tryHandshake crypto handshake secret = .ok (some request))
    (relaySize : relayInit.length = 64)
    (client : ClientPackets request.protoTag packets)
    (counted : overflowChecks = true → packets.flatten.length < 2 ^ 64) :
    route.SplitsByProtocol crypto overflowChecks secret handshake relayInit
        request packets ↔
      route = .webSocket ∨ request.protoTag ≠ protoTagAbridged ∨
        ∀ packet ∈ packets, intermediateLen packet = some packet.length := by
  rw [tryHandshake_eq crypto secret handshakeSize, Except.ok.injEq] at accepted
  obtain ⟨-, request_eq⟩ := requestOf_eq_some accepted
  have keys : request.decPrekeyIv = slice handshake 8 56 := by
    rw [request_eq]
  have cuts := @ClientPackets.cutsStream crypto secret handshake relayInit
    request.protoTag packets overflowChecks client route counted
  constructor
  · intro splits
    by_cases right : route = .webSocket ∨ request.protoTag ≠ protoTagAbridged
    · rcases right with direct | notAbridged
      · exact Or.inl direct
      · exact Or.inr (Or.inl notAbridged)
    · obtain ⟨fallback, abridged⟩ := not_or.mp right
      have abridged := not_not.mp abridged
      have nonzero : ∀ packet ∈ packets,
          (transportFraming (route.protoInt request.protoTag).toNat).packetLen
            packet ≠ some 0 := by
        intro packet member
        rw [packetLen_fallback fallback]
        exact client.intermediateLen_ne_zero abridged member
      rw [← client.announces_iff route]
      exact announces_of_splits keys (by omega) (by omega)
        (fun packet => client.readable abridged) nonzero cuts splits
  · intro condition
    have announces := (client.announces_iff route).mpr condition
    have ciphers := @buildCryptoCtx_eq crypto handshake relayInit secret
      (by omega) (by omega)
    obtain ⟨splitter, made, -, -⟩ := @MsgSplitter.new_eq crypto relayInit
      (route.protoInt request.protoTag) (by omega)
    rw [← keys] at ciphers
    refine ⟨_, splitter, ciphers, made, ?_⟩
    intro incoming events sends s isPrefix
    obtain ⟨current, cut⟩ := @ReadingBridge.run_upCut crypto _ relayInit _ _ _ _
      incoming (by omega) made cuts events sends isPrefix
    exact sendsPackets_of_announces announces cut isPrefix

/-- The recorded handshake with the tag of the abridged transport. -/
def abridgedHandshake : Bytes :=
  recordedHandshake.take 56 ++ natToBe 8 0x4d85959f47f793db

def abridgedRequest : ClientRequest :=
  ⟨2, true, protoTagAbridged, slice abridgedHandshake 8 56⟩

def abridgedPacket : Bytes := [0x01, 0x0a, 0x0b, 0x0c, 0x0d]

theorem abridgedPacket_client :
    ClientPackets protoTagAbridged [abridgedPacket] := by
  constructor
  · decide +kernel
  · decide +kernel

theorem splitsByProtocol_iff_recorded :
    WsRoute.cfProxy.SplitsByProtocol recordedCrypto true recordedSecret
        abridgedHandshake recordedDraw abridgedRequest [abridgedPacket] ↔
      WsRoute.cfProxy = .webSocket ∨
        abridgedRequest.protoTag ≠ protoTagAbridged ∨
          ∀ packet ∈ [abridgedPacket],
            intermediateLen packet = some packet.length :=
  splitsByProtocol_iff recordedCrypto true .cfProxy (by decide +kernel)
    (by decide +kernel) (by decide +kernel) abridgedPacket_client
    (fun _ => by decide)

/-- The packet 01 0A 0B 0C 0D is held back on the route of the CF workers. -/
theorem abridgedPacket_held_back :
    tryHandshake recordedCrypto abridgedHandshake recordedSecret =
        .ok (some abridgedRequest) ∧
      ClientPackets abridgedRequest.protoTag [abridgedPacket] ∧
      ¬ WsRoute.cfWorker.SplitsByProtocol recordedCrypto false recordedSecret
        abridgedHandshake recordedDraw abridgedRequest [abridgedPacket] := by
  refine ⟨by decide +kernel, abridgedPacket_client, ?_⟩
  rintro ⟨session, splitter, ciphers, made, always⟩
  have nothing : (buildCryptoCtx recordedCrypto abridgedRequest.decPrekeyIv
        recordedSecret recordedDraw).bind (fun session =>
      (MsgSplitter.new recordedCrypto recordedDraw (WsRoute.cfWorker.protoInt
        abridgedRequest.protoTag)).map fun splitter =>
          let s := run (ReadingBridge.step recordedCrypto false)
            (ReadingBridge.start session splitter [])
            (packetReads recordedCrypto recordedSecret abridgedHandshake
              [abridgedPacket])
          (s.read, s.bridge.ws.binaryPayloads)) =
      .ok (clientUpstream recordedCrypto recordedSecret abridgedHandshake
        abridgedPacket, []) := by
    decide +kernel
  rw [ciphers, made] at nothing
  obtain ⟨read, payloads⟩ := Prod.mk.inj (Except.ok.inj nothing)
  have sent := always [] (packetReads recordedCrypto recordedSecret
    abridgedHandshake [abridgedPacket]) packetReads_sends
      (by rw [read]; exact List.prefix_refl _)
  unfold ReadingBridge.SendsPackets at sent
  rw [read, payloads] at sent
  cases List.prefix_nil.mp sent

end TgWsProxy.Rust
