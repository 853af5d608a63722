import CtpSystem.Server.MarketTables

/-!
# Connections and their read loops

Each accepted connection has a read loop of its own: it reads a length and a payload,
parses an envelope and handles it, until the stream ends or something fails.  The bytes of
a connection and the way its stream ends are fixed when it is accepted; when each loop
gets to read is open.
-/

namespace CtpSystem

open Reactive

/-! ## Frames -/

/-- What a reader will still deliver, and the error after it, if it does not just end. -/
structure ByteStream where
  bytes : List UInt8
  failure : Option String
  deriving DecidableEq

/-- Errors of `read_exact`. -/
inductive ReadError where
  | unexpectedEof
  | other (message : String)
  deriving DecidableEq

/-- `read_exact` for a number of bytes: a stream that ends too early is an error. -/
def ByteStream.readExact (stream : ByteStream) (count : Nat) :
    Except ReadError (List UInt8 × ByteStream) :=
  if count ≤ stream.bytes.length then
    .ok (stream.bytes.take count, { stream with bytes := stream.bytes.drop count })
  else
    match stream.failure with
    | none => .error .unexpectedEof
    | some message => .error (.other message)

/-- `u32::from_be_bytes`. -/
def fromBeBytes (bytes : List UInt8) : Nat :=
  bytes.foldl (fun value byte => value * 256 + byte.toNat) 0

/-- What one iteration of `read_loop` reads. -/
inductive FrameRead where
  | envelope (envelope : Envelope) (rest : ByteStream)
  | disconnected
  | failed (message : String)

/-- `UnexpectedEof` displayed as an error. -/
def ReadError.message : ReadError → String
  | .unexpectedEof => "early eof"
  | .other message => message

/-- The reading part of `read_loop`: only the end of the stream where a length is due
counts as the client's disconnection.  `fromSlice` parses a payload. -/
def readFrame (fromSlice : List UInt8 → Except String Envelope) (stream : ByteStream) :
    FrameRead :=
  match stream.readExact 4 with
  | .error .unexpectedEof => .disconnected
  | .error (.other message) => .failed message
  | .ok (lenBuf, stream) =>
      let len := fromBeBytes lenBuf
      if len > 16 * 1024 * 1024 then .failed ("frame too large: " ++ toString len)
      else
        match stream.readExact len with
        | .error error => .failed error.message
        | .ok (buf, stream) =>
            match fromSlice buf with
            | .error message => .failed message
            | .ok envelope => .envelope envelope stream

/-- `u32::to_be_bytes`. -/
def toBeBytes (value : Nat) : List UInt8 :=
  [value / (256 * 256 * 256), value / (256 * 256), value / 256, value].map UInt8.ofNat

theorem fromBeBytes_toBeBytes {value : Nat} (small : value < 256 * 256 * 256 * 256) :
    fromBeBytes (toBeBytes value) = value := by
  simp [fromBeBytes, toBeBytes]
  omega

/-- The frame of a payload, as `write_loop` and the client write it. -/
def frame (payload : List UInt8) : List UInt8 :=
  toBeBytes payload.length ++ payload

theorem readExact_append (taken rest : List UInt8) (failure : Option String) :
    ByteStream.readExact ⟨taken ++ rest, failure⟩ taken.length =
      .ok (taken, ⟨rest, failure⟩) := by
  simp [ByteStream.readExact]

/-! ## Connections -/

/-- An accepted connection: the variables of its read loop, whether the loop still runs,
and whether the client has hung up. -/
structure Connection where
  kind : TcpEndpointKind
  peer : String
  stream : ByteStream
  connectedClientId : Option ClientId := none
  reading : Bool := true
  hungUp : Bool := false
  deriving DecidableEq

/-- The client whose subscriptions go when the connection is seen to end. -/
def Connection.greeted (connection : Connection) (envelope : Envelope) : Option ClientId :=
  match connection.kind with
  | .marketData => envelope.greeting.or connection.connectedClientId
  | .trading => connection.connectedClientId

/-- The shared state and the connections, numbered in the order they were accepted. -/
structure Endpoints where
  shared : ServerActorState
  connections : List Connection := []

/-- What happens next: a connection is accepted, a read loop runs once, or a client hangs
up. -/
inductive EndpointInput where
  | accept (kind : TcpEndpointKind) (peer : String) (stream : ByteStream)
  | read (number : Nat)
  | hangUp (number : Nat)

namespace Endpoints

/-- One iteration of the read loop of a connection; its outbound channel has the number of
the connection. -/
def readOnce (fromSlice : List UInt8 → Except String Envelope) (world : GatewayWorld)
    (endpoints : Endpoints) (number : Nat) (connection : Connection) :
    Endpoints × List GatewayEffect :=
  match readFrame fromSlice connection.stream with
  | .envelope envelope rest =>
      let handled := handleEnvelope world connection.kind connection.peer endpoints.shared
        ⟨number⟩ envelope
      ({ shared := handled.state
         connections := endpoints.connections.set number { connection with
          stream := rest
          connectedClientId := connection.greeted envelope
          reading := handled.result.isOk } },
        handled.effects)
  | .disconnected =>
      let ended := endpoints.connections.set number { connection with reading := false }
      match connection.kind, connection.connectedClientId with
      | .marketData, some clientId =>
          let cleaned := Handled.publish world.marketDataClosed
            (endpoints.shared.removeExchangeMarketDataClient clientId)
          (⟨cleaned.state, ended⟩, cleaned.effects)
      | _, _ => ({ endpoints with connections := ended }, [])
  | .failed _ =>
      ({ endpoints with
          connections :=
            endpoints.connections.set number { connection with reading := false } }, [])

/-- One step of the endpoints. -/
def step (fromSlice : List UInt8 → Except String Envelope) (endpoints : Endpoints)
    (world : GatewayWorld) : EndpointInput → Endpoints × List GatewayEffect
  | .accept kind peer stream =>
      ({ endpoints with
          connections := endpoints.connections ++ [{ kind, peer, stream }] }, [])
  | .read number =>
      match endpoints.connections[number]? with
      | none => (endpoints, [])
      | some connection =>
          if connection.reading then endpoints.readOnce fromSlice world number connection
          else (endpoints, [])
  | .hangUp number =>
      ({ endpoints with
          connections := endpoints.connections.modify number ({ · with hungUp := true }) }, [])

/-- The endpoints of a server with the given configuration. -/
def machine (fromSlice : List UInt8 → Except String Envelope) (config : ServerConfig) :
    Machine Endpoints (GatewayWorld × EndpointInput) GatewayEffect where
  init := { shared := .fromConfig config }
  step endpoints input := endpoints.step fromSlice input.1 input.2

/-! ## What the loops ask of the gateway -/

/-- What one iteration of a read loop asks of the gateway. -/
def asks (fromSlice : List UInt8 → Except String Envelope) (number : Nat)
    (connection : Connection) : Option (Nat × GatewayInput) :=
  match readFrame fromSlice connection.stream with
  | .envelope envelope _ =>
      some (number, .envelope connection.kind connection.peer ⟨number⟩ envelope)
  | .disconnected =>
      match connection.kind, connection.connectedClientId with
      | .marketData, some clientId => some (number, .disconnected clientId)
      | _, _ => none
  | .failed _ => none

/-- What a step asks of the gateway, and for which connection. -/
def act (fromSlice : List UInt8 → Except String Envelope) (endpoints : Endpoints) :
    EndpointInput → Option (Nat × GatewayInput)
  | .accept _ _ _ | .hangUp _ => none
  | .read number =>
      match endpoints.connections[number]? with
      | none => none
      | some connection =>
          if connection.reading then asks fromSlice number connection else none

deriving instance DecidableEq for GatewayInput

/-- What the loops asked of the gateway so far. -/
abbrev History := List (Nat × GatewayInput)

/-- The endpoints with what their loops asked of the gateway. -/
def recorded (fromSlice : List UInt8 → Except String Envelope) (config : ServerConfig) :
    Machine (Endpoints × History) (GatewayWorld × EndpointInput) GatewayEffect :=
  (machine fromSlice config).observe [] fun history endpoints input =>
    history ++ (endpoints.act fromSlice input.2).toList

section Step

variable (fromSlice : List UInt8 → Except String Envelope)

theorem readOnce_gatewayStep (world : GatewayWorld) (endpoints : Endpoints) (number : Nat)
    (connection : Connection) :
    ((endpoints.readOnce fromSlice world number connection).1.shared,
        (endpoints.readOnce fromSlice world number connection).2) =
      (asks fromSlice number connection).elim (endpoints.shared, [])
        fun asked => gatewayStep endpoints.shared world asked.2 := by
  simp only [readOnce, asks]
  cases readFrame fromSlice connection.stream with
  | envelope envelope rest => rfl
  | failed message => rfl
  | disconnected =>
      cases connection.kind with
      | trading => rfl
      | marketData => cases connection.connectedClientId <;> rfl

/-- A step of the endpoints takes the shared state through what it asks. -/
theorem step_gatewayStep (endpoints : Endpoints) (world : GatewayWorld)
    (input : EndpointInput) :
    ((endpoints.step fromSlice world input).1.shared,
        (endpoints.step fromSlice world input).2) =
      (endpoints.act fromSlice input).elim (endpoints.shared, [])
        fun asked => gatewayStep endpoints.shared world asked.2 := by
  cases input with
  | accept | hangUp => rfl
  | read number =>
      simp only [step, act]
      cases endpoints.connections[number]? with
      | none => rfl
      | some connection =>
          cases reading : connection.reading with
          | false => simp [reading]
          | true =>
              simp only [reading, if_true]
              exact readOnce_gatewayStep fromSlice world endpoints number connection

/-- A step of the endpoints does to the shared state what it asks. -/
theorem step_shared (endpoints : Endpoints) (world : GatewayWorld) (input : EndpointInput) :
    (endpoints.step fromSlice world input).1.shared =
      (endpoints.act fromSlice input).elim endpoints.shared
        fun asked => (gatewayStep endpoints.shared world asked.2).1 := by
  have stepped := congrArg Prod.fst (step_gatewayStep fromSlice endpoints world input)
  cases asked : endpoints.act fromSlice input <;> simpa [asked] using stepped

/-- A step of the endpoints has the effects of what it asks. -/
theorem step_effects (endpoints : Endpoints) (world : GatewayWorld) (input : EndpointInput) :
    (endpoints.step fromSlice world input).2 =
      (endpoints.act fromSlice input).elim []
        fun asked => (gatewayStep endpoints.shared world asked.2).2 := by
  have stepped := congrArg Prod.snd (step_gatewayStep fromSlice endpoints world input)
  cases asked : endpoints.act fromSlice input <;> simpa [asked] using stepped

theorem recorded_next (config : ServerConfig) (watched : Endpoints × History)
    (input : GatewayWorld × EndpointInput) :
    (recorded fromSlice config).next watched input =
      ((watched.1.step fromSlice input.1 input.2).1,
        watched.2 ++ (watched.1.act fromSlice input.2).toList) := rfl

end Step

/-! ## Tables and histories -/

/-- The tables hold what the history says last. -/
structure Remembers (watched : Endpoints × History) : Prop where
  interest : ∀ client key,
    decide (client ∈ subscribersOf watched.1.shared.marketDataSubscriptions key) =
      (lastWord (fun asked => asked.2.interest client key) watched.2).getD false
  registration : ∀ client, channelOf watched.1.shared client =
    (lastWord (fun asked => asked.2.registration client) watched.2).getD none

theorem remembers_init (fromSlice : List UInt8 → Except String Envelope)
    (config : ServerConfig) : Remembers (recorded fromSlice config).init := by
  have fresh := marketTables_fromConfig config
  rw [marketTables, Prod.mk.injEq, Prod.mk.injEq] at fresh
  constructor
  · intro client key
    simp [recorded, Machine.observe, machine, fresh.2.2, subscribersOf]
  · intro client
    simp [recorded, Machine.observe, machine, fresh.1, channelOf]

theorem remembers_next (fromSlice : List UInt8 → Except String Envelope)
    (config : ServerConfig) (watched : Endpoints × History)
    (input : GatewayWorld × EndpointInput) (remembers : Remembers watched) :
    Remembers ((recorded fromSlice config).next watched input) := by
  rw [recorded_next]
  constructor
  · intro client key
    simp only [step_shared, lastWord_append_toList]
    cases watched.1.act fromSlice input.2 with
    | none => exact remembers.interest client key
    | some asked =>
        rw [Option.elim_some, interest_gatewayStep, remembers.interest, Option.bind_some,
          Option.getD_or]
  · intro client
    simp only [step_shared, lastWord_append_toList]
    cases watched.1.act fromSlice input.2 with
    | none => exact remembers.registration client
    | some asked =>
        rw [Option.elim_some, registration_gatewayStep, remembers.registration,
          Option.bind_some, Option.getD_or]

end Endpoints

/-! ## A terminal -/

/-- What a terminal sends first. -/
def Envelope.helloSample : Envelope := ⟨some ⟨"CY"⟩, .marketDataHello ⟨"CY"⟩⟩

/-- A subscription. -/
def Envelope.subscribeSample : Envelope := ⟨some ⟨"CY"⟩, .subscribeMarketData [⟨"rb2610"⟩]⟩

/-- The payload of the hello. -/
def helloBytes : List UInt8 :=
  ("\x7b\"request_id\":\"1\",\"client_id\":\"CY\",\"ts\":\"2026-04-01T01:30:00Z\"," ++
    "\"payload\":\x7b\"type\":\"MarketDataHello\"," ++
    "\"data\":\x7b\"client_id\":\"CY\"\x7d\x7d\x7d").toUTF8.data.toList

/-- The payload of the subscription. -/
def subscribeBytes : List UInt8 :=
  ("\x7b\"request_id\":\"2\",\"client_id\":\"CY\",\"ts\":\"2026-04-01T01:30:01Z\"," ++
    "\"payload\":\x7b\"type\":\"SubscribeMarketData\"," ++
    "\"data\":\x7b\"instruments\":[\"rb2610\"]\x7d\x7d\x7d").toUTF8.data.toList

/-- A parser of these two payloads. -/
def parseSample (payload : List UInt8) : Except String Envelope :=
  if payload = helloBytes then .ok .helloSample
  else if payload = subscribeBytes then .ok .subscribeSample
  else .error "expected value at line 1 column 1"

end CtpSystem
