import Mathlib.Data.List.Sort
import Mathlib.Data.String.Basic
import CtpSystem.Network.TcpClient
import CtpSystem.Server.MarketTables

/-!
# The market-data client

`MarketDataClient` keeps what it subscribed in a map of its own and registers, after each
call, the envelopes its connection sends first when it comes back: a hello and at most one
subscription.  The server has no other memory of the client once it dropped it, so these
envelopes have to stand for every message the calls sent.
-/

namespace CtpSystem

open Reactive

/-- Errors of the client's calls: opening a connection, sending, and anything else that
`SendError::Other` carries. -/
inductive ClientError where
  | connect (message : String)
  | send (error : SendError)
  | other (message : String)
  deriving DecidableEq

/-- An open connection, with the envelopes it sends first on a reconnect. -/
structure ClientConnection where
  reconnectEnvelopes : List Envelope := []
  deriving DecidableEq

/-- How a call's surroundings answer: opening a connection, enqueuing an envelope, and
replacing the reconnect envelopes under their lock. -/
structure ClientWorld where
  connect : Except String Unit
  send : Except ClientError Unit
  register : Except String Unit

/-- The client; `subscriptions` is ordered by its keys. -/
structure MarketDataClient where
  clientId : ClientId
  connection : Option ClientConnection
  subscriptions : HashMap String InstrumentId

/-- Outcome of a call: the client after it, what was enqueued, and the result. -/
structure Called where
  client : MarketDataClient
  sent : List Envelope
  result : Except ClientError Unit

namespace MarketDataClient

def new (clientId : ClientId) : MarketDataClient := ⟨clientId, none, ∅⟩

variable (world : ClientWorld) (client : MarketDataClient)

def helloEnvelope : Envelope := ⟨some client.clientId, .marketDataHello client.clientId⟩

def sendEnvelope : Except ClientError Unit :=
  match client.connection with
  | none => .error (.send .closed)
  | some _ => world.send

/-- The values of the map in the order of its keys. -/
def instruments : List InstrumentId :=
  (client.subscriptions.entries.insertionSort fun first second =>
    first.1 ≤ second.1).map (·.2)

/-- `reconnect_envelopes`. -/
def reconnectEnvelopes : List Envelope :=
  client.helloEnvelope ::
    if client.subscriptions.entries = [] then []
    else [⟨some client.clientId, .subscribeMarketData client.instruments⟩]

def updateReconnectEnvelopes : MarketDataClient × Except ClientError Unit :=
  match client.connection with
  | none => (client, .error (.send .closed))
  | some _ =>
      match world.register with
      | .error message => (client, .error (.other message))
      | .ok () => ({ client with connection := some ⟨client.reconnectEnvelopes⟩ }, .ok ())

/-- `connect`. -/
def connect : Called :=
  match world.connect with
  | .error message => ⟨client, [], .error (.connect message)⟩
  | .ok () =>
      let client := { client with connection := some {} }
      match client.sendEnvelope world with
      | .error error => ⟨client, [], .error error⟩
      | .ok () =>
          let (registered, result) := client.updateReconnectEnvelopes world
          ⟨registered, [client.helloEnvelope], result⟩

/-- `subscribe`. -/
def subscribe (instruments : List InstrumentId) : Called :=
  match client.sendEnvelope world with
  | .error error => ⟨client, [], .error error⟩
  | .ok () =>
      let subscriptions := instruments.foldl
        (fun subscriptions instrument => subscriptions.insert instrument.asStr instrument)
        client.subscriptions
      let (registered, result) :=
        updateReconnectEnvelopes world { client with subscriptions := subscriptions }
      ⟨registered, [⟨some client.clientId, .subscribeMarketData instruments⟩], result⟩

/-- `unsubscribe`. -/
def unsubscribe (instruments : List InstrumentId) : Called :=
  match client.sendEnvelope world with
  | .error error => ⟨client, [], .error error⟩
  | .ok () =>
      let subscriptions := instruments.foldl
        (fun subscriptions instrument => subscriptions.erase instrument.asStr)
        client.subscriptions
      let (registered, result) :=
        updateReconnectEnvelopes world { client with subscriptions := subscriptions }
      ⟨registered, [⟨some client.clientId, .unsubscribeMarketData instruments⟩], result⟩

end MarketDataClient

/-- The calls of a market-data client that send envelopes. -/
inductive ClientCall where
  | connect
  | subscribe (instruments : List InstrumentId)
  | unsubscribe (instruments : List InstrumentId)
  deriving DecidableEq

namespace MarketDataClient

/-- Make a call. -/
def call (world : ClientWorld) (client : MarketDataClient) : ClientCall → Called
  | .connect => client.connect world
  | .subscribe instruments => client.subscribe world instruments
  | .unsubscribe instruments => client.unsubscribe world instruments

/-- A client making calls, some of which may fail. -/
def machine (clientId : ClientId) :
    Machine MarketDataClient (ClientWorld × ClientCall) Envelope where
  init := .new clientId
  step client input :=
    let called := client.call input.1 input.2
    (called.client, called.sent)

end MarketDataClient

/-! ## What a call does -/

/-- What is kept when the envelopes are registered. -/
theorem updateReconnectEnvelopes_frame (world : ClientWorld) (client : MarketDataClient) :
    (client.updateReconnectEnvelopes world).1.clientId = client.clientId ∧
      (client.updateReconnectEnvelopes world).1.subscriptions = client.subscriptions := by
  rw [MarketDataClient.updateReconnectEnvelopes]
  cases client.connection with
  | none => exact ⟨rfl, rfl⟩
  | some connection =>
      cases world.register with
      | error message => exact ⟨rfl, rfl⟩
      | ok _ => exact ⟨rfl, rfl⟩

/-- The map after a call that sends, and what it sends. -/
inductive CallCase (client : MarketDataClient) :
    HashMap String InstrumentId → List Envelope → Prop where
  | aside : CallCase client client.subscriptions []
  | greeted : CallCase client client.subscriptions [client.helloEnvelope]
  | subscribed (instruments : List InstrumentId) :
      CallCase client
        (instruments.foldl
          (fun subscriptions instrument =>
            subscriptions.insert instrument.asStr instrument) client.subscriptions)
        [⟨some client.clientId, .subscribeMarketData instruments⟩]
  | unsubscribed (instruments : List InstrumentId) :
      CallCase client
        (instruments.foldl
          (fun subscriptions instrument => subscriptions.erase instrument.asStr)
          client.subscriptions)
        [⟨some client.clientId, .unsubscribeMarketData instruments⟩]

/-- A call that fails to send changes nothing the map holds; every other one changes it the
way the envelope tells. -/
theorem call_case (world : ClientWorld) (client : MarketDataClient) (call : ClientCall) :
    (client.call world call).client.clientId = client.clientId ∧
      CallCase client (client.call world call).client.subscriptions
        (client.call world call).sent := by
  cases call with
  | connect =>
      simp only [MarketDataClient.call, MarketDataClient.connect]
      cases world.connect with
      | error message => exact ⟨rfl, .aside⟩
      | ok _ =>
          simp only [MarketDataClient.sendEnvelope]
          cases world.send with
          | error error => exact ⟨rfl, .aside⟩
          | ok _ =>
              have frame := updateReconnectEnvelopes_frame world
                { client with connection := some {} }
              refine ⟨frame.1, ?_⟩
              simp only [frame.2]
              exact .greeted
  | subscribe instruments =>
      simp only [MarketDataClient.call, MarketDataClient.subscribe]
      cases client.sendEnvelope world with
      | error error => exact ⟨rfl, .aside⟩
      | ok _ =>
          simp only
          have frame := updateReconnectEnvelopes_frame world
            { client with
              subscriptions := instruments.foldl
                (fun subscriptions instrument =>
                  subscriptions.insert instrument.asStr instrument) client.subscriptions }
          refine ⟨frame.1, ?_⟩
          rw [frame.2]
          exact .subscribed instruments
  | unsubscribe instruments =>
      simp only [MarketDataClient.call, MarketDataClient.unsubscribe]
      cases client.sendEnvelope world with
      | error error => exact ⟨rfl, .aside⟩
      | ok _ =>
          simp only
          have frame := updateReconnectEnvelopes_frame world
            { client with
              subscriptions := instruments.foldl
                (fun subscriptions instrument => subscriptions.erase instrument.asStr)
                client.subscriptions }
          refine ⟨frame.1, ?_⟩
          rw [frame.2]
          exact .unsubscribed instruments

end CtpSystem
