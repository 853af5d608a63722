import CtpSystem.Domain.Protocol
import CtpSystem.Domain.Reports
import CtpSystem.Server.Session
import CtpSystem.Trade.Session

/-!
# Shared actor state

`ServerActorState` is the state behind the server's mutex: sessions, registered
terminals, per-account actors and the market-data subscription table.  The
helpers below are the ways an actor talks to clients: a reply on the channel a
command came with, or a push to whatever channel a client id is registered under.
-/

namespace CtpSystem

/-- A registered trading terminal. -/
structure TradingClientActor where
  clientId : ClientId
  peer : String
  outbound : EnvelopeTx
  deriving DecidableEq

/-- A registered market-data terminal. -/
structure MarketDataClientActor where
  clientId : ClientId
  peer : String
  outbound : EnvelopeTx
  deriving DecidableEq

/-- Commands of a per-account trade session actor. -/
inductive TradeSessionCommand where
  | login (credentials : AccountCredentials) (replyTo : EnvelopeTx)
  | placeOrder (clientId : ClientId) (order : OrderRequest) (replyTo : EnvelopeTx)
  | cancelOrder (cancel : CancelRequest) (replyTo : EnvelopeTx)
  | queryAccount (accountId : AccountId) (replyTo : EnvelopeTx)
  | queryPosition (accountId : AccountId) (instrumentId : Option InstrumentId)
      (replyTo : EnvelopeTx)
  | queryOrders (accountId : AccountId) (replyTo : EnvelopeTx)
  | queryTrades (accountId : AccountId) (replyTo : EnvelopeTx)
  | logout (replyTo : EnvelopeTx)
  deriving DecidableEq

/-- Commands of the market-data actor. -/
inductive MarketDataSessionCommand where
  | subscribe (instruments : List InstrumentId)
  | unsubscribe (instruments : List InstrumentId)
  deriving DecidableEq

/-- Handle of a spawned trade session actor: the sending half of its command
channel, named by the account it was spawned for. -/
structure TradeSessionActor where
  accountId : AccountId
  deriving DecidableEq

/-- Handle of the spawned market-data actor. -/
structure MarketDataSessionActor where
  deriving DecidableEq

/-- The state shared by the gateway and every actor. -/
structure ServerActorState where
  sessions : SessionManager := {}
  tradingClients : HashMap String TradingClientActor := ∅
  marketDataClients : HashMap String MarketDataClientActor := ∅
  tradeSessions : HashMap String TradeSessionActor := ∅
  marketDataSession : Option MarketDataSessionActor := none
  marketDataSubscriptions : HashMap String (Finset String) := ∅

namespace ServerActorState

/-- Register a trading terminal under its client id. -/
def registerTradingClient (state : ServerActorState) (clientId : ClientId)
    (peer : String) (outbound : EnvelopeTx) : ServerActorState :=
  { state with
    sessions := state.sessions.registerClient clientId
    tradingClients :=
      state.tradingClients.insert clientId.asStr ⟨clientId, peer, outbound⟩ }

/-- Register a market-data terminal under its client id. -/
def registerMarketDataClient (state : ServerActorState) (clientId : ClientId)
    (peer : String) (outbound : EnvelopeTx) : ServerActorState :=
  { state with
    marketDataClients :=
      state.marketDataClients.insert clientId.asStr ⟨clientId, peer, outbound⟩ }

/-- The outbound channel a client id is registered under. -/
def outboundOf (state : ServerActorState) (clientId : ClientId) : Option EnvelopeTx :=
  (state.tradingClients.lookup clientId.asStr).map (·.outbound)

end ServerActorState

/-! ## Messages to clients -/

/-- Something an actor does that others can see. -/
inductive Effect where
  /-- A message sent on the channel a command came with. -/
  | reply (replyTo : EnvelopeTx) (message : Message)
  /-- A message for a client id, with the channel the id was registered under,
  if it was registered. -/
  | push (clientId : ClientId) (outbound : Option EnvelopeTx) (message : Message)
  /-- A call of the TraderApi, with its return code. -/
  | request (request : CtpRequest) (rc : Int32)
  /-- A write to the account states of the shared state. -/
  | setAccountState (accountId : AccountId) (state : ConnectionState)
  deriving DecidableEq

/-- `push_envelope_to_client`. -/
def pushEnvelopeToClient (shared : ServerActorState) (clientId : ClientId)
    (message : Message) : Effect :=
  .push clientId (shared.outboundOf clientId) message

/-- Push an order report to the client whose context its order ref finds. -/
def pushOrderReport (shared : ServerActorState) (clock : Clock)
    (orderRegistry : OrderRegistry) (report : OrderReport) : List Effect :=
  match orderRegistry.lookup (orderRefLookupKey report.clientOrderId) with
  | none => []
  | some context =>
      [pushEnvelopeToClient shared context.clientId
        (.orderUpdate (report.intoOrder clock.now context))]

/-- Push a fill to the client whose context its order ref finds. -/
def pushTradeReport (shared : ServerActorState) (clock : Clock)
    (orderRegistry : OrderRegistry) (report : TradeReport) : List Effect :=
  match report.clientOrderId with
  | none => []
  | some clientOrderId =>
      match orderRegistry.lookup (orderRefLookupKey clientOrderId) with
      | none => []
      | some context =>
          [pushEnvelopeToClient shared context.clientId
            (.tradeUpdate (report.intoTrade clock context.accountId))]

/-- `send_error`. -/
def sendError (replyTo : EnvelopeTx) (code : Int32) (message : String) : Effect :=
  .reply replyTo (.error code message)

/-- `send_account_state`. -/
def sendAccountState (replyTo : EnvelopeTx) (state : AccountState) : Effect :=
  .reply replyTo (.accountStateUpdate state)

/-- An account state without session ids. -/
def accountState (clock : Clock) (accountId : AccountId) (state : ConnectionState) :
    AccountState :=
  ⟨accountId, state, none, none, clock.now⟩

/-- The account state that carries the ids of a login. -/
def loggedInState (clock : Clock) (accountId : AccountId) (ids : Int32 × Int32) :
    AccountState :=
  ⟨accountId, .loggedIn, some ids.1, some ids.2, clock.now⟩

end CtpSystem
