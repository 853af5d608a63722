import CtpSystem.Library.Machine
import CtpSystem.MarketData.Subscriptions
import CtpSystem.Server.Whitelist

/-!
# The gateway

`handle_envelope` and the operations of `ServerActorState` behind it.  Each operation
checks the whitelist before it touches anything, and a command is enqueued on the
actor that was spawned for its account.
-/

namespace CtpSystem

open Reactive

/-- What the gateway meets besides the shared state: the clock, the accounts whose
actor has gone, whether the market-data actor has gone, and whether the outbound queue
of the connection is still read. -/
structure GatewayWorld where
  clock : Clock
  closed : AccountId → Bool
  marketDataClosed : Bool
  connected : Bool

/-- Outcome of an operation on the shared state. -/
structure Performed where
  state : ServerActorState
  enqueued : List (AccountId × TradeSessionCommand)
  result : Except String Unit

namespace ServerActorState

/-- The handle under which commands for an account are sent. -/
def tradeSessionOf (state : ServerActorState) (accountId : AccountId) :
    Option TradeSessionActor :=
  state.tradeSessions.lookup accountId.asStr

/-- `bind_account`; the account state of its reply is `boundState`.  A fresh actor's
channel is open. -/
def bindAccount (world : GatewayWorld) (state : ServerActorState) (clientId : ClientId)
    (credentials : AccountCredentials) (replyTo : EnvelopeTx) : Performed :=
  match state.sessions.ensureAccountAccess clientId credentials.accountId "account login" with
  | .error message => ⟨state, [], .error message⟩
  | .ok () =>
      let sessions :=
        (state.sessions.bindAccount clientId credentials.accountId).setAccountState
          credentials.accountId .connecting
      match state.tradeSessionOf credentials.accountId with
      | none =>
          let actor : TradeSessionActor := ⟨credentials.accountId⟩
          ⟨{ state with
              sessions := sessions
              tradeSessions := state.tradeSessions.insert credentials.accountId.asStr actor },
            [(actor.accountId, .login credentials replyTo)], .ok ()⟩
      | some actor =>
          if world.closed actor.accountId then
            ⟨{ state with sessions := sessions.setAccountState credentials.accountId .error },
              [], .ok ()⟩
          else
            ⟨{ state with sessions := sessions },
              [(actor.accountId, .login credentials replyTo)], .ok ()⟩

/-- The connection state `bind_account` answers with where it succeeds. -/
def boundState (world : GatewayWorld) (state : ServerActorState) (accountId : AccountId) :
    ConnectionState :=
  match state.tradeSessionOf accountId with
  | none => .connecting
  | some actor => if world.closed actor.accountId then .error else .connecting

/-- `send_trade_command`. -/
def sendTradeCommand (world : GatewayWorld) (state : ServerActorState)
    (accountId : AccountId) (command : TradeSessionCommand) : Performed :=
  match state.tradeSessionOf accountId with
  | none => ⟨state, [], .error ("account " ++ accountId.asStr ++ " is not logged in")⟩
  | some actor =>
      if world.closed actor.accountId then
        ⟨state, [], .error "trade session actor command channel closed: channel closed"⟩
      else ⟨state, [(actor.accountId, command)], .ok ()⟩

/-- Send a command once a check has passed. -/
def sendChecked (world : GatewayWorld) (state : ServerActorState)
    (check : Except String Unit) (accountId : AccountId) (command : TradeSessionCommand) :
    Performed :=
  match check with
  | .error message => ⟨state, [], .error message⟩
  | .ok () => state.sendTradeCommand world accountId command

section Operations

variable (world : GatewayWorld) (state : ServerActorState) (clientId : ClientId)
variable (replyTo : EnvelopeTx)

def placeOrder (order : OrderRequest) : Performed :=
  state.sendChecked world
    (state.sessions.ensureWriteAccess clientId order.accountId "place order")
    order.accountId (.placeOrder clientId order replyTo)

def cancelOrder (cancel : CancelRequest) : Performed :=
  state.sendChecked world
    (state.sessions.ensureWriteAccess clientId cancel.accountId "cancel order")
    cancel.accountId (.cancelOrder cancel replyTo)

def queryAccount (accountId : AccountId) : Performed :=
  state.sendChecked world
    (state.sessions.ensureReadAccess clientId accountId "query account")
    accountId (.queryAccount accountId replyTo)

def queryPosition (accountId : AccountId) (instrumentId : Option InstrumentId) : Performed :=
  state.sendChecked world
    (state.sessions.ensureReadAccess clientId accountId "query position")
    accountId (.queryPosition accountId instrumentId replyTo)

def queryOrders (accountId : AccountId) : Performed :=
  state.sendChecked world
    (state.sessions.ensureReadAccess clientId accountId "query orders")
    accountId (.queryOrders accountId replyTo)

def queryTrades (accountId : AccountId) : Performed :=
  state.sendChecked world
    (state.sessions.ensureReadAccess clientId accountId "query trades")
    accountId (.queryTrades accountId replyTo)

def logoutAccount (accountId : AccountId) : Performed :=
  state.sendChecked world
    (state.sessions.ensureWriteAccess clientId accountId "account logout")
    accountId (.logout replyTo)

end Operations

end ServerActorState

/-- The operations of a trading terminal on an account. -/
inductive AccountCall where
  | bindAccount (credentials : AccountCredentials)
  | placeOrder (order : OrderRequest)
  | cancelOrder (cancel : CancelRequest)
  | queryAccount (accountId : AccountId)
  | queryPosition (accountId : AccountId) (instrumentId : Option InstrumentId)
  | queryOrders (accountId : AccountId)
  | queryTrades (accountId : AccountId)
  | logoutAccount (accountId : AccountId)
  deriving DecidableEq

/-- Perform an operation for a client. -/
def ServerActorState.perform (world : GatewayWorld) (state : ServerActorState)
    (clientId : ClientId) (replyTo : EnvelopeTx) : AccountCall → Performed
  | .bindAccount credentials => state.bindAccount world clientId credentials replyTo
  | .placeOrder order => state.placeOrder world clientId replyTo order
  | .cancelOrder cancel => state.cancelOrder world clientId replyTo cancel
  | .queryAccount accountId => state.queryAccount world clientId replyTo accountId
  | .queryPosition accountId instrumentId =>
      state.queryPosition world clientId replyTo accountId instrumentId
  | .queryOrders accountId => state.queryOrders world clientId replyTo accountId
  | .queryTrades accountId => state.queryTrades world clientId replyTo accountId
  | .logoutAccount accountId => state.logoutAccount world clientId replyTo accountId

/-! ## Envelopes -/

/-- The two listening endpoints. -/
inductive TcpEndpointKind where
  | trading
  | marketData
  deriving DecidableEq

/-- Something the gateway does besides changing the shared state. -/
inductive GatewayEffect where
  | enqueue (accountId : AccountId) (command : TradeSessionCommand)
  | publish (command : MarketDataSessionCommand)
  | send (outbound : EnvelopeTx) (message : Message)
  deriving DecidableEq

/-- Outcome of handling one envelope; an error ends the connection. -/
structure Handled where
  state : ServerActorState
  effects : List GatewayEffect
  result : Except String Unit

/-- `send`, after what was done before. -/
def Handled.send (world : GatewayWorld) (outbound : EnvelopeTx) (message : Message)
    (state : ServerActorState) (effects : List GatewayEffect) : Handled :=
  if world.connected then ⟨state, effects ++ [.send outbound message], .ok ()⟩
  else ⟨state, effects, .error "client outbound channel closed: channel closed"⟩

/-- Publish an exchange delta, where there is one and the actor still runs. -/
def Handled.publish (closed : Bool)
    (delta : ServerActorState × Option MarketDataSessionCommand) : Handled :=
  match delta.2 with
  | none => ⟨delta.1, [], .ok ()⟩
  | some command =>
      if closed then ⟨delta.1, [], .error "market-data command channel closed: channel closed"⟩
      else ⟨delta.1, [.publish command], .ok ()⟩

/-- The operation a trading message asks for, and how the log names it. -/
def Message.accountCall : Message → Option (AccountCall × String)
  | .accountLogin credentials => some (.bindAccount credentials, "account login")
  | .placeOrder order => some (.placeOrder order, "place order")
  | .cancelOrder cancel => some (.cancelOrder cancel, "cancel order")
  | .queryAccount accountId => some (.queryAccount accountId, "query account")
  | .queryPosition accountId instrumentId =>
      some (.queryPosition accountId instrumentId, "query position")
  | .queryOrders accountId => some (.queryOrders accountId, "query orders")
  | .queryTrades accountId => some (.queryTrades accountId, "query trades")
  | .accountLogout accountId => some (.logoutAccount accountId, "account logout")
  | _ => none

/-- The answer to an operation: errors under the code of the operation, and for a
login the state of the account. -/
def accountAnswer (world : GatewayWorld) (state : ServerActorState) (call : AccountCall)
    (result : Except String Unit) : Option Message :=
  match call, result with
  | .bindAccount _, .error message => some (.error (-20) message)
  | _, .error message => some (.error (-10) message)
  | .bindAccount credentials, .ok () =>
      some (.accountStateUpdate (accountState world.clock credentials.accountId
        (state.boundState world credentials.accountId)))
  | _, .ok () => none

/-- The arms of `handle_envelope` for operations on an account. -/
def handleAccountCall (world : GatewayWorld) (state : ServerActorState)
    (outbound : EnvelopeTx) (clientId : Option ClientId) (call : AccountCall)
    (operation : String) : Handled :=
  match clientId with
  | none =>
      Handled.send world outbound (.error (-1) ("missing client_id for " ++ operation))
        state []
  | some clientId =>
      let performed := state.perform world clientId outbound call
      let enqueued := performed.enqueued.map fun sent => .enqueue sent.1 sent.2
      match accountAnswer world state call performed.result with
      | none => ⟨performed.state, enqueued, .ok ()⟩
      | some message => Handled.send world outbound message performed.state enqueued

/-- `handle_envelope`. -/
def handleEnvelope (world : GatewayWorld) (kind : TcpEndpointKind) (peer : String)
    (state : ServerActorState) (outbound : EnvelopeTx) (envelope : Envelope) : Handled :=
  match kind, envelope.payload with
  | .trading, .hello clientId =>
      Handled.send world outbound (.helloAck true "trading client registered")
        (state.registerTradingClient clientId peer outbound) []
  | .marketData, .marketDataHello clientId =>
      Handled.send world outbound (.helloAck true "market-data client registered")
        (state.registerMarketDataClient clientId peer outbound) []
  | .marketData, .subscribeMarketData instruments =>
      match envelope.clientId with
      | none =>
          Handled.send world outbound
            (.error (-1) "missing client_id for market-data subscribe") state []
      | some clientId =>
          Handled.publish (state.marketDataSession.isSome && world.marketDataClosed)
            (state.subscribeExchangeMarketData clientId instruments)
  | .marketData, .unsubscribeMarketData instruments =>
      match envelope.clientId with
      | none =>
          Handled.send world outbound
            (.error (-1) "missing client_id for market-data unsubscribe") state []
      | some clientId =>
          Handled.publish world.marketDataClosed
            (state.unsubscribeExchangeMarketData clientId instruments)
  | .trading, payload =>
      match payload.accountCall with
      | some (call, operation) =>
          handleAccountCall world state outbound envelope.clientId call operation
      | none =>
          Handled.send world outbound (.error (-2) "message unsupported on this endpoint")
            state []
  | .marketData, _ =>
      Handled.send world outbound (.error (-2) "message unsupported on this endpoint")
        state []

/-- What changes the shared state: an envelope, the cleanup after a market-data
connection, and an actor that reports the state of its account. -/
inductive GatewayInput where
  | envelope (kind : TcpEndpointKind) (peer : String) (outbound : EnvelopeTx)
      (envelope : Envelope)
  | disconnected (clientId : ClientId)
  | accountState (accountId : AccountId) (state : ConnectionState)

/-- One step of the gateway. -/
def gatewayStep (state : ServerActorState) (world : GatewayWorld) :
    GatewayInput → ServerActorState × List GatewayEffect
  | .envelope kind peer outbound envelope =>
      let handled := handleEnvelope world kind peer state outbound envelope
      (handled.state, handled.effects)
  | .disconnected clientId =>
      let handled := Handled.publish world.marketDataClosed
        (state.removeExchangeMarketDataClient clientId)
      (handled.state, handled.effects)
  | .accountState accountId connection =>
      ({ state with sessions := state.sessions.setAccountState accountId connection }, [])

/-- The gateway of a server with the given configuration. -/
def gateway (config : ServerConfig) :
    Machine ServerActorState (GatewayWorld × GatewayInput) GatewayEffect where
  init := .fromConfig config
  step state input := gatewayStep state input.1 input.2

end CtpSystem
