import CtpSystem.Client.Environment
import CtpSystem.Client.TradingClient
import CtpSystem.Library.Attempt

/-!
# The terminal's session

`main` of the client crate: it connects to both endpoints, logs its account in, asks for
the state of the account, places one passive order once a tick has come, cancels the order
when it may, and logs out some time after the order was finished.  Everything is driven by
one loop that reacts to envelopes and timers in whatever order they come.
-/

namespace CtpSystem

open Reactive

/-- Errors the session ends with: a failed call of a client, or its own message. -/
inductive FlowError where
  | client (error : ClientError)
  | bail (message : String)
  deriving DecidableEq

/-- How far the session has come: before connecting, waiting for the first envelope of
either endpoint, in its loop, or ended. -/
inductive FlowStage where
  | starting
  | awaitingTrading
  | awaitingMarketData
  | running (credentials : AccountCredentials) (instruments : List InstrumentId)
  | ended (result : Except FlowError Unit)
  deriving DecidableEq

/-- The variables of the session; `holding` says that `hold_deadline` is set. -/
structure Flow where
  trading : TradingClient
  marketData : MarketDataClient
  stage : FlowStage := .starting
  tradeLoggedIn : Bool := false
  gotTick : Bool := false
  orderSent : Bool := false
  queriesSent : Bool := false
  queryAccountDone : Bool := false
  queryPositionDone : Bool := false
  queryOrdersDone : Bool := false
  queryTradesDone : Bool := false
  cancelSent : Bool := false
  orderFinished : Bool := false
  completionHoldDone : Bool := false
  holding : Bool := false
  logoutSent : Bool := false
  lastTick : Option (InstrumentId × F64) := none
  testOrderId : Option ClientOrderId := none

/-- An envelope the session sends. -/
inductive FlowRequest where
  | trading (envelope : Envelope)
  | marketData (envelope : Envelope)
  deriving DecidableEq

/-- What does not change during a session: the client id, the environment and the
floating-point operations. -/
structure FlowSetup where
  clientId : ClientId
  env : Env
  floats : FloatOps

/-- What one iteration meets: how each call on a connection ends, and the clock in
milliseconds. -/
structure FlowWorld where
  trading : TradingCall → ClientWorld
  marketData : ClientCall → ClientWorld
  millis : Int

/-- What the session waits for: its own start, an envelope or the end of a connection, and
the two timers. -/
inductive FlowInput where
  | start
  | trading (envelope : Option Envelope)
  | marketData (envelope : Option Envelope)
  | holdElapsed
  | deadline
  deriving DecidableEq

/-- A part of the session. -/
abbrev FlowAttempt := Attempt Flow FlowRequest FlowError

namespace Flow

/-- A call on the trading connection, with `?` after it. -/
def callTrading (world : FlowWorld) (call : TradingCall) (flow : Flow) : FlowAttempt :=
  let called := flow.trading.call (world.trading call) call
  ⟨{ flow with trading := called.client }, called.sent.map .trading,
    called.result.mapError .client⟩

/-- A call on the market-data connection, with `?` after it. -/
def callMarketData (world : FlowWorld) (call : ClientCall) (flow : Flow) : FlowAttempt :=
  let called := flow.marketData.call (world.marketData call) call
  ⟨{ flow with marketData := called.client }, called.sent.map .marketData,
    called.result.mapError .client⟩

/-! ## The top of the loop -/

section Head

variable (setup : FlowSetup) (world : FlowWorld) (accountId : AccountId)
variable (instruments : List InstrumentId) (flow : Flow)

/-- Ask for the state of the account, once. -/
def sendQueries : FlowAttempt :=
  if flow.tradeLoggedIn && !flow.queriesSent then
    ((((flow.callTrading world (.queryAccount accountId)).andThen
      (callTrading world (.queryPosition accountId none))).andThen
      (callTrading world (.queryOrders accountId))).andThen
      (callTrading world (.queryTrades accountId))).andThen
      fun flow => .done { flow with queriesSent := true }
  else .done flow

/-- Whether everything the test order waits for has come. -/
def readyToOrder : Bool :=
  flow.tradeLoggedIn && flow.gotTick && flow.queryAccountDone && flow.queryPositionDone &&
    flow.queryOrdersDone && flow.queryTradesDone && !flow.orderSent

/-- Place the test order, once. -/
def sendTestOrder : FlowAttempt :=
  if flow.readyToOrder then
    match buildPassiveTestOrder setup.env setup.floats world.millis accountId flow.lastTick with
    | .error message => .fail flow (.bail message)
    | .ok order =>
        (callTrading world (.placeOrder order)
          { flow with testOrderId := some order.clientOrderId }).andThen
          fun flow => .done { flow with orderSent := true }
  else .done flow

/-- Start the timer that keeps the connections open after the order has finished. -/
def startHold : Flow :=
  if flow.orderFinished && !flow.completionHoldDone && !flow.holding then
    { flow with holding := true }
  else flow

/-- Unsubscribe and log out, once. -/
def sendFarewell : FlowAttempt :=
  if flow.completionHoldDone && !flow.logoutSent then
    ((flow.callMarketData world (.unsubscribe instruments)).andThen
      (callTrading world (.logoutAccount accountId))).andThen
      fun flow => .done { flow with logoutSent := true }
  else .done flow

/-- Leave the loop once the account is logged out. -/
def leave : Flow :=
  if flow.logoutSent && !flow.tradeLoggedIn then { flow with stage := .ended (.ok ()) }
  else flow

/-- Everything between the top of the loop and its `select!`. -/
def head : FlowAttempt :=
  (((flow.sendQueries world accountId).andThen
    (sendTestOrder setup world accountId)).andThen
    fun flow => sendFarewell world accountId instruments flow.startHold).andThen
    fun flow => .done flow.leave

end Head

/-! ## The arms of `select!` -/

/-- The cancel request for an order update. -/
def cancelOf (order : Order) : CancelRequest :=
  ⟨order.accountId, order.instrumentId, some order.clientOrderId, order.exchangeOrderId⟩

/-- The arm of an order update: only those of the test order matter. -/
def onOrderUpdate (world : FlowWorld) (order : Order) (flow : Flow) : FlowAttempt :=
  if flow.testOrderId = some order.clientOrderId then
    (if !flow.cancelSent && isCancelableStatus order.status then
      (flow.callTrading world (.cancelOrder (cancelOf order))).andThen
        fun flow => .done { flow with cancelSent := true }
    else .done flow).andThen
      fun flow =>
        .done (if isTerminalStatus order.status then { flow with orderFinished := true }
          else flow)
  else .done flow

/-- The arm of the trading connection. -/
def onTrading (world : FlowWorld) (envelope : Option Envelope) (flow : Flow) : FlowAttempt :=
  match envelope.map Envelope.payload with
  | none => .fail flow (.bail "trading connection closed")
  | some (.accountStateUpdate state) =>
      .done { flow with tradeLoggedIn := state.state = .loggedIn }
  | some (.orderUpdate order) => flow.onOrderUpdate world order
  | some (.queryAccountResult _) => .done { flow with queryAccountDone := true }
  | some (.queryPositionResult _) => .done { flow with queryPositionDone := true }
  | some (.queryOrdersResult _) => .done { flow with queryOrdersDone := true }
  | some (.queryTradesResult _) => .done { flow with queryTradesDone := true }
  | some (.error code message) =>
      .fail flow (.bail ("trading error " ++ toString code.toInt ++ ": " ++ message))
  | some _ => .done flow

/-- The arm of the market-data connection. -/
def onMarketData (envelope : Option Envelope) (flow : Flow) : FlowAttempt :=
  match envelope.map Envelope.payload with
  | none => .fail flow (.bail "market-data connection closed")
  | some (.marketDataTick tick) =>
      .done { flow with gotTick := true, lastTick := some (tick.instrumentId, tick.lastPrice) }
  | some (.error code message) =>
      .fail flow (.bail ("market-data error " ++ toString code.toInt ++ ": " ++ message))
  | some _ => .done flow

/-- Whether `select!` waits for an input: a timer that is not set never fires. -/
def awaits (flow : Flow) : FlowInput → Bool
  | .start => false
  | .holdElapsed => flow.holding
  | .trading _ | .marketData _ | .deadline => true

/-- What one arm does. -/
def arm (world : FlowWorld) (input : FlowInput) (flow : Flow) : FlowAttempt :=
  match input with
  | .start => .done flow
  | .trading envelope => flow.onTrading world envelope
  | .marketData envelope => flow.onMarketData envelope
  | .holdElapsed => .done { flow with completionHoldDone := true, holding := false }
  | .deadline => .fail flow (.bail "timed out waiting for full client flow")

/-! ## The session -/

/-- Connect to both endpoints. -/
def connectBoth (world : FlowWorld) (flow : Flow) : FlowAttempt :=
  ((flow.callTrading world .connect).andThen (callMarketData world .connect)).andThen
    fun flow => .done { flow with stage := .awaitingTrading }

/-- Log in, subscribe and enter the loop. -/
def enter (setup : FlowSetup) (world : FlowWorld) (flow : Flow) : FlowAttempt :=
  match loadTradeCredentials setup.env with
  | .error message => .fail flow (.bail message)
  | .ok credentials =>
      (flow.callTrading world (.loginAccount credentials)).andThen fun flow =>
        match requiredEnv setup.env "CTP_INSTRUMENTS" with
        | .error message => .fail flow (.bail message)
        | .ok value =>
            ((flow.callMarketData world (.subscribe (parseInstruments value))).andThen
              fun flow =>
                .done { flow with stage := .running credentials (parseInstruments value) }).andThen
              (head setup world credentials.accountId (parseInstruments value))

/-- What the session does next. -/
def advance (setup : FlowSetup) (world : FlowWorld) (input : FlowInput) (flow : Flow) :
    FlowAttempt :=
  match flow.stage, input with
  | .starting, .start => flow.connectBoth world
  | .awaitingTrading, .trading _ => .done { flow with stage := .awaitingMarketData }
  | .awaitingMarketData, .marketData _ => flow.enter setup world
  | .running credentials instruments, input =>
      if flow.awaits input then
        (flow.arm world input).andThen (head setup world credentials.accountId instruments)
      else .done flow
  | _, _ => .done flow

/-- The state after a part of the session; an error ends it. -/
def conclude (attempt : FlowAttempt) : Flow :=
  match attempt.result with
  | .ok () => attempt.state
  | .error error => { attempt.state with stage := .ended (.error error) }

/-- The session of a terminal, after its client id was read. -/
def machine (setup : FlowSetup) : Machine Flow (FlowWorld × FlowInput) FlowRequest where
  init := { trading := .new setup.clientId, marketData := .new setup.clientId }
  step flow input :=
    let attempt := flow.advance setup input.1 input.2
    (conclude attempt, attempt.outputs)

end Flow

end CtpSystem
