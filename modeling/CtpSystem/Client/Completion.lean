import CtpSystem.Client.Timing

/-!
# Sessions that can still complete

A session is never in a state it cannot get out of: as long as it has not ended, and its
environment is complete, calls that succeed and one answer of each kind bring it to its end
without an error, whatever came before them.
-/

namespace CtpSystem

open Reactive

/-! ## Calls that succeed -/

/-- The world of a call that succeeds. -/
def ClientWorld.accepting : ClientWorld := ⟨.ok (), .ok (), .ok ()⟩

/-- An iteration all of whose calls succeed. -/
def FlowWorld.accepting (millis : Int) : FlowWorld :=
  ⟨fun _ => .accepting, fun _ => .accepting, millis⟩

namespace TradingClient

variable (world : ClientWorld) (client : TradingClient)

theorem isSome_updateReconnectEnvelopes :
    (client.updateReconnectEnvelopes world).1.connection.isSome = client.connection.isSome := by
  rw [updateReconnectEnvelopes]
  cases connected : client.connection with
  | none => simp [connected]
  | some connection => cases world.register <;> simp [connected]

/-- No call drops the connection. -/
theorem isSome_call (call : TradingCall) (connected : client.connection.isSome) :
    (client.call world call).client.connection.isSome := by
  have request (message : Message) : (client.request world message).client.connection.isSome := by
    rw [TradingClient.request]
    split <;> exact connected
  have keep (message : Message) (login : Option AccountCredentials) :
      (client.sendAndKeep world message login).client.connection.isSome := by
    rw [TradingClient.sendAndKeep]
    split
    · exact connected
    · rw [isSome_updateReconnectEnvelopes]
      exact connected
  cases call with
  | connect =>
      simp only [TradingClient.call, TradingClient.connect]
      cases world.connect with
      | error message => exact connected
      | ok =>
          simp only [TradingClient.sendEnvelope]
          cases world.send with
          | error error => rfl
          | ok => exact isSome_updateReconnectEnvelopes world _
  | loginAccount | logoutAccount => exact keep _ _
  | _ => exact request _

/-- Over a connection a call succeeds where its world lets it. -/
theorem call_accepting (call : TradingCall)
    (connected : client.connection.isSome ∨ call = .connect) :
    (client.call .accepting call).result = .ok () := by
  cases call with
  | connect => rfl
  | _ =>
      have open_ := connected.resolve_right (by simp)
      rcases Option.isSome_iff_exists.mp open_ with ⟨connection, held⟩
      simp [call, loginAccount, logoutAccount, placeOrder, cancelOrder, queryAccount,
        queryPosition, queryOrders, queryTrades, sendAndKeep, request, sendEnvelope,
        updateReconnectEnvelopes, held, ClientWorld.accepting]

end TradingClient

namespace MarketDataClient

variable (world : ClientWorld) (client : MarketDataClient)

theorem isSome_updateReconnectEnvelopes :
    (client.updateReconnectEnvelopes world).1.connection.isSome = client.connection.isSome := by
  rw [updateReconnectEnvelopes]
  cases connected : client.connection with
  | none => simp [connected]
  | some connection => cases world.register <;> simp [connected]

/-- No call drops the connection. -/
theorem isSome_call (call : ClientCall) (connected : client.connection.isSome) :
    (client.call world call).client.connection.isSome := by
  cases call with
  | connect =>
      simp only [MarketDataClient.call, MarketDataClient.connect]
      cases world.connect with
      | error message => exact connected
      | ok =>
          simp only [MarketDataClient.sendEnvelope]
          cases world.send with
          | error error => rfl
          | ok => exact isSome_updateReconnectEnvelopes world _
  | subscribe | unsubscribe =>
      simp only [MarketDataClient.call, MarketDataClient.subscribe, MarketDataClient.unsubscribe]
      cases client.sendEnvelope world with
      | error error => exact connected
      | ok =>
          simp only [isSome_updateReconnectEnvelopes]
          exact connected

/-- Over a connection a call succeeds where its world lets it. -/
theorem call_accepting (call : ClientCall)
    (connected : client.connection.isSome ∨ call = .connect) :
    (client.call .accepting call).result = .ok () := by
  cases call with
  | connect => rfl
  | _ =>
      have open_ := connected.resolve_right (by simp)
      rcases Option.isSome_iff_exists.mp open_ with ⟨connection, held⟩
      simp [call, subscribe, unsubscribe, sendEnvelope, updateReconnectEnvelopes, held,
        ClientWorld.accepting]

end MarketDataClient

/-- What a session waits for before it places its order, besides a tick. -/
inductive FlowFact where
  | loggedIn
  | account
  | positions
  | orders
  | trades
  deriving DecidableEq

namespace FlowFact

/-- The session knows the fact. -/
def holds (flow : Flow) : FlowFact → Bool
  | .loggedIn => flow.tradeLoggedIn
  | .account => flow.queryAccountDone
  | .positions => flow.queryPositionDone
  | .orders => flow.queryOrdersDone
  | .trades => flow.queryTradesDone

/-- A message that tells the fact. -/
def message : FlowFact → Message
  | .loggedIn => .accountStateUpdate ⟨⟨"1001"⟩, .loggedIn, some 1, some 7, ⟨0⟩⟩
  | .account => .queryAccountResult ⟨⟨"1001"⟩, ⟨0⟩, ⟨0⟩, ⟨0⟩, ⟨0⟩, ⟨0⟩, ⟨0⟩, ⟨0⟩⟩
  | .positions => .queryPositionResult []
  | .orders => .queryOrdersResult []
  | .trades => .queryTradesResult []

def all : List FlowFact := [.loggedIn, .account, .positions, .orders, .trades]

end FlowFact

/-- A message over the trading connection. -/
def FlowInput.told (message : Message) : FlowInput := .trading (some ⟨none, message⟩)

/-- A tick of an instrument. -/
def FlowInput.ticked (tick : InstrumentId × F64) : FlowInput :=
  .marketData (some ⟨none, .marketDataTick
    ⟨tick.1, "", tick.2, 0, ⟨0⟩, ⟨0⟩, ⟨0⟩, 0, ⟨0⟩, 0, "", 0, ""⟩⟩)

/-- The update that says that an order was filled. -/
def FlowInput.filled (clientOrderId : ClientOrderId) : FlowInput :=
  .told (.orderUpdate ⟨clientOrderId, none, ⟨"1001"⟩, ⟨"CY"⟩, ⟨"au2612"⟩, .buy, .open, .limit, 1,
    1, ⟨0⟩, .filled, none, ⟨0⟩, ⟨0⟩⟩)

/-- The update that says that the account is logged out. -/
def FlowInput.loggedOut : FlowInput :=
  .told (.accountStateUpdate ⟨⟨"1001"⟩, .disconnected, none, none, ⟨0⟩⟩)

namespace Flow

/-! ## Connections are kept -/

/-- Both connections are there. -/
def Linked (flow : Flow) : Prop :=
  flow.trading.connection.isSome ∧ flow.marketData.connection.isSome

theorem linked_callTrading (world : FlowWorld) (call : TradingCall) {flow : Flow}
    (linked : flow.Linked) : (flow.callTrading world call).state.Linked :=
  ⟨TradingClient.isSome_call _ _ call linked.1, linked.2⟩

theorem linked_callMarketData (world : FlowWorld) (call : ClientCall) {flow : Flow}
    (linked : flow.Linked) : (flow.callMarketData world call).state.Linked :=
  ⟨linked.1, MarketDataClient.isSome_call _ _ call linked.2⟩

/-- Once its connections were made, a session has them until it ends. -/
def Settled (flow : Flow) : Prop :=
  flow.stage = .starting ∨ (∃ result, flow.stage = .ended result) ∨ flow.Linked

/-- A block of calls that succeeds over connections, and changes nothing else. -/
def Succeeds (block : Flow → FlowAttempt) : Prop :=
  ∀ flow, flow.Linked → (block flow).Reaches fun after =>
    after.Linked ∧ flow.SameVariables after

section Accepting

variable (millis : Int)

theorem succeeds_callTrading (call : TradingCall) :
    Succeeds (callTrading (.accepting millis) call) := by
  intro flow linked
  refine ⟨?_, linked_callTrading _ call linked, ⟨_, _, rfl⟩⟩
  have accepted := flow.trading.call_accepting call (Or.inl linked.1)
  simp only [callTrading, FlowWorld.accepting, accepted]
  rfl

theorem succeeds_callMarketData (call : ClientCall) :
    Succeeds (callMarketData (.accepting millis) call) := by
  intro flow linked
  refine ⟨?_, linked_callMarketData _ call linked, ⟨_, _, rfl⟩⟩
  have accepted := flow.marketData.call_accepting call (Or.inl linked.2)
  simp only [callMarketData, FlowWorld.accepting, accepted]
  rfl

theorem Succeeds.andThen {block next : Flow → FlowAttempt} (first : Succeeds block)
    (second : Succeeds next) : Succeeds fun flow => (block flow).andThen next := by
  intro flow linked
  apply (first flow linked).andThen
  rintro between ⟨linked, same⟩
  apply (second between linked).mono
  rintro after ⟨linked, still⟩
  exact ⟨linked, same.trans still⟩

/-- The rule for going on after a block that succeeds. -/
theorem Succeeds.run {block next : Flow → FlowAttempt} {target : Flow → Prop} {flow : Flow}
    (succeeds : Succeeds block) (linked : flow.Linked)
    (rest : ∀ trading marketData,
      Linked { flow with trading := trading, marketData := marketData } →
        (next { flow with trading := trading, marketData := marketData }).Reaches target) :
    ((block flow).andThen next).Reaches target := by
  apply (succeeds flow linked).andThen
  rintro after ⟨linked, trading, marketData, rfl⟩
  exact rest trading marketData linked

/-- What the top of the loop does to the variables when its calls succeed. -/
structure Headway (flow after : Flow) : Prop where
  linked : after.Linked
  loggedIn : after.tradeLoggedIn = flow.tradeLoggedIn
  gotTick : after.gotTick = flow.gotTick
  lastTick : after.lastTick = flow.lastTick
  account : after.queryAccountDone = flow.queryAccountDone
  positions : after.queryPositionDone = flow.queryPositionDone
  orders : after.queryOrdersDone = flow.queryOrdersDone
  trades : after.queryTradesDone = flow.queryTradesDone
  finished : after.orderFinished = flow.orderFinished
  held : after.completionHoldDone = flow.completionHoldDone
  ordered : flow.orderSent = true ∨ flow.readyToOrder = true → after.orderSent = true
  named : (flow.orderSent = true → flow.testOrderId.isSome) →
    after.orderSent = true → after.testOrderId.isSome
  holding : flow.orderFinished = true →
    after.completionHoldDone = true ∨ after.holding = true
  left : flow.completionHoldDone = true → after.logoutSent = true
  stage : after.stage = flow.stage

variable (setup : FlowSetup) (accountId : AccountId) (instruments : List InstrumentId)
variable {flow : Flow}

theorem sendQueries_reaches (linked : flow.Linked) :
    (flow.sendQueries (.accepting millis) accountId).Reaches fun after => after.Linked ∧
      ∃ trading marketData queriesSent, after =
        { flow with trading := trading, marketData := marketData, queriesSent := queriesSent } := by
  rw [sendQueries]
  split
  · have block := (((succeeds_callTrading millis (.queryAccount accountId)).andThen
      (succeeds_callTrading millis (.queryPosition accountId none))).andThen
      (succeeds_callTrading millis (.queryOrders accountId))).andThen
      (succeeds_callTrading millis (.queryTrades accountId))
    apply block.run linked
    intro trading marketData linked
    exact Attempt.reaches_done ⟨linked, trading, marketData, true, rfl⟩
  · exact Attempt.reaches_done ⟨linked, flow.trading, flow.marketData, flow.queriesSent, rfl⟩

/-- Where the order can be built, it is placed as soon as everything it waits for is there. -/
theorem sendTestOrder_reaches (linked : flow.Linked)
    (buildable : flow.readyToOrder = true → ∃ order,
      buildPassiveTestOrder setup.env setup.floats millis accountId flow.lastTick = .ok order) :
    (flow.sendTestOrder setup (.accepting millis) accountId).Reaches fun after =>
      after.Linked ∧ ∃ trading marketData testOrderId orderSent, after =
        { flow with
          trading := trading, marketData := marketData, testOrderId := testOrderId,
          orderSent := orderSent } ∧
        (flow.orderSent = true ∨ flow.readyToOrder = true → orderSent = true) ∧
        ((flow.orderSent = true → flow.testOrderId.isSome) →
          orderSent = true → testOrderId.isSome) := by
  rw [sendTestOrder]
  split
  next ready =>
    rcases buildable ready with ⟨order, built⟩
    rw [show (FlowWorld.accepting millis).millis = millis from rfl, built]
    apply (succeeds_callTrading millis (.placeOrder order)).run
    · exact linked
    intro trading marketData linked
    exact Attempt.reaches_done ⟨linked, trading, marketData, some order.clientOrderId, true,
      rfl, fun _ => rfl, fun _ _ => rfl⟩
  next unready =>
    exact Attempt.reaches_done ⟨linked, flow.trading, flow.marketData, flow.testOrderId,
      flow.orderSent, rfl, fun sent => sent.resolve_right unready, id⟩

theorem startHold_eq (flow : Flow) :
    ∃ holding, flow.startHold = { flow with holding := holding } ∧
      (flow.orderFinished = true → flow.completionHoldDone = true ∨ holding = true) := by
  rw [startHold]
  split
  next => exact ⟨true, rfl, fun _ => Or.inr rfl⟩
  next rests =>
    refine ⟨flow.holding, rfl, fun finished => ?_⟩
    simp only [Bool.and_eq_true, Bool.not_eq_eq_eq_not, Bool.not_true, not_and,
      Bool.not_eq_false] at rests
    cases held : flow.completionHoldDone with
    | true => exact Or.inl rfl
    | false => exact Or.inr (rests ⟨finished, held⟩)

theorem sendFarewell_reaches (linked : flow.Linked) :
    (flow.sendFarewell (.accepting millis) accountId instruments).Reaches fun after =>
      after.Linked ∧ ∃ trading marketData logoutSent, after =
        { flow with
          trading := trading, marketData := marketData, logoutSent := logoutSent } ∧
        (flow.completionHoldDone = true → logoutSent = true) := by
  rw [sendFarewell]
  split
  · have block := (succeeds_callMarketData millis (.unsubscribe instruments)).andThen
      (succeeds_callTrading millis (.logoutAccount accountId))
    apply block.run linked
    intro trading marketData linked
    exact Attempt.reaches_done ⟨linked, trading, marketData, true, rfl, fun _ => rfl⟩
  next rests =>
    refine Attempt.reaches_done ⟨linked, flow.trading, flow.marketData, flow.logoutSent, rfl, ?_⟩
    intro held
    simpa [held] using rests

/-- The top of the loop makes headway, and leaves the loop after a logout. -/
theorem head_reaches (linked : flow.Linked)
    (buildable : flow.readyToOrder = true → ∃ order,
      buildPassiveTestOrder setup.env setup.floats millis accountId flow.lastTick = .ok order) :
    (flow.head setup (.accepting millis) accountId instruments).Reaches fun after =>
      ∃ before, flow.Headway before ∧ after = before.leave := by
  have placing : ((flow.sendQueries (.accepting millis) accountId).andThen
      (sendTestOrder setup (.accepting millis) accountId)).Reaches fun after =>
        after.Linked ∧ ∃ trading marketData queriesSent testOrderId orderSent, after =
          { flow with
            trading := trading, marketData := marketData, queriesSent := queriesSent,
            testOrderId := testOrderId, orderSent := orderSent } ∧
          (flow.orderSent = true ∨ flow.readyToOrder = true → orderSent = true) ∧
          ((flow.orderSent = true → flow.testOrderId.isSome) →
            orderSent = true → testOrderId.isSome) := by
    apply (sendQueries_reaches millis accountId linked).andThen
    rintro between ⟨linked, trading, marketData, queriesSent, rfl⟩
    apply (sendTestOrder_reaches millis setup accountId linked buildable).mono
    rintro after ⟨linked, trading, marketData, testOrderId, orderSent, rfl, facts⟩
    exact ⟨linked, trading, marketData, queriesSent, testOrderId, orderSent, rfl, facts⟩
  have forward : (((flow.sendQueries (.accepting millis) accountId).andThen
      (sendTestOrder setup (.accepting millis) accountId)).andThen
        fun flow => sendFarewell (.accepting millis) accountId instruments
          flow.startHold).Reaches flow.Headway := by
    apply placing.andThen
    rintro between ⟨linked, trading, marketData, queriesSent, testOrderId, orderSent, rfl,
      ordered, named⟩
    rcases startHold_eq { flow with
      trading := trading, marketData := marketData, queriesSent := queriesSent,
      testOrderId := testOrderId, orderSent := orderSent } with ⟨holding, same, held⟩
    rw [same]
    refine (sendFarewell_reaches millis accountId instruments ?_).mono ?_
    · exact linked
    · rintro after ⟨linked, trading, marketData, logoutSent, rfl, left⟩
      exact ⟨linked, rfl, rfl, rfl, rfl, rfl, rfl, rfl, rfl, rfl, ordered, named, held, left, rfl⟩
  rw [head]
  apply forward.andThen
  intro before headway
  exact Attempt.reaches_done ⟨before, headway, rfl⟩

end Accepting

/-! ## The way to the end -/

section Toward

variable {setup : FlowSetup} {credentials : AccountCredentials}
variable {instruments : List InstrumentId} {flow : Flow} {millis : Int}
variable {tick : InstrumentId × F64}

/-- The session has ended without an error, or is in its loop with a property. -/
def Toward (credentials : AccountCredentials) (instruments : List InstrumentId)
    (phase : Flow → Prop) (flow : Flow) : Prop :=
  flow.stage = .ended (.ok ()) ∨
    flow.stage = .running credentials instruments ∧ flow.Linked ∧ phase flow

/-- An iteration all of whose calls succeed. -/
theorem next_of_arm (setup : FlowSetup) (running : flow.stage = .running credentials instruments)
    {input : FlowInput} (awaited : flow.awaits input = true) {armed : Flow}
    (arms : flow.arm (.accepting millis) input = .done armed) (linked : armed.Linked)
    (buildable : armed.readyToOrder = true → ∃ order,
      buildPassiveTestOrder setup.env setup.floats millis credentials.accountId
        armed.lastTick = .ok order) :
    ∃ before, armed.Headway before ∧
      (machine setup).next flow (.accepting millis, input) = before.leave := by
  rcases head_reaches millis setup credentials.accountId instruments linked buildable with
    ⟨succeeds, before, headway, left⟩
  refine ⟨before, headway, ?_⟩
  have advanced : flow.advance setup (.accepting millis) input =
      armed.head setup (.accepting millis) credentials.accountId instruments := by
    simp only [advance, running, awaited, if_true, arms, Attempt.done, Attempt.andThen,
      List.nil_append]
  change conclude (flow.advance setup (.accepting millis) input) = before.leave
  rw [advanced, conclude, succeeds]
  exact left

theorem next_of_ended {result : Except FlowError Unit} (ended : flow.stage = .ended result)
    (world : FlowWorld) (input : FlowInput) :
    (machine setup).next flow (world, input) = flow := by
  simp only [Machine.next, machine, advance, ended, conclude, Attempt.done]

/-- The rule for one input on the way. -/
theorem Toward.next {phase target : Flow → Prop} {input : FlowInput}
    (toward : Toward credentials instruments phase flow)
    (built : ∃ order, buildPassiveTestOrder setup.env setup.floats millis
      credentials.accountId (some tick) = .ok order)
    (moves : flow.Linked → phase flow → ∃ armed, flow.awaits input = true ∧
      flow.arm (.accepting millis) input = .done armed ∧ armed.Linked ∧
      armed.stage = flow.stage ∧ armed.lastTick = some tick ∧
      ∀ before, armed.Headway before → target before) :
    Toward credentials instruments target
      ((machine setup).next flow (.accepting millis, input)) := by
  rcases toward with ended | ⟨running, linked, holds⟩
  · rw [next_of_ended ended]
    exact Or.inl ended
  · rcases moves linked holds with ⟨armed, awaited, arms, linked, sameStage, last, reached⟩
    rcases next_of_arm setup running awaited arms linked (by rw [last]; exact fun _ => built) with
      ⟨before, headway, next⟩
    rw [next, leave]
    split
    · exact Or.inl rfl
    · exact Or.inr ⟨headway.stage.trans (sameStage.trans running), headway.linked,
        reached before headway⟩

/-- The session remembers the id of its order. -/
def Remembers (flow : Flow) : Prop :=
  flow.orderSent = true → flow.testOrderId.isSome

theorem Headway.holds {before : Flow} (headway : flow.Headway before) (fact : FlowFact) :
    fact.holds before = fact.holds flow := by
  cases fact with
  | loggedIn => exact headway.loggedIn
  | account => exact headway.account
  | positions => exact headway.positions
  | orders => exact headway.orders
  | trades => exact headway.trades

/-- Where a session stands after a run, and what it has. -/
def Standing (setup : FlowSetup) (flow : Flow) : Prop :=
  (∃ sent, flow.Scripted setup sent) ∧ flow.Settled

theorem Standing.linked (standing : flow.Standing setup) {stage : FlowStage}
    (at_ : flow.stage = stage) (begun : stage ≠ .starting)
    (going : ∀ result, stage ≠ .ended result) : flow.Linked := by
  rcases standing.2 with first | ⟨result, last⟩ | linked
  · exact absurd (at_.symm.trans first) begun
  · exact absurd (at_.symm.trans last) (going result)
  · exact linked

variable {value : String}

end Toward

/-- The environment of a terminal that trades one instrument, with the operations as they
are on a last price of zero. -/
def demoSetup : FlowSetup where
  clientId := ⟨"CY"⟩
  env
    | "CTP_CLIENT_USER_ID" => some "1001"
    | "CTP_CLIENT_PASSWORD" => some "secret"
    | "CTP_BROKER_ID" => some "9999"
    | "CTP_APP_ID" => some "simnow_client_test"
    | "CTP_AUTH_CODE" => some "0000000000000000"
    | "CTP_INSTRUMENTS" => some "au2612"
    | _ => none
  floats :=
    { parse := fun _ => .error "invalid float literal"
      mul := fun price _ => price
      floor := id
      ceil := id
      max := fun _ least => least }

end Flow

end CtpSystem
