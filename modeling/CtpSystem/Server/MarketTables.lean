import CtpSystem.MarketData.Fanout
import CtpSystem.Server.Access

/-!
# The gateway and the market-data tables

What one step of the gateway does to the registered market-data clients and to the
subscription table: each of them is told its last word by envelopes on the market-data
endpoint and by cleanups.
-/

namespace CtpSystem

open Reactive

/-- The client a market-data hello registers. -/
def Envelope.greeting (envelope : Envelope) : Option ClientId :=
  match envelope.payload with
  | .marketDataHello clientId => some clientId
  | _ => none

/-- The table call of an envelope on the market-data endpoint. -/
def Envelope.tableCall (envelope : Envelope) : Option TableCall :=
  match envelope.payload with
  | .subscribeMarketData instruments => envelope.clientId.map (.subscribe · instruments)
  | .unsubscribeMarketData instruments => envelope.clientId.map (.unsubscribe · instruments)
  | _ => none

namespace GatewayInput

/-- The table call an input makes. -/
def tableCall : GatewayInput → Option TableCall
  | .envelope .marketData _ _ sent => sent.tableCall
  | .envelope .trading _ _ _ | .accountState _ _ => none
  | .disconnected clientId => some (.remove clientId)

/-- What an input tells about the interest of a client in an instrument. -/
def interest (client key : String) (input : GatewayInput) : Option Bool :=
  input.tableCall.bind (TableCall.interest client key)

/-- What an input tells about the channel of a client. -/
def registration (client : String) : GatewayInput → Option (Option EnvelopeTx)
  | .envelope .marketData _ outbound sent =>
      sent.greeting.bind fun clientId =>
        if clientId.asStr = client then some (some outbound) else none
  | .envelope .trading _ _ _ | .accountState _ _ => none
  | .disconnected clientId => if clientId.asStr = client then some none else none

end GatewayInput

/-! ## Trading leaves the tables alone -/

/-- The market-data side of the shared state. -/
def marketTables (state : ServerActorState) :
    HashMap String MarketDataClientActor × Option MarketDataSessionActor × SubscriptionTable :=
  (state.marketDataClients, state.marketDataSession, state.marketDataSubscriptions)

/-- Access rules register nobody for market data. -/
theorem marketTables_fromConfig (config : ServerConfig) :
    marketTables (.fromConfig config) = (∅, none, ∅) :=
  fromConfig_frame marketTables (fun _ _ _ _ => rfl) config

theorem marketTables_sendChecked (world : GatewayWorld) (state : ServerActorState)
    (check : Except String Unit) (accountId : AccountId) (command : TradeSessionCommand) :
    marketTables (state.sendChecked world check accountId command).state =
      marketTables state := by
  simp only [ServerActorState.sendChecked]
  split
  · rfl
  · simp only [ServerActorState.sendTradeCommand]
    split
    · rfl
    · split <;> rfl

theorem marketTables_perform (world : GatewayWorld) (state : ServerActorState)
    (clientId : ClientId) (replyTo : EnvelopeTx) (call : AccountCall) :
    marketTables (state.perform world clientId replyTo call).state = marketTables state := by
  cases call with
  | bindAccount credentials =>
      simp only [ServerActorState.perform, ServerActorState.bindAccount]
      split
      · rfl
      · split
        · rfl
        · split <;> rfl
  | placeOrder | cancelOrder | queryAccount | queryPosition | queryOrders | queryTrades
  | logoutAccount => exact marketTables_sendChecked _ _ _ _ _

theorem marketTables_trading (world : GatewayWorld) (peer : String)
    (state : ServerActorState) (outbound : EnvelopeTx) (envelope : Envelope) :
    marketTables (handleEnvelope world .trading peer state outbound envelope).state =
      marketTables state := by
  simp only [handleEnvelope]
  split
  · rw [Handled.send_state]
    rfl
  next => contradiction
  next => contradiction
  next => contradiction
  · split
    · simp only [handleAccountCall]
      split
      · rw [Handled.send_state]
      · split
        · exact marketTables_perform _ _ _ _ _
        · rw [Handled.send_state]
          exact marketTables_perform _ _ _ _ _
    · rw [Handled.send_state]
  next => contradiction

/-! ## One step of the gateway -/

/-- What one step does on the market-data side. -/
inductive MarketCase (state : ServerActorState) (world : GatewayWorld) :
    GatewayInput → ServerActorState → List GatewayEffect → Prop where
  /-- Nothing. -/
  | aside (input : GatewayInput) (next : ServerActorState) (effects : List GatewayEffect)
      (silent : input.tableCall = none) (unregistered : ∀ client, input.registration client = none)
      (kept : marketTables next = marketTables state) :
      MarketCase state world input next effects
  | registered (peer : String) (outbound : EnvelopeTx) (sender : Option ClientId)
      (clientId : ClientId) (effects : List GatewayEffect) :
      MarketCase state world
        (.envelope .marketData peer outbound ⟨sender, .marketDataHello clientId⟩)
        (state.registerMarketDataClient clientId peer outbound) effects
  | subscribed (peer : String) (outbound : EnvelopeTx) (clientId : ClientId)
      (instruments : List InstrumentId) (effects : List GatewayEffect) :
      MarketCase state world
        (.envelope .marketData peer outbound ⟨some clientId, .subscribeMarketData instruments⟩)
        (state.subscribeExchangeMarketData clientId instruments).1 effects
  | unsubscribed (peer : String) (outbound : EnvelopeTx) (clientId : ClientId)
      (instruments : List InstrumentId) :
      MarketCase state world
        (.envelope .marketData peer outbound
          ⟨some clientId, .unsubscribeMarketData instruments⟩)
        (state.unsubscribeExchangeMarketData clientId instruments).1
        (Handled.publish world.marketDataClosed
          (state.unsubscribeExchangeMarketData clientId instruments)).effects
  | disconnected (clientId : ClientId) :
      MarketCase state world (.disconnected clientId)
        (state.removeExchangeMarketDataClient clientId).1
        (Handled.publish world.marketDataClosed
          (state.removeExchangeMarketDataClient clientId)).effects

/-- Every step is one of those cases. -/
theorem market_case (state : ServerActorState) (world : GatewayWorld) (input : GatewayInput) :
    MarketCase state world input (gatewayStep state world input).1
      (gatewayStep state world input).2 := by
  cases input with
  | accountState accountId connection => exact .aside _ _ _ rfl (fun _ => rfl) rfl
  | disconnected clientId =>
      simp only [gatewayStep, Handled.publish_state]
      exact .disconnected clientId
  | envelope kind peer outbound sent =>
      cases kind with
      | trading =>
          exact .aside _ _ _ rfl (fun _ => rfl)
            (marketTables_trading world peer state outbound sent)
      | marketData =>
          rcases sent with ⟨sender, payload⟩
          cases payload with
          | marketDataHello clientId =>
              simp only [gatewayStep, handleEnvelope, Handled.send_state]
              exact .registered peer outbound sender clientId _
          | subscribeMarketData instruments =>
              cases sender with
              | none =>
                  simp only [gatewayStep, handleEnvelope, Handled.send_state]
                  exact .aside _ _ _ rfl (fun _ => rfl) rfl
              | some clientId =>
                  simp only [gatewayStep, handleEnvelope, Handled.publish_state]
                  exact .subscribed peer outbound clientId instruments _
          | unsubscribeMarketData instruments =>
              cases sender with
              | none =>
                  simp only [gatewayStep, handleEnvelope, Handled.send_state]
                  exact .aside _ _ _ rfl (fun _ => rfl) rfl
              | some clientId =>
                  simp only [gatewayStep, handleEnvelope, Handled.publish_state]
                  exact .unsubscribed peer outbound clientId instruments
          | _ =>
              simp only [gatewayStep, handleEnvelope, Handled.send_state]
              exact .aside _ _ _ rfl (fun _ => rfl) rfl

section Step

variable (state : ServerActorState) (world : GatewayWorld) (input : GatewayInput)

/-- The table follows the calls the inputs make. -/
theorem subscriptions_gatewayStep :
    (gatewayStep state world input).1.marketDataSubscriptions =
      input.tableCall.elim state.marketDataSubscriptions
        fun call => (call.perform state).1.marketDataSubscriptions := by
  have stepped := market_case state world input
  generalize (gatewayStep state world input).1 = next at stepped ⊢
  generalize (gatewayStep state world input).2 = effects at stepped
  cases stepped with
  | aside _ _ _ silent unregistered kept =>
      rw [silent]
      exact congrArg (·.2.2) kept
  | registered | subscribed | unsubscribed | disconnected => rfl

/-- An input sets the interests it tells about and leaves the others. -/
theorem interest_gatewayStep (client key : String) :
    decide (client ∈ subscribersOf (gatewayStep state world input).1.marketDataSubscriptions
        key) =
      (input.interest client key).getD
        (decide (client ∈ subscribersOf state.marketDataSubscriptions key)) := by
  rw [subscriptions_gatewayStep, GatewayInput.interest]
  cases input.tableCall with
  | none => rfl
  | some call => exact subscribersOf_perform state call client key

/-- No step leaves an empty set. -/
theorem noEmptySet_gatewayStep (noEmpty : NoEmptySet state.marketDataSubscriptions) :
    NoEmptySet (gatewayStep state world input).1.marketDataSubscriptions := by
  rw [subscriptions_gatewayStep]
  cases input.tableCall with
  | none => exact noEmpty
  | some call => exact noEmptySet_perform state call noEmpty

/-- An input sets the channels it tells about and leaves the others. -/
theorem registration_gatewayStep (client : String) :
    channelOf (gatewayStep state world input).1 client =
      (input.registration client).getD (channelOf state client) := by
  have stepped := market_case state world input
  generalize (gatewayStep state world input).1 = next at stepped ⊢
  generalize (gatewayStep state world input).2 = effects at stepped
  cases stepped with
  | aside _ _ _ silent unregistered kept =>
      have clients := congrArg Prod.fst kept
      simp only [marketTables] at clients
      rw [unregistered, channelOf, clients]
      rfl
  | registered peer outbound sender clientId =>
      rw [channelOf_register, GatewayInput.registration, Envelope.greeting, Option.bind_some,
        apply_ite (Option.getD · (channelOf state client))]
      rfl
  | subscribed | unsubscribed => rfl
  | disconnected clientId =>
      rw [channelOf_remove, GatewayInput.registration,
        apply_ite (Option.getD · (channelOf state client))]
      rfl

end Step

/-! ## Instruments without subscribers -/

/-- No instrument is kept without a subscriber, and there is an actor to tell about those
that are kept. -/
structure TablesSound (state : ServerActorState) : Prop where
  noEmpty : NoEmptySet state.marketDataSubscriptions
  session : ∀ key, key ∈ state.marketDataSubscriptions → state.marketDataSession.isSome

theorem tablesSound_gatewayStep {state : ServerActorState} (sound : TablesSound state)
    (world : GatewayWorld) (input : GatewayInput) :
    TablesSound (gatewayStep state world input).1 := by
  refine ⟨noEmptySet_gatewayStep state world input sound.noEmpty, ?_⟩
  have stepped := market_case state world input
  generalize (gatewayStep state world input).1 = next at stepped ⊢
  generalize (gatewayStep state world input).2 = effects at stepped
  cases stepped with
  | aside _ _ _ silent unregistered kept =>
      rw [marketTables, marketTables, Prod.mk.injEq, Prod.mk.injEq] at kept
      exact kept.2.2 ▸ kept.2.1 ▸ sound.session
  | registered => exact sound.session
  | subscribed peer outbound clientId instruments =>
      intro key present
      rfl
  | unsubscribed peer outbound clientId instruments =>
      intro key present
      exact sound.session key
        ((mem_unsubscribeInstruments clientId sound.noEmpty instruments key).mp present).1
  | disconnected clientId =>
      intro key present
      exact sound.session key (mem_removeClientSubscriptions.mp present).1

/-- An input leaves an instrument without subscribers: it withdraws the interest of each. -/
def GatewayInput.Orphans (input : GatewayInput) (state : ServerActorState) (key : String) :
    Prop :=
  key ∈ state.marketDataSubscriptions ∧
    ∀ client ∈ subscribersOf state.marketDataSubscriptions key,
      input.interest client key = some false

/-- The instruments that leave the table are those left without subscribers. -/
theorem orphans_iff {state : ServerActorState} (sound : TablesSound state)
    (world : GatewayWorld) (input : GatewayInput) (key : String) :
    input.Orphans state key ↔
      key ∈ state.marketDataSubscriptions ∧
        key ∉ (gatewayStep state world input).1.marketDataSubscriptions := by
  apply and_congr_right
  intro present
  rw [subscriptions_gatewayStep]
  exact (left_iff sound.noEmpty input.tableCall present).symm

/-- A release is handed to the actor exactly when the actor still runs. -/
theorem handed_publish {closed : Bool}
    {delta : ServerActorState × Option MarketDataSessionCommand}
    {exchange : List InstrumentId} {key : String}
    (told : delta.2 = some (.unsubscribe exchange)) (released : ⟨key⟩ ∈ exchange) :
    (∃ instruments, .publish (.unsubscribe instruments) ∈
        (Handled.publish closed delta).effects ∧ ⟨key⟩ ∈ instruments) ↔ closed = false := by
  simp only [Handled.publish, told]
  cases closed with
  | true => simp
  | false => simp [released]

/-- An instrument left without subscribers is handed to the market-data actor exactly when
the actor still runs. -/
theorem handed_iff {state : ServerActorState} (sound : TablesSound state)
    (world : GatewayWorld) (input : GatewayInput) {key : String}
    (orphaned : input.Orphans state key) :
    (∃ instruments, .publish (.unsubscribe instruments) ∈ (gatewayStep state world input).2 ∧
        ⟨key⟩ ∈ instruments) ↔ world.marketDataClosed = false := by
  have left := (orphans_iff sound world input key).mp orphaned
  have session := sound.session key left.1
  have stepped := market_case state world input
  generalize (gatewayStep state world input).1 = next at stepped left
  generalize (gatewayStep state world input).2 = effects at stepped ⊢
  cases stepped with
  | aside _ _ _ silent unregistered kept =>
      have same := congrArg (·.2.2) kept
      simp only [marketTables] at same
      exact absurd (same ▸ left.1) left.2
  | registered => exact absurd left.1 left.2
  | subscribed peer outbound clientId instruments =>
      exact absurd ((mem_subscribeInstruments clientId _ instruments key).mpr (Or.inl left.1))
        left.2
  | unsubscribed peer outbound clientId instruments =>
      have released : ⟨key⟩ ∈
          (unsubscribeInstruments clientId state.marketDataSubscriptions instruments).2 := by
        by_contra kept
        exact left.2 ((mem_unsubscribeInstruments clientId sound.noEmpty instruments key).mpr
          ⟨left.1, kept⟩)
      exact handed_publish (if_pos ⟨session, List.ne_nil_of_mem released⟩) released
  | disconnected clientId =>
      have released : ⟨key⟩ ∈
          (removeClientSubscriptions clientId state.marketDataSubscriptions).2 := by
        by_contra kept
        exact left.2 (mem_removeClientSubscriptions.mpr ⟨left.1, kept⟩)
      exact handed_publish (if_pos ⟨session, List.ne_nil_of_mem released⟩) released

end CtpSystem
