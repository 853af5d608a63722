import Mathlib.Data.Finset.Image
import CtpSystem.MarketData.Deltas

/-!
# Ticks reach their subscribers

The receivers of a tick are read from two tables: who subscribed to the instrument, and
the channel each client registered.  Both hold the last word of the run on their topic.
-/

namespace CtpSystem

open Reactive

namespace MarketDataInput

/-- The table call an input makes. -/
def tableCall : MarketDataInput → Option TableCall
  | .subscribe clientId instruments => some (.subscribe clientId instruments)
  | .unsubscribe clientId instruments => some (.unsubscribe clientId instruments)
  | .remove clientId => some (.remove clientId)
  | .hello _ _ _ | .publish _ | .command _ | .event _ _ => none

/-- What an input tells about the interest of a client in an instrument. -/
def interest (client key : String) (input : MarketDataInput) : Option Bool :=
  input.tableCall.bind (TableCall.interest client key)

/-- What an input tells about the channel of a client: a hello registers it, a removal
of the client drops it. -/
def registration (client : String) : MarketDataInput → Option (Option EnvelopeTx)
  | .hello clientId _ outbound =>
      if clientId.asStr = client then some (some outbound) else none
  | .remove clientId => if clientId.asStr = client then some none else none
  | .subscribe _ _ | .unsubscribe _ _ | .publish _ | .command _ | .event _ _ => none

end MarketDataInput

/-- The channel a client is registered with. -/
def channelOf (shared : ServerActorState) (client : String) : Option EnvelopeTx :=
  (shared.marketDataClients.lookup client).map (·.outbound)

theorem channelOf_register (shared : ServerActorState) (clientId : ClientId) (peer : String)
    (outbound : EnvelopeTx) (client : String) :
    channelOf (shared.registerMarketDataClient clientId peer outbound) client =
      if clientId.asStr = client then some outbound else channelOf shared client := by
  by_cases same : clientId.asStr = client
  · subst same
    simp [channelOf, ServerActorState.registerMarketDataClient]
  · simp [channelOf, ServerActorState.registerMarketDataClient, same,
      AList.lookup_insert_ne (Ne.symm same)]

theorem channelOf_remove (shared : ServerActorState) (clientId : ClientId)
    (client : String) :
    channelOf (shared.removeExchangeMarketDataClient clientId).1 client =
      if clientId.asStr = client then none else channelOf shared client := by
  simp only [channelOf, ServerActorState.removeExchangeMarketDataClient,
    ServerActorState.removeMarketDataClientSubscriptions]
  by_cases same : clientId.asStr = client
  · subst same
    simp
  · simp [same, AList.lookup_erase_ne (Ne.symm same)]

/-- The table follows the calls the inputs make. -/
theorem subscriptions_next (system : MarketDataSystem) (input : MarketDataInput) :
    (MarketDataSystem.machine.next system input).shared.marketDataSubscriptions =
      input.tableCall.elim system.shared.marketDataSubscriptions
        fun call => (call.perform system.shared).1.marketDataSubscriptions := by
  cases input with
  | publish number =>
      exact congrArg _ (MarketDataSystem.publish_shared system number)
  | command surroundings =>
      simp only [Machine.next, MarketDataSystem.machine, MarketDataSystem.step]
      cases system.channel with
      | nil => rfl
      | cons command rest => cases system.actor.takesCommand <;> rfl
  | hello | subscribe | unsubscribe | remove | event => rfl

/-- An input sets the interests it tells about and leaves the others. -/
theorem interest_next (client key : String) (system : MarketDataSystem)
    (input : MarketDataInput) :
    decide (client ∈ subscribersOf
        (MarketDataSystem.machine.next system input).shared.marketDataSubscriptions key) =
      (input.interest client key).getD
        (decide (client ∈ subscribersOf system.shared.marketDataSubscriptions key)) := by
  rw [subscriptions_next, MarketDataInput.interest]
  cases input.tableCall with
  | none => rfl
  | some call => exact subscribersOf_perform system.shared call client key

/-- An input sets the channels it tells about and leaves the others. -/
theorem registration_next (client : String) (system : MarketDataSystem)
    (input : MarketDataInput) :
    channelOf (MarketDataSystem.machine.next system input).shared client =
      (input.registration client).getD (channelOf system.shared client) := by
  cases input with
  | hello clientId peer outbound =>
      rw [MarketDataInput.registration, apply_ite (Option.getD · (channelOf system.shared client))]
      exact channelOf_register system.shared clientId peer outbound client
  | remove clientId =>
      rw [MarketDataInput.registration, apply_ite (Option.getD · (channelOf system.shared client))]
      exact channelOf_remove system.shared clientId client
  | publish number =>
      exact congrArg (channelOf · client) (MarketDataSystem.publish_shared system number)
  | command surroundings =>
      simp only [Machine.next, MarketDataSystem.machine, MarketDataSystem.step]
      cases system.channel with
      | nil => rfl
      | cons command rest => cases system.actor.takesCommand <;> rfl
  | subscribe | unsubscribe | event => rfl

/-! ## Who fans out -/

theorem fanout_notMem_mdRequested (called : List (MdRequest × Int32) × Except String Unit)
    (channels : Multiset EnvelopeTx) (message : Message) :
    .fanout channels message ∉ mdRequested called := by
  simp [mdRequested]

theorem fanout_notMem_command (actor : MdActor) (surroundings : MdSurroundings)
    (command : MarketDataSessionCommand) (channels : Multiset EnvelopeTx)
    (message : Message) :
    .fanout channels message ∉ (actor.command surroundings command).2 := by
  have handled : ∀ session, .fanout channels message ∉
      (actor.handleMarketDataCommand surroundings session command).2 := by
    intro session
    rw [MdActor.handleMarketDataCommand]
    split
    · exact fanout_notMem_mdRequested _ channels message
    · exact List.not_mem_nil
  rw [MdActor.command]
  cases actor.session with
  | some session => exact handled session
  | none =>
      cases createMdSession surroundings with
      | error _ => exact List.not_mem_nil
      | ok created =>
          simp only
          cases created.connect surroundings with
          | error _ => exact List.not_mem_nil
          | ok session => exact handled session

theorem fanout_notMem_waitMarketDataLogin (actor : MdActor) (surroundings : MdSurroundings)
    (session : MdSession) (command : MarketDataSessionCommand) (event : CtpEvent)
    (channels : Multiset EnvelopeTx) (message : Message) :
    .fanout channels message ∉
      (actor.waitMarketDataLogin surroundings session command event).2 := by
  cases event with
  | frontConnected =>
      simp only [MdActor.waitMarketDataLogin]
      cases (session.login surroundings.rc).2 <;>
        exact fanout_notMem_mdRequested _ channels message
  | loginOk => exact fanout_notMem_mdRequested _ channels message
  | loginFailed | error | frontDisconnected | heartBeatWarning | subscribeOk
  | subscribeFailed | marketData => exact List.not_mem_nil

/-- Only the loop of the actor fans out, one tick at a time. -/
theorem fanout_inversion {system : MarketDataSystem} {input : MarketDataInput}
    {channels : Multiset EnvelopeTx} {message : Message}
    (fanned : .fanout channels message ∈ MarketDataSystem.machine.emits system input) :
    ∃ surroundings tick, input = .event surroundings (.marketData tick) ∧
      MarketDataSystem.machine.emits system input =
        [fanoutMarketDataTick system.shared tick] := by
  cases input with
  | hello | subscribe | unsubscribe | remove | publish => exact absurd fanned List.not_mem_nil
  | command surroundings =>
      simp only [Machine.emits, MarketDataSystem.machine, MarketDataSystem.step] at fanned
      cases waiting : system.channel with
      | nil => simp [waiting] at fanned
      | cons command rest =>
          simp only [waiting] at fanned
          cases takes : system.actor.takesCommand with
          | false => simp [takes] at fanned
          | true =>
              rw [if_pos takes] at fanned
              exact absurd fanned (fanout_notMem_command _ surroundings command _ _)
  | event surroundings event =>
      rcases system with ⟨shared, pending, channel, ⟨session, loggedIn, waiting⟩⟩
      cases session with
      | none => exact absurd fanned List.not_mem_nil
      | some session =>
          cases waiting with
          | some command =>
              exact absurd fanned (fanout_notMem_waitMarketDataLogin _ surroundings session
                command event channels message)
          | none =>
              cases event with
              | marketData tick => exact ⟨surroundings, tick, rfl, rfl⟩
              | frontConnected =>
                  exact absurd fanned (fanout_notMem_mdRequested _ channels message)
              | loginOk message' =>
                  simp only [Machine.emits, MarketDataSystem.machine, MarketDataSystem.step,
                    MdActor.event, MdActor.handleMarketDataEvent,
                    MdActor.resubscribeMarketData] at fanned
                  split at fanned
                  · exact absurd fanned List.not_mem_nil
                  · exact absurd fanned (fanout_notMem_mdRequested _ channels message)
              | frontDisconnected | loginFailed | subscribeOk | subscribeFailed
              | heartBeatWarning | error => exact absurd fanned List.not_mem_nil

/-! ## Every run -/

/-- Whom a tick is owed after some inputs: the clients whose last word on the instrument
is a subscription, each with the channel of its last hello unless it was removed since. -/
def TickOwed (inputs : List MarketDataInput) (key client : String)
    (outbound : EnvelopeTx) : Prop :=
  lastWord (MarketDataInput.interest client key) inputs = some true ∧
    lastWord (MarketDataInput.registration client) inputs = some (some outbound)

/-- The subscribers of an instrument with their channels. -/
def receivers (shared : ServerActorState) (key : String) : Finset (String × EnvelopeTx) :=
  (subscribersOf shared.marketDataSubscriptions key).filterMap
    (fun client => (channelOf shared client).map (client, ·))
    (by
      intro first second receiver firstMember secondMember
      rcases Option.map_eq_some_iff.mp firstMember with ⟨_, -, rfl⟩
      rcases Option.map_eq_some_iff.mp secondMember with ⟨_, -, same⟩
      exact (congrArg Prod.fst same).symm)

theorem mem_receivers {shared : ServerActorState} {key client : String}
    {outbound : EnvelopeTx} :
    (client, outbound) ∈ receivers shared key ↔
      client ∈ subscribersOf shared.marketDataSubscriptions key ∧
        channelOf shared client = some outbound := by
  simp [receivers, Finset.mem_filterMap]

/-- A tick is sent on the channel of every receiver. -/
theorem fanoutMarketDataTick_eq (shared : ServerActorState) (tick : MarketDataTick) :
    fanoutMarketDataTick shared tick =
      .fanout ((receivers shared tick.instrumentId).val.map (·.2))
        (.marketDataTick (marketDataTickMessage tick)) := by
  rw [fanoutMarketDataTick, receivers, Finset.filterMap_val, Multiset.map_filterMap]
  apply congrArg (MdEffect.fanout · _)
  apply congrArg (Multiset.filterMap · _)
  funext client
  rw [Option.map_map, channelOf]
  cases shared.marketDataClients.lookup client <;> rfl

theorem mem_receivers_run (inputs : List MarketDataInput) (key client : String)
    (outbound : EnvelopeTx) :
    (client, outbound) ∈ receivers (MarketDataSystem.machine.runFrom {} inputs).shared key ↔
      TickOwed inputs key client outbound := by
  have interests := MarketDataSystem.machine.read_runFrom
    (fun system => decide (client ∈ subscribersOf system.shared.marketDataSubscriptions key))
    (MarketDataInput.interest client key)
    (fun system input => interest_next client key system input) {} inputs
  have channels := MarketDataSystem.machine.read_runFrom
    (fun system => channelOf system.shared client) (MarketDataInput.registration client)
    (fun system input => registration_next client system input) {} inputs
  rw [mem_receivers, TickOwed, channels]
  apply and_congr
  · apply decide_eq_true_iff.symm.trans
    rw [interests]
    cases lastWord (MarketDataInput.interest client key) inputs with
    | none => simp [subscribersOf]
    | some word => simp
  · cases lastWord (MarketDataInput.registration client) inputs with
    | none => simp [channelOf]
    | some word => simp

/-- A fanned out tick is sent once for each client it is owed, on that client's channel,
and to nobody else. -/
theorem ticks_reach_subscribers (inputs : List MarketDataInput) (input : MarketDataInput)
    (channels : Multiset EnvelopeTx) (message : Message)
    (fanned : .fanout channels message ∈ MarketDataSystem.machine.emits
      (MarketDataSystem.machine.runFrom {} inputs) input) :
    ∃ surroundings tick owed, input = .event surroundings (.marketData tick) ∧
      message = .marketDataTick (marketDataTickMessage tick) ∧
      MarketDataSystem.machine.emits (MarketDataSystem.machine.runFrom {} inputs) input =
        [.fanout channels message] ∧
      (∀ client outbound, (client, outbound) ∈ owed ↔
        TickOwed inputs tick.instrumentId client outbound) ∧
      channels = Multiset.map Prod.snd (Finset.val owed) := by
  rcases fanout_inversion fanned with ⟨surroundings, tick, rfl, emitted⟩
  rw [emitted, List.mem_singleton, fanoutMarketDataTick_eq] at fanned
  rcases MdEffect.fanout.inj fanned with ⟨sent, rfl⟩
  refine ⟨surroundings, tick, _, rfl, rfl, ?_, ?_, sent⟩
  · rw [emitted, fanoutMarketDataTick_eq, sent]
  · intro client outbound
    exact mem_receivers_run inputs tick.instrumentId client outbound

/-- The session is logged in, two clients subscribed one instrument, the first said hello
again on another channel and the second was removed. -/
def MarketDataInput.reconnectedInputs : List MarketDataInput :=
  [.hello ⟨"CY"⟩ "10.0.0.1:9" ⟨1⟩, .hello ⟨"HB"⟩ "10.0.0.2:9" ⟨2⟩,
    .subscribe ⟨"CY"⟩ [⟨"rb2610"⟩], .subscribe ⟨"HB"⟩ [⟨"rb2610"⟩], .publish 0,
    .command .accepting, .event .accepting .frontConnected,
    .event .accepting (.loginOk "20260401"),
    .hello ⟨"CY"⟩ "10.0.0.1:10" ⟨3⟩, .remove ⟨"HB"⟩]

/-- A tick of their instrument. -/
def MarketDataTick.sample : MarketDataTick :=
  ⟨"rb2610", "SHFE", ⟨0⟩, 10, ⟨0⟩, ⟨0⟩, ⟨0⟩, 1, ⟨0⟩, 1, "09:30:00", 500, "20260401"⟩

theorem ticks_reach_subscribers_reconnected :
    ∃ owed : Finset (String × EnvelopeTx),
      (∀ client outbound, (client, outbound) ∈ owed ↔
        TickOwed MarketDataInput.reconnectedInputs "rb2610" client outbound) ∧
      ({⟨3⟩} : Multiset EnvelopeTx) = Multiset.map Prod.snd (Finset.val owed) := by
  rcases ticks_reach_subscribers MarketDataInput.reconnectedInputs
    (.event .accepting (.marketData .sample)) {⟨3⟩}
    (.marketDataTick (marketDataTickMessage .sample)) (by decide) with
    ⟨surroundings, tick, owed, same, -, -, exactly, sent⟩
  cases same
  exact ⟨owed, exactly, sent⟩

end CtpSystem
