import CtpSystem.Library.Publication
import CtpSystem.MarketData.Dispatch

/-!
# The exchange follows the table

With the session logged in, the table is the primary value of a publication whose
changes are the exchange deltas and whose replica is what the exchange has subscribed.
The deltas are announced after the lock was released, so the exchange agrees with the
table as long as no delta overtakes an earlier one that names a same instrument.
-/

namespace CtpSystem

open Reactive

/-- What the exchange has subscribed after some effects of the actor. -/
def subscribedAfter (effects : List MdEffect) (exchange : Finset String) : Finset String :=
  effects.foldl
    (fun exchange effect =>
      match effect with
      | .request (.subscribeMarketData instruments) rc =>
          if rc = 0 then exchange ∪ instruments.toFinset else exchange
      | .request (.unsubscribeMarketData instruments) rc =>
          if rc = 0 then exchange \ instruments.toFinset else exchange
      | _ => exchange)
    exchange

/-- The market-data side, watched at the exchange. -/
def watchExchange : Machine (MarketDataSystem × Finset String) MarketDataInput MdEffect :=
  MarketDataSystem.machine.observe ∅ fun exchange system input =>
    subscribedAfter (MarketDataSystem.machine.emits system input) exchange

theorem watchExchange_next (system : MarketDataSystem) (exchange : Finset String)
    (input : MarketDataInput) :
    watchExchange.next (system, exchange) input =
      ((system.step input).1, subscribedAfter (system.step input).2 exchange) := rfl

/-- The system as a publication. -/
def publicationOf (watched : MarketDataSystem × Finset String) :
    Publication (Finset String) MarketDataSessionCommand where
  primary := keySet watched.1.shared.marketDataSubscriptions
  replica := watched.2
  pending := watched.1.pending
  channel := watched.1.channel

/-- Inputs that keep the session logged in and under which every request succeeds. -/
def MarketDataInput.keepsLogin : MarketDataInput → Bool
  | .command surroundings => surroundings.rc = 0
  | .event _ (.loginOk _) | .event _ (.loginFailed _ _) | .event _ (.frontDisconnected _) =>
      false
  | _ => true

/-- A delta that is enqueued names no instrument of a delta that was decided earlier and
is not enqueued yet. -/
def NoOvertaking (watched : MarketDataSystem × Finset String) : MarketDataInput → Prop
  | .publish number =>
      ∀ command ∈ watched.1.pending[number]?, ∀ earlier ∈ watched.1.pending.take number,
        ∀ instrument ∈ command.instruments, instrument ∉ earlier.instruments
  | _ => True

instance (watched : MarketDataSystem × Finset String) :
    (input : MarketDataInput) → Decidable (NoOvertaking watched input)
  | .publish number =>
      inferInstanceAs (Decidable (∀ command ∈ watched.1.pending[number]?,
        ∀ earlier ∈ watched.1.pending.take number,
          ∀ instrument ∈ command.instruments, instrument ∉ earlier.instruments))
  | .hello _ _ _ | .subscribe _ _ | .unsubscribe _ _ | .remove _ | .command _ | .event _ _ =>
      inferInstanceAs (Decidable True)

/-- The exchange has subscribed the instruments of the table. -/
def ExchangeAgrees (watched : MarketDataSystem × Finset String) : Prop :=
  Quiescent watched.1 → watched.2 = keySet watched.1.shared.marketDataSubscriptions

/-- An actor whose session is connected and logged in. -/
def MdActor.Online (actor : MdActor) : Prop :=
  (∃ session, actor.session = some session ∧ session.client = true) ∧
    actor.loggedIn = true ∧ actor.waiting = none

instance (watched : MarketDataSystem × Finset String) : Decidable (ExchangeAgrees watched) :=
  inferInstanceAs (Decidable (_ ∧ _ → _))

/-- What carries the agreement along a run. -/
structure Aggregates (watched : MarketDataSystem × Finset String) : Prop where
  online : watched.1.actor.Online
  ready : TableReady watched.1.shared
  agrees : (publicationOf watched).Agrees applyDelta

/-- Deltas without a common instrument commute. -/
theorem commutes_applyDelta {first second : MarketDataSessionCommand}
    (apart : ∀ instrument ∈ first.instruments, instrument ∉ second.instruments) :
    Publication.Commutes applyDelta first second := by
  intro subscribed
  cases first <;> cases second <;>
    (ext key
     have apartHere := apart key
     simp only [MarketDataSessionCommand.instruments] at apartHere
     simp only [applyDelta, Finset.mem_union, Finset.mem_sdiff, List.mem_toFinset]
     tauto)

/-- A decision is a commit of its delta. -/
theorem publicationOf_decideDelta (system : MarketDataSystem) (exchange : Finset String)
    (delta : ServerActorState × Option MarketDataSessionCommand)
    (rightly : DecidesRightly system.shared.marketDataSubscriptions
      delta.1.marketDataSubscriptions delta.2) :
    publicationOf (system.decideDelta delta, exchange) =
      delta.2.elim (publicationOf (system, exchange))
        ((publicationOf (system, exchange)).commit applyDelta) := by
  rcases delta with ⟨after, delta⟩
  rw [DecidesRightly] at rightly
  cases delta with
  | none => simp_all [publicationOf, MarketDataSystem.decideDelta]
  | some command =>
      simp_all [publicationOf, MarketDataSystem.decideDelta, Publication.commit]

/-- Enqueueing is announcing. -/
theorem publicationOf_publish (system : MarketDataSystem) (exchange : Finset String)
    (number : Nat) :
    publicationOf (system.publish number, exchange) =
      (publicationOf (system, exchange)).announce number := by
  cases present : system.pending[number]? with
  | none => simp only [MarketDataSystem.publish, Publication.announce, publicationOf, present]
  | some command =>
      simp only [MarketDataSystem.publish, Publication.announce, publicationOf, present]

/-- An online actor performs a command at once and stays online. -/
theorem command_online {actor : MdActor} (online : actor.Online)
    {surroundings : MdSurroundings} (accepted : surroundings.rc = 0)
    (command : MarketDataSessionCommand) (exchange : Finset String) :
    (actor.command surroundings command).1 = actor ∧
      subscribedAfter (actor.command surroundings command).2 exchange =
        applyDelta command exchange := by
  rcases actor with ⟨session, loggedIn, waiting⟩
  rcases online with ⟨⟨connected, rfl, client⟩, rfl, rfl⟩
  refine ⟨rfl, ?_⟩
  simp only [MdActor.command, MdActor.handleMarketDataCommand, if_true]
  cases command <;>
    simp only [performCommand, MdSession.subscribe, MdSession.unsubscribe,
      mdRequested_request client, accepted, subscribedAfter, applyDelta, List.foldl_cons,
      List.foldl_nil, if_true]

/-- An online actor stays online on the events that keep the login, and tells the
exchange nothing about subscriptions. -/
theorem event_online {actor : MdActor} (online : actor.Online)
    (surroundings : MdSurroundings) (shared : ServerActorState) {event : CtpEvent}
    (keeps : (MarketDataInput.event surroundings event).keepsLogin = true)
    (exchange : Finset String) :
    (actor.event surroundings shared event).1 = actor ∧
      subscribedAfter (actor.event surroundings shared event).2 exchange = exchange := by
  rcases actor with ⟨session, loggedIn, waiting⟩
  rcases online with ⟨⟨connected, rfl, client⟩, rfl, rfl⟩
  simp only [MdActor.event]
  cases event with
  | loginOk | loginFailed | frontDisconnected =>
      simp only [MarketDataInput.keepsLogin, Bool.false_eq_true] at keeps
  | frontConnected =>
      refine ⟨rfl, ?_⟩
      simp only [MdActor.handleMarketDataEvent, MdSession.login, mdRequested_request client,
        subscribedAfter, List.foldl_cons, List.foldl_nil]
  | marketData | subscribeOk | subscribeFailed | heartBeatWarning | error =>
      constructor <;> rfl

/-- A call keeps the agreement. -/
theorem aggregates_decideDelta {system : MarketDataSystem} {exchange : Finset String}
    (aggregates : Aggregates (system, exchange))
    {delta : ServerActorState × Option MarketDataSessionCommand}
    (ready : TableReady delta.1)
    (rightly : DecidesRightly system.shared.marketDataSubscriptions
      delta.1.marketDataSubscriptions delta.2) :
    Aggregates (system.decideDelta delta, exchange) := by
  refine ⟨aggregates.online, ready, ?_⟩
  rw [publicationOf_decideDelta system exchange delta rightly]
  cases delta.2 with
  | none => exact aggregates.agrees
  | some command => exact Publication.agrees_commit aggregates.agrees command

/-- Enqueueing a delta that overtakes none it does not commute with keeps the agreement. -/
theorem aggregates_publish {system : MarketDataSystem} {exchange : Finset String}
    (aggregates : Aggregates (system, exchange)) {number : Nat}
    (ordered : ∀ command, system.pending[number]? = some command →
      ∀ earlier ∈ system.pending.take number,
        Publication.Commutes applyDelta command earlier) :
    Aggregates (system.publish number, exchange) := by
  constructor
  · rw [MarketDataSystem.publish_actor]
    exact aggregates.online
  · rw [MarketDataSystem.publish_shared]
    exact aggregates.ready
  · rw [publicationOf_publish]
    exact Publication.agrees_announce aggregates.agrees ordered

/-- While the actor is online, its taking a command is the replica's consuming it. -/
theorem aggregates_command {system : MarketDataSystem} {exchange : Finset String}
    (aggregates : Aggregates (system, exchange)) {surroundings : MdSurroundings}
    (accepted : surroundings.rc = 0) :
    Aggregates (watchExchange.next (system, exchange) (.command surroundings)) := by
  cases waiting : system.channel with
  | nil =>
      rw [watchExchange_next, MarketDataSystem.step, waiting]
      exact aggregates
  | cons command rest =>
      have online : system.actor.Online := aggregates.online
      have takes : system.actor.takesCommand = true := by
        rw [MdActor.takesCommand, online.2.2]
        rfl
      rcases command_online online accepted command exchange with ⟨stays, told⟩
      rw [watchExchange_next, MarketDataSystem.step_command waiting takes, stays, told]
      have consumed := Publication.agrees_consume aggregates.agrees
      rw [Publication.consume, publicationOf, waiting] at consumed
      exact ⟨online, aggregates.ready, consumed⟩

/-- Events that keep the login change neither side of the agreement. -/
theorem aggregates_event {system : MarketDataSystem} {exchange : Finset String}
    (aggregates : Aggregates (system, exchange)) {surroundings : MdSurroundings}
    {event : CtpEvent}
    (keeps : (MarketDataInput.event surroundings event).keepsLogin = true) :
    Aggregates (watchExchange.next (system, exchange) (.event surroundings event)) := by
  have online : system.actor.Online := aggregates.online
  rcases event_online online surroundings system.shared keeps exchange with ⟨stays, told⟩
  simp only [watchExchange_next, MarketDataSystem.step, stays, told]
  exact aggregates

/-- One step keeps the agreement where no delta overtakes another. -/
theorem aggregates_next (watched : MarketDataSystem × Finset String)
    (input : MarketDataInput) (aggregates : Aggregates watched)
    (meets : input.keepsLogin = true ∧ NoOvertaking watched input) :
    Aggregates (watchExchange.next watched input) := by
  rcases watched with ⟨system, exchange⟩
  rcases meets with ⟨keeps, ordered⟩
  cases input with
  | hello clientId peer outbound =>
      exact ⟨aggregates.online, ⟨aggregates.ready.noEmpty, aggregates.ready.spawned⟩,
        aggregates.agrees⟩
  | subscribe clientId instruments =>
      exact aggregates_decideDelta aggregates
        (tableReady_subscribe aggregates.ready clientId instruments)
        (decidesRightly_subscribe aggregates.ready clientId instruments)
  | unsubscribe clientId instruments =>
      exact aggregates_decideDelta aggregates
        (tableReady_unsubscribe aggregates.ready clientId instruments)
        (decidesRightly_unsubscribe aggregates.ready clientId instruments)
  | remove clientId =>
      exact aggregates_decideDelta aggregates
        (tableReady_remove aggregates.ready clientId)
        (decidesRightly_remove aggregates.ready clientId)
  | publish number =>
      apply aggregates_publish aggregates
      intro command present earlier member
      exact commutes_applyDelta (ordered command present earlier member)
  | command surroundings => exact aggregates_command aggregates (of_decide_eq_true keeps)
  | event surroundings event => exact aggregates_event aggregates keeps

/-! ## Every run -/

/-- A session that was created, connected and logged in before anyone subscribed. -/
def MarketDataSystem.loggedIn (config : MdSessionConfig) : MarketDataSystem :=
  { actor := { session := some ⟨config, true⟩, loggedIn := true } }

theorem aggregates_loggedIn (config : MdSessionConfig) :
    Aggregates (MarketDataSystem.loggedIn config, ∅) where
  online := ⟨⟨⟨config, true⟩, rfl, rfl⟩, rfl, rfl⟩
  ready := tableReady_empty
  agrees := rfl

theorem exchangeAgrees_of_aggregates {watched : MarketDataSystem × Finset String}
    (aggregates : Aggregates watched) : ExchangeAgrees watched := by
  intro quiescent
  exact Publication.replica_eq_primary aggregates.agrees quiescent.1 quiescent.2

/-- Under a lasting login, the exchange agrees with the table in every quiescent state
of every run in which no delta overtakes an earlier one that names a same instrument. -/
theorem exchange_agrees (config : MdSessionConfig) (inputs : List MarketDataInput)
    (keeps : ∀ input ∈ inputs, input.keepsLogin = true)
    (ordered : watchExchange.Always NoOvertaking (MarketDataSystem.loggedIn config, ∅) inputs) :
    watchExchange.Throughout ExchangeAgrees (MarketDataSystem.loggedIn config, ∅) inputs := by
  apply watchExchange.throughout_of_always aggregates_next
  · intro watched aggregates
    exact exchangeAgrees_of_aggregates aggregates
  · exact aggregates_loggedIn config
  · exact watchExchange.always_and_of_mem keeps ordered

/-- The session of the runs below. -/
def MdSessionConfig.sample : MdSessionConfig := ⟨"9999", "md", "secret"⟩

/-- Two clients share one instrument, and two deltas about other instruments are enqueued
in the order opposite to the one they were decided in. -/
def MarketDataInput.disjointInputs : List MarketDataInput :=
  [.subscribe ⟨"CY"⟩ [⟨"rb2610"⟩], .subscribe ⟨"HB"⟩ [⟨"rb2610"⟩, ⟨"cu2608"⟩],
    .publish 1, .publish 0, .command .accepting, .command .accepting,
    .remove ⟨"CY"⟩, .unsubscribe ⟨"HB"⟩ [⟨"rb2610"⟩], .publish 0, .command .accepting]

theorem exchange_agrees_disjoint :
    watchExchange.Throughout ExchangeAgrees (MarketDataSystem.loggedIn .sample, ∅)
      MarketDataInput.disjointInputs :=
  exchange_agrees .sample MarketDataInput.disjointInputs (by decide) (by decide)

/-- One client gives up the instrument while another asks for it, and the two deltas are
enqueued in the order opposite to the one they were decided in. -/
def MarketDataInput.overtakingInputs : List MarketDataInput :=
  [.subscribe ⟨"CY"⟩ [⟨"rb2610"⟩], .publish 0, .command .accepting,
    .unsubscribe ⟨"CY"⟩ [⟨"rb2610"⟩], .subscribe ⟨"HB"⟩ [⟨"rb2610"⟩],
    .publish 1, .publish 0, .command .accepting, .command .accepting]

/-- The second client has subscribed an instrument the exchange has released. -/
theorem overtaken_disagrees :
    (∀ input ∈ MarketDataInput.overtakingInputs, input.keepsLogin = true) ∧
      ¬ ExchangeAgrees (watchExchange.runFrom (MarketDataSystem.loggedIn .sample, ∅)
        MarketDataInput.overtakingInputs) := by
  decide

end CtpSystem
