import CtpSystem.MarketData.Actor

/-!
# Client calls and the market-data actor

The table is updated under the lock and the exchange delta enqueued after the lock was
released, so the two steps of a call interleave with those of other calls and with the
actor that takes the deltas from its channel.
-/

namespace CtpSystem

open Reactive

/-- The shared state, the deltas decided but not enqueued yet (oldest first), the
command channel, and the actor that receives from it. -/
structure MarketDataSystem where
  shared : ServerActorState := {}
  pending : List MarketDataSessionCommand := []
  channel : List MarketDataSessionCommand := []
  actor : MdActor := {}

/-- What happens next: a client registers, the locked part of a call, the enqueueing of
a decided delta, or the actor taking a command or an event. -/
inductive MarketDataInput where
  | hello (clientId : ClientId) (peer : String) (outbound : EnvelopeTx)
  | subscribe (clientId : ClientId) (instruments : List InstrumentId)
  | unsubscribe (clientId : ClientId) (instruments : List InstrumentId)
  | remove (clientId : ClientId)
  | publish (number : Nat)
  | command (surroundings : MdSurroundings)
  | event (surroundings : MdSurroundings) (event : CtpEvent)

/-- Nothing is on its way: no call is between its two steps, and the channel is empty. -/
def Quiescent (system : MarketDataSystem) : Prop :=
  system.pending = [] ∧ system.channel = []

namespace MarketDataSystem

/-- The locked part of a call, with the delta it decides on. -/
def decideDelta (system : MarketDataSystem)
    (delta : ServerActorState × Option MarketDataSessionCommand) : MarketDataSystem :=
  { system with shared := delta.1, pending := system.pending ++ delta.2.toList }

/-- Enqueue the decided delta of the given number. -/
def publish (system : MarketDataSystem) (number : Nat) : MarketDataSystem :=
  match system.pending[number]? with
  | none => system
  | some command =>
      { system with
        pending := system.pending.eraseIdx number
        channel := system.channel ++ [command] }

/-- One step of the system. -/
def step (system : MarketDataSystem) :
    MarketDataInput → MarketDataSystem × List MdEffect
  | .hello clientId peer outbound =>
      ({ system with
        shared := system.shared.registerMarketDataClient clientId peer outbound }, [])
  | .subscribe clientId instruments =>
      (system.decideDelta
        (system.shared.subscribeExchangeMarketData clientId instruments), [])
  | .unsubscribe clientId instruments =>
      (system.decideDelta
        (system.shared.unsubscribeExchangeMarketData clientId instruments), [])
  | .remove clientId =>
      (system.decideDelta (system.shared.removeExchangeMarketDataClient clientId), [])
  | .publish number => (system.publish number, [])
  | .command surroundings =>
      match system.channel with
      | [] => (system, [])
      | command :: rest =>
          if system.actor.takesCommand then
            let (actor, effects) := system.actor.command surroundings command
            ({ system with channel := rest, actor := actor }, effects)
          else (system, [])
  | .event surroundings event =>
      let (actor, effects) := system.actor.event surroundings system.shared event
      ({ system with actor := actor }, effects)

/-- The market-data side of a fresh server. -/
def machine : Machine MarketDataSystem MarketDataInput MdEffect where
  init := {}
  step := step

@[simp] theorem publish_shared (system : MarketDataSystem) (number : Nat) :
    (system.publish number).shared = system.shared := by
  rw [publish]
  split <;> rfl

@[simp] theorem publish_actor (system : MarketDataSystem) (number : Nat) :
    (system.publish number).actor = system.actor := by
  rw [publish]
  split <;> rfl

/-- A command waits in the channel until the actor takes it. -/
theorem step_command {system : MarketDataSystem} {command : MarketDataSessionCommand}
    {rest : List MarketDataSessionCommand} (waiting : system.channel = command :: rest)
    (takes : system.actor.takesCommand = true) (surroundings : MdSurroundings) :
    system.step (.command surroundings) =
      ({ system with
        channel := rest
        actor := (system.actor.command surroundings command).1 },
        (system.actor.command surroundings command).2) := by
  simp only [step, waiting, takes, if_true]

end MarketDataSystem

/-! ## What the calls decide -/

/-- The instruments a delta names. -/
def MarketDataSessionCommand.instruments : MarketDataSessionCommand → List String
  | .subscribe instruments | .unsubscribe instruments => instruments.map (·.asStr)

/-- What a delta does to a set of subscribed instruments. -/
def applyDelta : MarketDataSessionCommand → Finset String → Finset String
  | .subscribe instruments, subscribed =>
      subscribed ∪ (instruments.map (·.asStr)).toFinset
  | .unsubscribe instruments, subscribed =>
      subscribed \ (instruments.map (·.asStr)).toFinset

/-- The instruments of a table. -/
def keySet (table : SubscriptionTable) : Finset String :=
  table.keys.toFinset

@[simp] theorem mem_keySet {table : SubscriptionTable} {key : String} :
    key ∈ keySet table ↔ key ∈ table := by
  rw [keySet, List.mem_toFinset, ← AList.mem_keys]

/-- An instrument id is in a list exactly when its name is among the names. -/
theorem mem_map_asStr {instruments : List InstrumentId} {key : String} :
    key ∈ instruments.map (·.asStr) ↔ ⟨key⟩ ∈ instruments := by
  rw [List.mem_map]
  constructor
  · rintro ⟨instrument, member, rfl⟩
    exact member
  · intro member
    exact ⟨⟨key⟩, member, rfl⟩

/-- No delta leaves the table as it is; any other delta takes its instruments to those
of the new table. -/
def DecidesRightly (before after : SubscriptionTable)
    (delta : Option MarketDataSessionCommand) : Prop :=
  keySet after = delta.elim (keySet before) (applyDelta · (keySet before))

/-- Every call leaves a table without empty sets and decides on the delta between the
tables, once the actor was spawned or where there is nothing to release. -/
structure TableReady (state : ServerActorState) : Prop where
  noEmpty : NoEmptySet state.marketDataSubscriptions
  spawned : ∀ key ∈ state.marketDataSubscriptions, state.marketDataSession.isSome

/-- A subscription decides rightly where the instruments told to the exchange are those
that are new. -/
theorem decidesRightly_acquire {before after : SubscriptionTable}
    {instruments acquired : List InstrumentId}
    (joins : ∀ key, key ∈ after ↔ key ∈ before ∨ ⟨key⟩ ∈ instruments)
    (told : ∀ key, ⟨key⟩ ∈ acquired ↔ key ∉ before ∧ ⟨key⟩ ∈ instruments) :
    DecidesRightly before after (if acquired = [] then none else some (.subscribe acquired)) := by
  by_cases nothing : acquired = []
  · simp only [DecidesRightly, nothing, if_true, Option.elim_none]
    ext key
    have kept := told key
    simp only [nothing, List.not_mem_nil, false_iff, not_and] at kept
    simp only [mem_keySet, joins]
    tauto
  · simp only [DecidesRightly, nothing, if_false, Option.elim_some, applyDelta]
    ext key
    simp only [Finset.mem_union, List.mem_toFinset, mem_map_asStr, mem_keySet, joins, told]
    tauto

/-- A release decides rightly where the released instruments are those that left. -/
theorem decidesRightly_release {before after : SubscriptionTable}
    {released : List InstrumentId} {spawned : Bool}
    (leaves : ∀ key, key ∈ after ↔ key ∈ before ∧ ⟨key⟩ ∉ released)
    (tabled : ∀ key, ⟨key⟩ ∈ released → key ∈ before)
    (ready : ∀ key ∈ before, spawned = true) :
    DecidesRightly before after
      (if spawned = true ∧ released ≠ [] then some (.unsubscribe released) else none) := by
  by_cases nothing : released = []
  · simp only [DecidesRightly, nothing, ne_eq, not_true_eq_false, and_false, if_false,
      Option.elim_none]
    ext key
    simp [leaves, nothing]
  · rcases List.exists_mem_of_ne_nil released nothing with ⟨⟨name⟩, member⟩
    simp only [DecidesRightly, ready name (tabled name member), ne_eq, nothing,
      not_false_eq_true, and_self, if_true, Option.elim_some, applyDelta]
    ext key
    simp only [Finset.mem_sdiff, List.mem_toFinset, mem_map_asStr, mem_keySet, leaves]

/-- The table of a fresh server. -/
theorem tableReady_empty : TableReady {} where
  noEmpty := by
    intro key empty
    cases empty
  spawned := by
    intro key member
    cases member

section Calls

variable {state : ServerActorState}

theorem tableReady_subscribe (ready : TableReady state) (clientId : ClientId)
    (instruments : List InstrumentId) :
    TableReady (state.subscribeExchangeMarketData clientId instruments).1 where
  noEmpty := noEmptySet_subscribe clientId ready.noEmpty instruments
  spawned := by
    intro key member
    rfl

theorem decidesRightly_subscribe (ready : TableReady state) (clientId : ClientId)
    (instruments : List InstrumentId) :
    DecidesRightly state.marketDataSubscriptions
      (state.subscribeExchangeMarketData clientId instruments).1.marketDataSubscriptions
      (state.subscribeExchangeMarketData clientId instruments).2 :=
  decidesRightly_acquire (mem_subscribeInstruments clientId _ instruments)
    (mem_subscribeInstruments_delta clientId ready.noEmpty instruments)

theorem tableReady_unsubscribe (ready : TableReady state) (clientId : ClientId)
    (instruments : List InstrumentId) :
    TableReady (state.unsubscribeExchangeMarketData clientId instruments).1 where
  noEmpty := noEmptySet_unsubscribe clientId ready.noEmpty instruments
  spawned := by
    intro key member
    have kept := (mem_unsubscribeInstruments clientId ready.noEmpty instruments key).mp member
    exact ready.spawned key kept.1

theorem decidesRightly_unsubscribe (ready : TableReady state) (clientId : ClientId)
    (instruments : List InstrumentId) :
    DecidesRightly state.marketDataSubscriptions
      (state.unsubscribeExchangeMarketData clientId instruments).1.marketDataSubscriptions
      (state.unsubscribeExchangeMarketData clientId instruments).2 :=
  decidesRightly_release (mem_unsubscribeInstruments clientId ready.noEmpty instruments)
    (fun _ => mem_of_unsubscribed clientId instruments) ready.spawned

theorem tableReady_remove (ready : TableReady state) (clientId : ClientId) :
    TableReady (state.removeExchangeMarketDataClient clientId).1 where
  noEmpty := noEmptySet_removeClientSubscriptions clientId _
  spawned := by
    intro key member
    have kept := mem_removeClientSubscriptions.mp member
    exact ready.spawned key kept.1

theorem decidesRightly_remove (ready : TableReady state) (clientId : ClientId) :
    DecidesRightly state.marketDataSubscriptions
      (state.removeExchangeMarketDataClient clientId).1.marketDataSubscriptions
      (state.removeExchangeMarketDataClient clientId).2 :=
  decidesRightly_release (fun _ => mem_removeClientSubscriptions)
    (fun _ => mem_of_removed) ready.spawned

end Calls

end CtpSystem
