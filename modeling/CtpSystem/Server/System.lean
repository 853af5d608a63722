import CtpSystem.Server.Access
import CtpSystem.Trade.Delivery

/-!
# The trading side of the server

The gateway and the trade session actors of all accounts, each with the command
channel between them.  Any interleaving of gateway calls, commands taken and session
events is a list of inputs.
-/

namespace CtpSystem

open Reactive

/-- An account's actor with the receiving end of its command channel. -/
structure TradeTask where
  inbox : List TradeSessionCommand := []
  actor : TradeActor := {}

/-- The shared state and the actor of every account.  An account whose actor was not
spawned yet has an empty inbox and an actor that was never given anything. -/
structure ServerSystem where
  shared : ServerActorState
  tasks : AccountId → TradeTask

/-- What happens next: a gateway call, or an account's actor taking the next command of
its channel or an event of its session. -/
inductive SystemInput where
  | gateway (world : GatewayWorld) (input : GatewayInput)
  | command (accountId : AccountId) (surroundings : Surroundings)
  | event (accountId : AccountId) (surroundings : Surroundings) (event : TradeSessionEvent)

/-- Something the gateway or the actor of an account did. -/
inductive SystemEffect where
  | gateway (effect : GatewayEffect)
  | trade (accountId : AccountId) (effect : Effect)
  deriving DecidableEq

/-- The commands enqueued for an account. -/
def enqueuedFor (accountId : AccountId) (effects : List GatewayEffect) :
    List TradeSessionCommand :=
  effects.filterMap fun effect =>
    match effect with
    | .enqueue addressed command => if addressed = accountId then some command else none
    | _ => none

/-- The shared state after the writes among an actor's effects. -/
def ServerActorState.applyEffects (state : ServerActorState) (effects : List Effect) :
    ServerActorState :=
  effects.foldl
    (fun state effect =>
      match effect with
      | .setAccountState accountId connection =>
          { state with sessions := state.sessions.setAccountState accountId connection }
      | _ => state)
    state

namespace ServerSystem

/-- Let the actor of an account take an input. -/
def act (system : ServerSystem) (accountId : AccountId) (surroundings : Surroundings)
    (inbox : List TradeSessionCommand) (input : TradeInput) :
    ServerSystem × List SystemEffect :=
  let world : World := { surroundings with shared := system.shared }
  let (actor, effects) := (system.tasks accountId).actor.step accountId world input
  ({ shared := system.shared.applyEffects effects
     tasks := Function.update system.tasks accountId ⟨inbox, actor⟩ },
    effects.map (.trade accountId))

/-- One step of the system. -/
def step (system : ServerSystem) : SystemInput → ServerSystem × List SystemEffect
  | .gateway world input =>
      let (shared, effects) := gatewayStep system.shared world input
      ({ shared := shared
         tasks := fun accountId =>
          { system.tasks accountId with
            inbox := (system.tasks accountId).inbox ++ enqueuedFor accountId effects } },
        effects.map .gateway)
  | .command accountId surroundings =>
      match (system.tasks accountId).inbox with
      | [] => (system, [])
      | command :: rest =>
          if (system.tasks accountId).actor.takesCommand then
            system.act accountId surroundings rest (.command command)
          else (system, [])
  | .event accountId surroundings event =>
      system.act accountId surroundings (system.tasks accountId).inbox (.event event)

/-- A server with the given configuration. -/
def machine (config : ServerConfig) : Machine ServerSystem SystemInput SystemEffect where
  init := ⟨.fromConfig config, fun _ => {}⟩
  step := step

end ServerSystem

/-! ## Orders stay with their account's writers -/

/-- The configuration lets a client write on an account. -/
def Writes (config : ServerConfig) (clientId : ClientId) (accountId : AccountId) : Prop :=
  ∃ entry, config.lastEntry clientId accountId = some entry ∧
    entry.permission.allowsWrite = true

/-- The orders in a command channel belong to the account and to clients that may write
on it. -/
def InboxConfined (config : ServerConfig) (accountId : AccountId)
    (inbox : List TradeSessionCommand) : Prop :=
  ∀ clientId order replyTo, .placeOrder clientId order replyTo ∈ inbox →
    order.accountId = accountId ∧ Writes config clientId accountId

/-- The contexts of a registry belong to the account and to clients that may write on
it. -/
def RegistryConfined (config : ServerConfig) (accountId : AccountId)
    (orderRegistry : OrderRegistry) : Prop :=
  ∀ key context, orderRegistry.lookup key = some context →
    context.accountId = accountId ∧ Writes config context.clientId accountId

/-- What holds in every state of the system. -/
structure Confined (config : ServerConfig) (system : ServerSystem) : Prop where
  guarded : Guarded config system.shared
  inboxes : ∀ accountId, InboxConfined config accountId (system.tasks accountId).inbox
  registries : ∀ accountId,
    RegistryConfined config accountId (system.tasks accountId).actor.orderRegistry

/-- What the gateway enqueues is confined. -/
theorem inboxConfined_enqueuedFor {config : ServerConfig} {state : ServerActorState}
    (guarded : Guarded config state) (world : GatewayWorld) (input : GatewayInput)
    (accountId : AccountId) :
    InboxConfined config accountId
      (enqueuedFor accountId (gatewayStep state world input).2) := by
  intro clientId order replyTo member
  rcases List.mem_filterMap.mp member with ⟨effect, emitted, addressed⟩
  cases effect with
  | publish | send => simp at addressed
  | enqueue target command =>
      simp only [Option.ite_none_right_eq_some, Option.some.injEq] at addressed
      rcases addressed with ⟨rfl, rfl⟩
      cases input with
      | accountState => simp [gatewayStep] at emitted
      | disconnected => exact absurd emitted enqueue_mem_publish
      | envelope kind peer outbound envelope =>
          rcases enqueued_of_handleEnvelope guarded emitted with
            ⟨sender, call, operation, -, -, about, performed, covered⟩
          cases call <;> simp only [AccountCall.command, reduceCtorEq] at performed
          rw [TradeSessionCommand.placeOrder.injEq] at performed
          rcases performed with ⟨rfl, rfl, -⟩
          exact ⟨about.symm, covered⟩

/-- Registering an order from a confined inbox keeps the registry confined. -/
theorem registryConfined_command {config : ServerConfig} {accountId : AccountId}
    {actor : TradeActor} (registry : RegistryConfined config accountId actor.orderRegistry)
    {inbox : List TradeSessionCommand} (confined : InboxConfined config accountId inbox)
    (world : World) {command : TradeSessionCommand} (taken : command ∈ inbox) :
    RegistryConfined config accountId
      ((TradeActor.machine accountId).next actor (world, .command command)).orderRegistry := by
  intro key context found
  rw [TradeActor.orderRegistry_next_command] at found
  cases registered : actor.registers command with
  | none =>
      cases released : actor.releases command with
      | true => simp [registered, released] at found
      | false =>
          simp only [registered, released] at found
          exact registry key context found
  | some placed =>
      rcases placed with ⟨clientId, order, replyTo⟩
      have placing : command = .placeOrder clientId order replyTo := by
        cases command with
        | placeOrder =>
            simp only [TradeActor.registers, Option.ite_none_right_eq_some,
              Option.some.injEq, Prod.mk.injEq] at registered
            rcases registered with ⟨-, rfl, rfl, rfl⟩
            rfl
        | _ => simp [TradeActor.registers] at registered
      rw [placing] at taken
      simp only [registered] at found
      by_cases same : key = (orderContext world.clock clientId order).orderRefKey
      · rw [same, AList.lookup_insert, Option.some.injEq] at found
        rw [← found]
        exact confined clientId order replyTo taken
      · rw [AList.lookup_insert_ne same] at found
        exact registry key context found

/-- The writes of an actor keep the shared state guarded. -/
theorem guarded_applyEffects {config : ServerConfig} {state : ServerActorState}
    (guarded : Guarded config state) (effects : List Effect) :
    Guarded config (state.applyEffects effects) := by
  rw [ServerActorState.applyEffects]
  induction effects generalizing state with
  | nil => exact guarded
  | cons effect rest ih =>
      apply ih
      cases effect <;> exact ⟨guarded.rules, guarded.handles⟩

/-- An actor that takes an input keeps the system confined, if its own inbox and
registry stay confined. -/
theorem confined_act {config : ServerConfig} {system : ServerSystem}
    (confined : Confined config system) {accountId : AccountId}
    (surroundings : Surroundings) {inbox : List TradeSessionCommand}
    (inboxConfined : InboxConfined config accountId inbox) {input : TradeInput}
    (registryConfined : RegistryConfined config accountId
      ((TradeActor.machine accountId).next (system.tasks accountId).actor
        ({ surroundings with shared := system.shared }, input)).orderRegistry) :
    Confined config (system.act accountId surroundings inbox input).1 := by
  refine ⟨guarded_applyEffects confined.guarded _, ?_, ?_⟩
  · intro queried
    by_cases same : queried = accountId
    · subst same
      simpa [ServerSystem.act] using inboxConfined
    · simpa [ServerSystem.act, Function.update_of_ne same] using confined.inboxes queried
  · intro queried
    by_cases same : queried = accountId
    · subst same
      simp only [ServerSystem.act, Function.update_self]
      exact registryConfined
    · simpa [ServerSystem.act, Function.update_of_ne same] using confined.registries queried

/-- Every step keeps the system confined. -/
theorem confined_next (config : ServerConfig) (system : ServerSystem) (input : SystemInput)
    (confined : Confined config system) :
    Confined config ((ServerSystem.machine config).next system input) := by
  cases input with
  | gateway world input =>
      refine ⟨guarded_next config system.shared (world, input) confined.guarded, ?_,
        confined.registries⟩
      intro accountId clientId order replyTo member
      rcases List.mem_append.mp member with queued | added
      · exact confined.inboxes accountId clientId order replyTo queued
      · exact inboxConfined_enqueuedFor confined.guarded world input accountId clientId order
          replyTo added
  | command accountId surroundings =>
      simp only [Machine.next, ServerSystem.machine, ServerSystem.step]
      split
      · exact confined
      next command rest waiting =>
        have whole := confined.inboxes accountId
        rw [waiting] at whole
        split
        · apply confined_act confined surroundings
          · intro clientId order replyTo member
            exact whole clientId order replyTo (List.mem_cons_of_mem command member)
          · exact registryConfined_command (confined.registries accountId) whole _
              List.mem_cons_self
        · exact confined
  | event accountId surroundings event =>
      apply confined_act confined surroundings (confined.inboxes accountId)
      rw [TradeActor.orderRegistry_next_event]
      exact confined.registries accountId

/-- In a confined system, an account's actor pushes only on an event of its own session,
and only updates of its account for clients that may write on it. -/
theorem pushed_confined {config : ServerConfig} {system : ServerSystem}
    (confined : Confined config system) {input : SystemInput} {accountId : AccountId}
    {clientId : ClientId} {outbound : Option EnvelopeTx} {message : Message}
    (pushed : .trade accountId (.push clientId outbound message) ∈
      (ServerSystem.machine config).emits system input) :
    (∃ surroundings event, input = .event accountId surroundings event) ∧
      message.updateAccount = some accountId ∧ Writes config clientId accountId := by
  have acted (actingId : AccountId) (surroundings : Surroundings)
      (inbox : List TradeSessionCommand) (taken : TradeInput)
      (emitted : .trade accountId (.push clientId outbound message) ∈
        (system.act actingId surroundings inbox taken).2) :
      accountId = actingId ∧ (∃ event, taken = .event event) ∧
        message.updateAccount = some accountId ∧ Writes config clientId accountId := by
    rcases List.mem_map.mp emitted with ⟨effect, own, equal⟩
    rw [SystemEffect.trade.injEq] at equal
    rcases equal with ⟨rfl, rfl⟩
    rcases push_inversion own with
      ⟨event, context, isEvent, -, -, routed, updated, addressed⟩
    rcases Option.bind_eq_some_iff.mp routed with ⟨key, -, found⟩
    have own := confined.registries actingId key context found
    rw [updateAccount_updateOf updated, own.1, addressed]
    exact ⟨rfl, ⟨event, isEvent⟩, rfl, own.2⟩
  cases input with
  | gateway world input =>
      rcases List.mem_map.mp pushed with ⟨effect, -, equal⟩
      simp at equal
  | command actingId surroundings =>
      simp only [Machine.emits, ServerSystem.machine, ServerSystem.step] at pushed
      split at pushed
      · simp at pushed
      · split at pushed
        · rcases (acted actingId surroundings _ _ pushed).2.1 with ⟨event, isEvent⟩
          simp at isEvent
        · simp at pushed
  | event actingId surroundings event =>
      rcases acted actingId surroundings _ _ pushed with ⟨rfl, -, carried, writes⟩
      exact ⟨⟨surroundings, event, rfl⟩, carried, writes⟩

/-- In every state a server reaches, the registry of an account's actor holds only
orders of the account placed by clients that may write on it; and every update the
actor pushes, on an event of its own session only, carries the account and goes to such
a client. -/
theorem pushes_confined (config : ServerConfig) (inputs : List SystemInput) :
    let system :=
      (ServerSystem.machine config).runFrom (ServerSystem.machine config).init inputs
    (∀ accountId key context,
      (system.tasks accountId).actor.orderRegistry.lookup key = some context →
        context.accountId = accountId ∧ Writes config context.clientId accountId) ∧
      ∀ input accountId clientId outbound message,
        .trade accountId (.push clientId outbound message) ∈
            (ServerSystem.machine config).emits system input →
          (∃ surroundings event, input = .event accountId surroundings event) ∧
            message.updateAccount = some accountId ∧ Writes config clientId accountId := by
  intro system
  have start : Confined config (ServerSystem.machine config).init := by
    refine ⟨guarded_fromConfig config, ?_, ?_⟩
    · intro accountId
      simp [InboxConfined, ServerSystem.machine]
    · intro accountId
      simp [RegistryConfined, ServerSystem.machine]
  have confined : Confined config system :=
    (ServerSystem.machine config).invariant_runFrom (confined_next config) start inputs
  constructor
  · exact confined.registries
  · intro input accountId clientId outbound message pushed
    exact pushed_confined confined pushed

end CtpSystem
