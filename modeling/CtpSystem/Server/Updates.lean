import CtpSystem.Library.LastWord
import CtpSystem.Server.Replies

/-!
# Updates go to where their placers last said hello

An update is pushed long after an order was placed, to whatever connection its client is
registered under by then.  Both ends are traced to envelopes of the run.  The order is one
whose normalized ref is that of the report; that the report is of this very order is not
said, since orders can share a normalized ref.
-/

namespace CtpSystem

open Reactive

/-! ## Registrations -/

/-- The connection an input registers a trading client under. -/
def SystemInput.hello (clientId : ClientId) : SystemInput → Option EnvelopeTx
  | .gateway _ (.envelope .trading _ outbound ⟨_, .hello named⟩) =>
      if named = clientId then some outbound else none
  | _ => none

theorem outboundOf_register (state : ServerActorState) (named : ClientId) (peer : String)
    (outbound : EnvelopeTx) (clientId : ClientId) :
    (state.registerTradingClient named peer outbound).outboundOf clientId =
      if named = clientId then some outbound else state.outboundOf clientId := by
  by_cases same : named = clientId
  · subst same
    simp [ServerActorState.outboundOf, ServerActorState.registerTradingClient]
  · have distinct : clientId.asStr ≠ named.asStr := by
      rcases named with ⟨name⟩
      rcases clientId with ⟨other⟩
      rintro rfl
      exact same rfl
    rw [if_neg same]
    simp only [ServerActorState.outboundOf, ServerActorState.registerTradingClient]
    rw [AList.lookup_insert_ne distinct]

theorem perform_tradingClients (world : GatewayWorld) (state : ServerActorState)
    (clientId : ClientId) (replyTo : EnvelopeTx) (call : AccountCall) :
    (state.perform world clientId replyTo call).state.tradingClients =
      state.tradingClients := by
  cases call with
  | bindAccount credentials =>
      simp only [ServerActorState.perform, ServerActorState.bindAccount]
      split
      · rfl
      · split
        · rfl
        · split <;> rfl
  | _ => exact congrArg _ (sendChecked_state _ _ _)

/-- Only a Hello on the trading endpoint changes the registered trading clients. -/
theorem tradingClients_handleEnvelope (world : GatewayWorld) {kind : TcpEndpointKind}
    (peer : String) (state : ServerActorState) (outbound : EnvelopeTx) {envelope : Envelope}
    (other : ∀ named, kind = .trading → envelope.payload ≠ .hello named) :
    (handleEnvelope world kind peer state outbound envelope).state.tradingClients =
      state.tradingClients := by
  simp only [handleEnvelope]
  split
  next named said => exact absurd said (other named rfl)
  · rw [Handled.send_state]
    rfl
  · split
    · rw [Handled.send_state]
    · rw [Handled.publish_state]
      rfl
  · split
    · rw [Handled.send_state]
    · rw [Handled.publish_state]
      rfl
  · split
    · simp only [handleAccountCall]
      split
      · rw [Handled.send_state]
      · split
        · exact perform_tradingClients _ _ _ _ _
        · rw [Handled.send_state]
          exact perform_tradingClients _ _ _ _ _
    · rw [Handled.send_state]
  · rw [Handled.send_state]

/-- An envelope registers its connection if it is a Hello on the trading endpoint. -/
theorem outboundOf_handleEnvelope (world : GatewayWorld) (kind : TcpEndpointKind)
    (peer : String) (state : ServerActorState) (outbound : EnvelopeTx) (envelope : Envelope)
    (clientId : ClientId) :
    (handleEnvelope world kind peer state outbound envelope).state.outboundOf clientId =
      (SystemInput.hello clientId
        (.gateway world (.envelope kind peer outbound envelope))).or
          (state.outboundOf clientId) := by
  have silent (other : ∀ named, kind = .trading → envelope.payload ≠ .hello named) :
      (handleEnvelope world kind peer state outbound envelope).state.outboundOf clientId =
        (none : Option EnvelopeTx).or (state.outboundOf clientId) := by
    rw [ServerActorState.outboundOf, tradingClients_handleEnvelope world peer state outbound
      other]
    rfl
  rcases envelope with ⟨sender, payload⟩
  cases kind with
  | marketData => exact silent fun named same => by cases same
  | trading =>
      cases payload with
      | hello named =>
          simp only [handleEnvelope, Handled.send_state, outboundOf_register,
            SystemInput.hello]
          split <;> rfl
      | _ => exact silent fun named _ same => by cases same

theorem outboundOf_applyEffects (state : ServerActorState) (effects : List Effect)
    (clientId : ClientId) :
    (state.applyEffects effects).outboundOf clientId = state.outboundOf clientId := by
  rw [ServerActorState.applyEffects]
  induction effects generalizing state with
  | nil => rfl
  | cons effect rest ih =>
      rw [List.foldl_cons, ih]
      cases effect <;> rfl

/-- A step registers the connection its input tells about and keeps the others. -/
theorem outboundOf_next (config : ServerConfig) (system : ServerSystem)
    (input : SystemInput) (clientId : ClientId) :
    ((ServerSystem.machine config).next system input).shared.outboundOf clientId =
      (input.hello clientId).or (system.shared.outboundOf clientId) := by
  cases input with
  | gateway world input =>
      cases input with
      | envelope kind peer outbound envelope =>
          exact outboundOf_handleEnvelope world kind peer system.shared outbound envelope
            clientId
      | disconnected departed =>
          simp only [Machine.next, ServerSystem.machine, ServerSystem.step, gatewayStep,
            Handled.publish_state]
          rfl
      | accountState => rfl
  | command accountId surroundings =>
      simp only [Machine.next, ServerSystem.machine, ServerSystem.step]
      split
      · rfl
      · split
        · exact outboundOf_applyEffects _ _ _
        · rfl
  | event accountId surroundings event => exact outboundOf_applyEffects _ _ _

/-! ## Placements -/

/-- An update is handed to the connection its client is registered under. -/
theorem outbound_of_push {accountId : AccountId} {actor : TradeActor} {world : World}
    {input : TradeInput} {clientId : ClientId} {outbound : Option EnvelopeTx}
    {message : Message}
    (pushed : Effect.push clientId outbound message ∈
      (TradeActor.machine accountId).emits actor (world, input)) :
    outbound = world.shared.outboundOf clientId := by
  have member : Effect.push clientId outbound message ∈
      pushesOf ((TradeActor.machine accountId).emits actor (world, input)) :=
    List.mem_filter.mpr ⟨pushed, rfl⟩
  rcases push_inversion pushed with ⟨event, context, rfl, takes, outside, routed, -, rfl⟩
  have delivers := delivers_step accountId actor (world, .event event)
  rcases delivers.once event context rfl takes outside routed with ⟨update, -, only⟩
  rw [only, List.mem_singleton, Effect.push.injEq] at member
  exact member.2.1

/-- What holds after every run: everything on its way was asked for, every context of a
registry was built from an order a client asked to place, and every client is registered
under the connection of its last Hello. -/
structure Traced (config : ServerConfig) (system : ServerSystem)
    (history : List SystemInput) : Prop where
  asked : AllAsked config system history
  contexts : ∀ accountId key context,
    (system.tasks accountId).actor.orderRegistry.lookup key = some context →
      ∃ clock clientId order replyTo,
        Asked config history accountId (.placeOrder clientId order replyTo) ∧
          context = orderContext clock clientId order ∧ key = context.orderRefKey
  registrations : ∀ clientId,
    system.shared.outboundOf clientId = lastWord (SystemInput.hello clientId) history

/-- The contexts of an actor that takes a command asked for were asked for. -/
theorem contexts_command {config : ServerConfig} {history : List SystemInput}
    {accountId : AccountId} {actor : TradeActor} (world : World)
    {command : TradeSessionCommand} (asked : Asked config history accountId command)
    (contexts : ∀ key context, actor.orderRegistry.lookup key = some context →
      ∃ clock clientId order replyTo,
        Asked config history accountId (.placeOrder clientId order replyTo) ∧
          context = orderContext clock clientId order ∧ key = context.orderRefKey)
    {key : String} {context : OrderContext}
    (found : ((TradeActor.machine accountId).next actor
      (world, .command command)).orderRegistry.lookup key = some context) :
    ∃ clock clientId order replyTo,
      Asked config history accountId (.placeOrder clientId order replyTo) ∧
        context = orderContext clock clientId order ∧ key = context.orderRefKey := by
  rw [TradeActor.orderRegistry_next_command] at found
  cases registered : actor.registers command with
  | none =>
      cases released : actor.releases command with
      | true => simp [registered, released] at found
      | false =>
          simp only [registered, released] at found
          exact contexts key context found
  | some placed =>
      rcases placed with ⟨clientId, order, replyTo⟩
      have placing : command = .placeOrder clientId order replyTo := by
        cases command with
        | placeOrder =>
            simp only [TradeActor.registers, Option.ite_none_right_eq_some,
              Option.some.injEq, Prod.mk.injEq] at registered
            rcases registered with ⟨-, rfl, rfl, rfl⟩
            rfl
        | _ => simp [TradeActor.registers] at registered
      subst placing
      simp only [registered] at found
      by_cases same : key = (orderContext world.clock clientId order).orderRefKey
      · rw [same, AList.lookup_insert, Option.some.injEq] at found
        subst found
        exact ⟨world.clock, clientId, order, replyTo, asked, rfl, same⟩
      · rw [AList.lookup_insert_ne same] at found
        exact contexts key context found

/-- The contexts of all actors, after one of them took an input. -/
theorem contexts_act {config : ServerConfig} {system : ServerSystem}
    {history : List SystemInput} (traced : Traced config system history)
    (input : SystemInput) {actingId : AccountId} (surroundings : Surroundings)
    (inbox : List TradeSessionCommand) {taken : TradeInput}
    (known : ∀ command, taken = .command command → Asked config history actingId command)
    (accountId : AccountId) (key : String) (context : OrderContext)
    (found : ((system.act actingId surroundings inbox taken).1.tasks
      accountId).actor.orderRegistry.lookup key = some context) :
    ∃ clock clientId order replyTo,
      Asked config (history ++ [input]) accountId (.placeOrder clientId order replyTo) ∧
        context = orderContext clock clientId order ∧ key = context.orderRefKey := by
  have earlier : ∃ clock clientId order replyTo,
      Asked config history accountId (.placeOrder clientId order replyTo) ∧
        context = orderContext clock clientId order ∧ key = context.orderRefKey := by
    by_cases same : accountId = actingId
    · subst same
      simp only [ServerSystem.act, Function.update_self] at found
      cases taken with
      | command command =>
          exact contexts_command _ (known command rfl) (traced.contexts accountId) found
      | event event =>
          have kept := TradeActor.orderRegistry_next_event accountId
            (system.tasks accountId).actor { surroundings with shared := system.shared } event
          exact traced.contexts accountId key context (kept ▸ found)
    · simp only [ServerSystem.act, Function.update_of_ne same] at found
      exact traced.contexts accountId key context found
  rcases earlier with ⟨clock, clientId, order, replyTo, asked, rest⟩
  exact ⟨clock, clientId, order, replyTo, asked.mono input, rest⟩

/-- Every step keeps the system traced. -/
theorem traced_next (config : ServerConfig) (system : ServerSystem)
    (history : List SystemInput) (input : SystemInput)
    (traced : Traced config system history) :
    Traced config ((ServerSystem.machine config).next system input)
      (history ++ [input]) := by
  refine ⟨allAsked_next config system history input traced.asked, ?_, ?_⟩
  · intro accountId key context found
    have kept (same : (system.tasks accountId).actor.orderRegistry.lookup key = some context) :
        ∃ clock clientId order replyTo,
          Asked config (history ++ [input]) accountId (.placeOrder clientId order replyTo) ∧
            context = orderContext clock clientId order ∧ key = context.orderRefKey := by
      rcases traced.contexts accountId key context same with
        ⟨clock, clientId, order, replyTo, asked, rest⟩
      exact ⟨clock, clientId, order, replyTo, asked.mono input, rest⟩
    cases input with
    | gateway => exact kept found
    | command actingId surroundings =>
        simp only [Machine.next, ServerSystem.machine, ServerSystem.step] at found
        split at found
        · exact kept found
        next command rest waiting =>
          split at found
          · refine contexts_act traced _ surroundings rest ?_ accountId key context found
            intro taken same
            cases same
            apply traced.asked.inboxes
            rw [waiting]
            exact List.mem_cons_self
          · exact kept found
    | event actingId surroundings event =>
        refine contexts_act traced _ surroundings _ ?_ accountId key context found
        intro taken same
        cases same
  · intro clientId
    rw [outboundOf_next, traced.registrations, lastWord_append_singleton]

/-- In a traced system, what an actor pushes is the update that the report gives with the
context of an order a client asked to place, for that client, over the connection of its last
Hello. -/
theorem traced_of_pushed {config : ServerConfig} {system : ServerSystem}
    {history : List SystemInput} (traced : Traced config system history)
    {input : SystemInput} {accountId : AccountId} {clientId : ClientId}
    {outbound : Option EnvelopeTx} {message : Message}
    (pushed : .trade accountId (.push clientId outbound message) ∈
      (ServerSystem.machine config).emits system input) :
    ∃ surroundings event clock order replyTo,
      input = .event accountId surroundings event ∧
        Asked config history accountId (.placeOrder clientId order replyTo) ∧
        reportKey event = some (orderContext clock clientId order).orderRefKey ∧
        updateOf surroundings.clock (orderContext clock clientId order) event =
          some message ∧
        outbound = lastWord (SystemInput.hello clientId) history := by
  have acted {actingId : AccountId} {surroundings : Surroundings}
      {inbox : List TradeSessionCommand} {taken : TradeInput}
      (emitted : .trade accountId (.push clientId outbound message) ∈
        (system.act actingId surroundings inbox taken).2) :
      accountId = actingId ∧ ∃ event clock order replyTo, taken = .event event ∧
        Asked config history accountId (.placeOrder clientId order replyTo) ∧
        reportKey event = some (orderContext clock clientId order).orderRefKey ∧
        updateOf surroundings.clock (orderContext clock clientId order) event =
          some message ∧
        outbound = lastWord (SystemInput.hello clientId) history := by
    rcases List.mem_map.mp emitted with ⟨effect, own, equal⟩
    rw [SystemEffect.trade.injEq] at equal
    rcases equal with ⟨rfl, rfl⟩
    rcases push_inversion own with
      ⟨event, context, isEvent, -, -, routed, updated, addressed⟩
    rcases Option.bind_eq_some_iff.mp routed with ⟨key, keyed, found⟩
    rcases traced.contexts _ key context found with
      ⟨clock, placer, order, replyTo, asked, rfl, rfl⟩
    have via := outbound_of_push own
    rw [traced.registrations] at via
    subst addressed
    exact ⟨rfl, event, clock, order, replyTo, isEvent, asked, keyed, updated, via⟩
  cases input with
  | gateway world input =>
      rcases List.mem_map.mp pushed with ⟨effect, -, equal⟩
      simp at equal
  | command actingId surroundings =>
      simp only [Machine.emits, ServerSystem.machine, ServerSystem.step] at pushed
      split at pushed
      · cases pushed
      · split at pushed
        · rcases acted pushed with ⟨-, event, clock, order, replyTo, isEvent, -⟩
          cases isEvent
        · cases pushed
  | event actingId surroundings event =>
      rcases acted pushed with
        ⟨rfl, taken, clock, order, replyTo, isEvent, asked, keyed, updated, via⟩
      cases isEvent
      exact ⟨surroundings, event, clock, order, replyTo, rfl, asked, keyed, updated, via⟩

/-- In every run, what an account's actor pushes for a client is the update that the report it
takes gives with the context of an order on the account which this client asked to place
before over a trading connection, as one that may write on it, and whose normalized ref is
the report's; and it is handed to the connection of the client's last Hello on the trading
endpoint, or to none if there was no Hello. -/
theorem updates_reach_placers (config : ServerConfig) (inputs : List SystemInput)
    {input : SystemInput} {accountId : AccountId} {clientId : ClientId}
    {outbound : Option EnvelopeTx} {message : Message}
    (pushed : .trade accountId (.push clientId outbound message) ∈
      (ServerSystem.machine config).emits
        ((ServerSystem.machine config).runFrom (ServerSystem.machine config).init inputs)
        input) :
    ∃ surroundings event clock world peer replyTo envelope order,
      input = .event accountId surroundings event ∧
        .gateway world (.envelope .trading peer replyTo envelope) ∈ inputs ∧
        envelope.clientId = some clientId ∧ envelope.payload = .placeOrder order ∧
        order.accountId = accountId ∧ Writes config clientId accountId ∧
        reportKey event = some (orderContext clock clientId order).orderRefKey ∧
        updateOf surroundings.clock (orderContext clock clientId order) event =
          some message ∧
        outbound = lastWord (SystemInput.hello clientId) inputs := by
  have start : Traced config (ServerSystem.machine config).init [] := by
    refine ⟨allAsked_fromConfig config, ?_, ?_⟩
    · intro accountId key context found
      cases found
    · intro clientId
      have unregistered := fromConfig_frame (·.tradingClients) (fun _ _ _ _ => rfl) config
      simp only [ServerSystem.machine, ServerActorState.outboundOf, unregistered]
      rfl
  have traced := (ServerSystem.machine config).invariant_inputs (traced_next config) start
    inputs
  rw [List.nil_append] at traced
  rcases traced_of_pushed traced pushed with
    ⟨surroundings, event, clock, order, replyTo, isEvent, asked, keyed, updated, via⟩
  rcases asked with ⟨world, peer, asker, envelope, sender, call, operation, entry, came,
    sent, asks, about, performed, last, covered⟩
  cases call with
  | placeOrder placed =>
      cases performed
      have payload : envelope.payload = .placeOrder order := by
        rcases envelope with ⟨client, payload⟩
        cases payload with
        | placeOrder => cases asks; rfl
        | _ => cases asks
      exact ⟨surroundings, event, clock, world, peer, replyTo, envelope, order, isEvent,
        came, sent, payload, about, ⟨entry, last, covered⟩, keyed, updated, via⟩
  | _ => cases performed

/-- A client says hello over one connection, logs its account in and places an order over
another, and says hello again over the second. -/
def SystemInput.placing : List SystemInput :=
  let world : GatewayWorld := ⟨⟨⟨0⟩, fun _ => none⟩, fun _ => false, false, true⟩
  let surroundings : Surroundings := ⟨⟨⟨0⟩, fun _ => none⟩, 0, .ok ()⟩
  let sent (outbound : EnvelopeTx) (payload : Message) : SystemInput :=
    .gateway world (.envelope .trading "10.0.0.1:9" outbound ⟨some ⟨"CY"⟩, payload⟩)
  [sent ⟨3⟩ (.hello ⟨"CY"⟩), sent ⟨4⟩ (.accountLogin ⟨⟨"1001"⟩, "", "9999", "", ""⟩),
    .command ⟨"1001"⟩ surroundings] ++
  [.frontConnected, .authenticateOk, .loginOk "20260101" 1 7, .settlementConfirmed].map
    (.event ⟨"1001"⟩ surroundings) ++
  [sent ⟨4⟩ (.placeOrder ⟨⟨"a1"⟩, ⟨"1001"⟩, ⟨"au2612"⟩, .buy, .open, .limit, 1, ⟨0⟩⟩),
    .command ⟨"1001"⟩ surroundings, sent ⟨4⟩ (.hello ⟨"CY"⟩)]

theorem updates_reach_placers_placing :
    let config : ServerConfig := ⟨[⟨"CY", ["1001"], .full⟩]⟩
    let report : OrderReport :=
      ⟨⟨"a1"⟩, none, ⟨"au2612"⟩, .buy, .open, ⟨0⟩, 1, 0, .submitted, none, none⟩
    let input : SystemInput :=
      .event ⟨"1001"⟩ ⟨⟨⟨0⟩, fun _ => none⟩, 0, .ok ()⟩ (.orderReturn report)
    ∃ surroundings event clock world peer replyTo envelope order,
      input = .event ⟨"1001"⟩ surroundings event ∧
        .gateway world (.envelope .trading peer replyTo envelope) ∈ SystemInput.placing ∧
        envelope.clientId = some ⟨"CY"⟩ ∧ envelope.payload = .placeOrder order ∧
        order.accountId = ⟨"1001"⟩ ∧ Writes config ⟨"CY"⟩ ⟨"1001"⟩ ∧
        reportKey event = some (orderContext clock ⟨"CY"⟩ order).orderRefKey ∧
        updateOf surroundings.clock (orderContext clock ⟨"CY"⟩ order) event =
          some (.orderUpdate ⟨⟨"a1"⟩, none, ⟨"1001"⟩, ⟨"CY"⟩, ⟨"au2612"⟩, .buy, .open,
            .limit, 1, 0, ⟨0⟩, .submitted, none, ⟨0⟩, ⟨0⟩⟩) ∧
        some ⟨4⟩ = lastWord (SystemInput.hello ⟨"CY"⟩) SystemInput.placing :=
  updates_reach_placers ⟨[⟨"CY", ["1001"], .full⟩]⟩ SystemInput.placing (by decide)

end CtpSystem
