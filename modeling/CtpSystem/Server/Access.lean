import CtpSystem.Server.Gateway

/-!
# The whitelist holds

The access rules of a running server are those of its configuration, and each command
is enqueued only with the permission its kind requires.
-/

namespace CtpSystem

open Reactive

/-- The permissions that cover a command. -/
def TradeSessionCommand.allowedBy : TradeSessionCommand → ClientPermission → Bool
  | .login _ _, _ => true
  | .placeOrder _ _ _, permission | .cancelOrder _ _, permission
  | .logout _, permission => permission.allowsWrite
  | .queryAccount _ _, permission | .queryPosition _ _ _, permission
  | .queryOrders _ _, permission | .queryTrades _ _, permission => permission.allowsRead

namespace AccountCall

/-- The account an operation is about. -/
def accountId : AccountCall → AccountId
  | .bindAccount credentials => credentials.accountId
  | .placeOrder order => order.accountId
  | .cancelOrder cancel => cancel.accountId
  | .queryAccount accountId | .queryPosition accountId _ | .queryOrders accountId
  | .queryTrades accountId | .logoutAccount accountId => accountId

/-- The command an operation enqueues. -/
def command (clientId : ClientId) (replyTo : EnvelopeTx) : AccountCall → TradeSessionCommand
  | .bindAccount credentials => .login credentials replyTo
  | .placeOrder order => .placeOrder clientId order replyTo
  | .cancelOrder cancel => .cancelOrder cancel replyTo
  | .queryAccount accountId => .queryAccount accountId replyTo
  | .queryPosition accountId instrumentId => .queryPosition accountId instrumentId replyTo
  | .queryOrders accountId => .queryOrders accountId replyTo
  | .queryTrades accountId => .queryTrades accountId replyTo
  | .logoutAccount _ => .logout replyTo

end AccountCall

/-- What holds in every state of a server: the access rules are the configured ones, and
the handle stored for an account is that of the account's own actor. -/
structure Guarded (config : ServerConfig) (state : ServerActorState) : Prop where
  rules : ∀ clientId accountId, state.sessions.permissionFor clientId accountId =
    (config.lastEntry clientId accountId).map (·.permission)
  handles : ∀ accountId actor, state.tradeSessionOf accountId = some actor →
    actor.accountId = accountId

/-! ## Operations -/

section Operations

variable {world : GatewayWorld} {state : ServerActorState} {clientId : ClientId}
variable {replyTo : EnvelopeTx}

/-- Sending a checked command changes nothing in the shared state. -/
theorem sendChecked_state (check : Except String Unit) (accountId : AccountId)
    (command : TradeSessionCommand) :
    (state.sendChecked world check accountId command).state = state := by
  simp only [ServerActorState.sendChecked, ServerActorState.sendTradeCommand]
  split
  · rfl
  · split
    · rfl
    · split <;> rfl

/-- A checked command that is enqueued has passed its check and goes to the actor of
its account. -/
theorem enqueued_of_sendChecked {check : Except String Unit} {accountId : AccountId}
    {command : TradeSessionCommand} {sent : AccountId × TradeSessionCommand}
    (enqueued : sent ∈ (state.sendChecked world check accountId command).enqueued) :
    check = .ok () ∧ (∃ actor, state.tradeSessionOf accountId = some actor ∧
      sent = (actor.accountId, command)) := by
  simp only [ServerActorState.sendChecked, ServerActorState.sendTradeCommand] at enqueued
  split at enqueued
  · simp at enqueued
  next unit =>
    split at enqueued
    · simp at enqueued
    next actor found =>
      split at enqueued
      · simp at enqueued
      · exact ⟨rfl, actor, found, List.mem_singleton.mp enqueued⟩

/-- A checked command that fails is not enqueued. -/
theorem enqueued_of_sendChecked_error {check : Except String Unit} {accountId : AccountId}
    {command : TradeSessionCommand} {message : String}
    (failed : (state.sendChecked world check accountId command).result = .error message) :
    (state.sendChecked world check accountId command).enqueued = [] := by
  simp only [ServerActorState.sendChecked, ServerActorState.sendTradeCommand] at failed ⊢
  split
  · rfl
  · split
    · rfl
    · split
      · rfl
      · simp_all

/-- An operation that fails has enqueued nothing and changed nothing. -/
theorem perform_error {call : AccountCall} {message : String}
    (failed : (state.perform world clientId replyTo call).result = .error message) :
    (state.perform world clientId replyTo call).enqueued = [] ∧
      (state.perform world clientId replyTo call).state = state := by
  cases call with
  | bindAccount credentials =>
      simp only [ServerActorState.perform, ServerActorState.bindAccount] at failed ⊢
      split
      · exact ⟨rfl, rfl⟩
      · split <;> simp_all
        split at failed <;> simp_all
  | placeOrder | cancelOrder | queryAccount | queryPosition | queryOrders | queryTrades
  | logoutAccount =>
      exact ⟨enqueued_of_sendChecked_error failed, sendChecked_state _ _ _⟩

/-- A passed read or write check means a configured entry that covers the access. -/
theorem entry_of_ensureMode {config : ServerConfig} (guarded : Guarded config state)
    {allows : ClientPermission → Bool} {mode operation : String} {accountId : AccountId}
    (passed : SessionManager.ensureMode allows mode state.sessions clientId accountId
      operation = .ok ()) :
    ∃ entry, config.lastEntry clientId accountId = some entry ∧
      allows entry.permission = true := by
  rcases SessionManager.ensureMode_ok_iff.mp passed with ⟨permission, found, allowed⟩
  rw [guarded.rules] at found
  rcases Option.map_eq_some_iff.mp found with ⟨entry, last, rfl⟩
  exact ⟨entry, last, allowed⟩

/-- A checked command goes to the actor of its account, with a covering entry. -/
theorem covered_of_sendChecked {config : ServerConfig} (guarded : Guarded config state)
    {allows : ClientPermission → Bool} {mode operation : String} {accountId : AccountId}
    {command : TradeSessionCommand} {sent : AccountId × TradeSessionCommand}
    (enqueued : sent ∈ (state.sendChecked world
      (SessionManager.ensureMode allows mode state.sessions clientId accountId operation)
      accountId command).enqueued) :
    sent = (accountId, command) ∧
      ∃ entry, config.lastEntry clientId accountId = some entry ∧
        allows entry.permission = true := by
  rcases enqueued_of_sendChecked enqueued with ⟨passed, actor, found, equal⟩
  rw [guarded.handles accountId actor found] at equal
  exact ⟨equal, entry_of_ensureMode guarded passed⟩

/-- A command is enqueued on the actor of the operation's account, and only with a
permission that covers it. -/
theorem enqueued_of_perform {config : ServerConfig} (guarded : Guarded config state)
    {call : AccountCall} {sent : AccountId × TradeSessionCommand}
    (enqueued : sent ∈ (state.perform world clientId replyTo call).enqueued) :
    sent = (call.accountId, call.command clientId replyTo) ∧
      ∃ entry, config.lastEntry clientId call.accountId = some entry ∧
        (call.command clientId replyTo).allowedBy entry.permission = true := by
  cases call with
  | placeOrder | cancelOrder | queryAccount | queryPosition | queryOrders | queryTrades
  | logoutAccount => exact covered_of_sendChecked guarded enqueued
  | bindAccount credentials =>
      simp only [ServerActorState.perform, ServerActorState.bindAccount] at enqueued
      split at enqueued
      · simp at enqueued
      next passed =>
        have permitted := SessionManager.ensureAccountAccess_ok_iff.mp passed
        rw [guarded.rules, Option.isSome_map] at permitted
        rcases Option.isSome_iff_exists.mp permitted with ⟨entry, last⟩
        refine ⟨?_, entry, last, rfl⟩
        split at enqueued
        · exact List.mem_singleton.mp enqueued
        next actor found =>
          split at enqueued
          · simp at enqueued
          · rw [List.mem_singleton.mp enqueued, guarded.handles _ actor found]
            rfl

theorem guarded_sendChecked {config : ServerConfig} (guarded : Guarded config state)
    (check : Except String Unit) (accountId : AccountId) (command : TradeSessionCommand) :
    Guarded config (state.sendChecked world check accountId command).state := by
  rw [sendChecked_state]
  exact guarded

/-- An operation keeps the state guarded. -/
theorem guarded_perform {config : ServerConfig} (guarded : Guarded config state)
    (call : AccountCall) :
    Guarded config (state.perform world clientId replyTo call).state := by
  cases call with
  | placeOrder | cancelOrder | queryAccount | queryPosition | queryOrders | queryTrades
  | logoutAccount =>
      exact guarded_sendChecked guarded _ _ _
  | bindAccount credentials =>
      simp only [ServerActorState.perform, ServerActorState.bindAccount]
      split
      · exact guarded
      · split
        · refine ⟨guarded.rules, ?_⟩
          intro accountId actor found
          simp only [ServerActorState.tradeSessionOf] at found
          by_cases same : accountId.asStr = credentials.accountId.asStr
          · rw [same, AList.lookup_insert, Option.some.injEq] at found
            rcases accountId with ⟨name⟩
            rw [← found]
            simp only at same
            rw [same]
          · rw [AList.lookup_insert_ne same] at found
            exact guarded.handles accountId actor found
        · split <;> exact ⟨guarded.rules, guarded.handles⟩

end Operations

/-! ## Envelopes -/

/-- The state after a response does not depend on it being sent. -/
@[simp] theorem Handled.send_state (world : GatewayWorld) (outbound : EnvelopeTx)
    (message : Message) (state : ServerActorState) (effects : List GatewayEffect) :
    (Handled.send world outbound message state effects).state = state := by
  rw [Handled.send]
  split <;> rfl

/-- A response enqueues nothing. -/
theorem enqueue_mem_send {world : GatewayWorld} {outbound : EnvelopeTx} {message : Message}
    {state : ServerActorState} {effects : List GatewayEffect} {accountId : AccountId}
    {command : TradeSessionCommand} :
    .enqueue accountId command ∈ (Handled.send world outbound message state effects).effects ↔
      .enqueue accountId command ∈ effects := by
  rw [Handled.send]
  split <;> simp

@[simp] theorem Handled.publish_state (closed : Bool)
    (delta : ServerActorState × Option MarketDataSessionCommand) :
    (Handled.publish closed delta).state = delta.1 := by
  rw [Handled.publish]
  split
  · rfl
  · split <;> rfl

/-- A delta is not for a trade session. -/
theorem enqueue_mem_publish {closed : Bool}
    {delta : ServerActorState × Option MarketDataSessionCommand} {accountId : AccountId}
    {command : TradeSessionCommand} :
    .enqueue accountId command ∉ (Handled.publish closed delta).effects := by
  rw [Handled.publish]
  split
  · simp
  · split <;> simp

/-- What an envelope about an account enqueues is what its operation enqueues. -/
theorem enqueued_of_handleAccountCall {world : GatewayWorld} {state : ServerActorState}
    {outbound : EnvelopeTx} {sender : Option ClientId} {call : AccountCall}
    {operation : String} {accountId : AccountId} {command : TradeSessionCommand}
    (enqueued : .enqueue accountId command ∈
      (handleAccountCall world state outbound sender call operation).effects) :
    ∃ clientId, sender = some clientId ∧
      (accountId, command) ∈ (state.perform world clientId outbound call).enqueued := by
  cases sender with
  | none =>
      simp only [handleAccountCall, enqueue_mem_send] at enqueued
      simp at enqueued
  | some clientId =>
      refine ⟨clientId, rfl, ?_⟩
      simp only [handleAccountCall] at enqueued
      split at enqueued
      · simpa using enqueued
      · rw [enqueue_mem_send] at enqueued
        simpa using enqueued

/-- A command enqueued for an envelope is that of the operation it asks for, goes to the
actor of the operation's account, and has a configured entry that covers it. -/
theorem enqueued_of_handleEnvelope {config : ServerConfig} {world : GatewayWorld}
    {kind : TcpEndpointKind} {peer : String} {state : ServerActorState}
    (guarded : Guarded config state) {outbound : EnvelopeTx} {envelope : Envelope}
    {accountId : AccountId} {command : TradeSessionCommand}
    (enqueued : .enqueue accountId command ∈
      (handleEnvelope world kind peer state outbound envelope).effects) :
    ∃ clientId call operation, envelope.clientId = some clientId ∧
      envelope.payload.accountCall = some (call, operation) ∧
      accountId = call.accountId ∧ command = call.command clientId outbound ∧
      ∃ entry, config.lastEntry clientId accountId = some entry ∧
        command.allowedBy entry.permission = true := by
  simp only [handleEnvelope] at enqueued
  split at enqueued
  · simp [enqueue_mem_send] at enqueued
  · simp [enqueue_mem_send] at enqueued
  · split at enqueued
    · simp [enqueue_mem_send] at enqueued
    · exact absurd enqueued enqueue_mem_publish
  · split at enqueued
    · simp [enqueue_mem_send] at enqueued
    · exact absurd enqueued enqueue_mem_publish
  · split at enqueued
    next call operation asked =>
      rcases enqueued_of_handleAccountCall enqueued with ⟨clientId, sender, performed⟩
      rcases enqueued_of_perform guarded performed with ⟨equal, covered⟩
      rw [Prod.mk.injEq] at equal
      rcases equal with ⟨rfl, rfl⟩
      exact ⟨clientId, call, operation, sender, asked, rfl, rfl, covered⟩
    next => simp [enqueue_mem_send] at enqueued
  · simp [enqueue_mem_send] at enqueued

/-- What handling an envelope can leave of the shared state. -/
inductive EnvelopeCase (world : GatewayWorld) (peer : String) (state : ServerActorState)
    (outbound : EnvelopeTx) : ServerActorState → Prop where
  | kept : EnvelopeCase world peer state outbound state
  | registered (clientId : ClientId) :
      EnvelopeCase world peer state outbound
        (state.registerTradingClient clientId peer outbound)
  | registeredMarketData (clientId : ClientId) :
      EnvelopeCase world peer state outbound
        (state.registerMarketDataClient clientId peer outbound)
  | subscribed (clientId : ClientId) (instruments : List InstrumentId) :
      EnvelopeCase world peer state outbound
        (state.subscribeExchangeMarketData clientId instruments).1
  | unsubscribed (clientId : ClientId) (instruments : List InstrumentId) :
      EnvelopeCase world peer state outbound
        (state.unsubscribeExchangeMarketData clientId instruments).1
  | performed (clientId : ClientId) (call : AccountCall) :
      EnvelopeCase world peer state outbound
        (state.perform world clientId outbound call).state

/-- Handling an envelope does one of those things. -/
theorem handleEnvelope_case (world : GatewayWorld) (kind : TcpEndpointKind) (peer : String)
    (state : ServerActorState) (outbound : EnvelopeTx) (envelope : Envelope) :
    EnvelopeCase world peer state outbound
      (handleEnvelope world kind peer state outbound envelope).state := by
  simp only [handleEnvelope]
  split
  · rw [Handled.send_state]
    exact .registered _
  · rw [Handled.send_state]
    exact .registeredMarketData _
  · split
    · rw [Handled.send_state]
      exact .kept
    · rw [Handled.publish_state]
      exact .subscribed _ _
  · split
    · rw [Handled.send_state]
      exact .kept
    · rw [Handled.publish_state]
      exact .unsubscribed _ _
  · split
    next call operation _ =>
      simp only [handleAccountCall]
      split
      · rw [Handled.send_state]
        exact .kept
      · split
        · exact .performed _ call
        · rw [Handled.send_state]
          exact .performed _ call
    next =>
      rw [Handled.send_state]
      exact .kept
  · rw [Handled.send_state]
    exact .kept

/-- Handling an envelope keeps the state guarded. -/
theorem guarded_handleEnvelope {config : ServerConfig} (world : GatewayWorld)
    (kind : TcpEndpointKind) (peer : String) {state : ServerActorState}
    (guarded : Guarded config state) (outbound : EnvelopeTx) (envelope : Envelope) :
    Guarded config (handleEnvelope world kind peer state outbound envelope).state := by
  have handled := handleEnvelope_case world kind peer state outbound envelope
  generalize (handleEnvelope world kind peer state outbound envelope).state = after at handled ⊢
  cases handled with
  | kept => exact guarded
  | registered | registeredMarketData | subscribed | unsubscribed =>
      exact ⟨guarded.rules, guarded.handles⟩
  | performed clientId call => exact guarded_perform guarded call

/-- Every step of the gateway keeps the state guarded. -/
theorem guarded_next (config : ServerConfig) (state : ServerActorState)
    (input : GatewayWorld × GatewayInput) (guarded : Guarded config state) :
    Guarded config ((gateway config).next state input) := by
  rcases input with ⟨world, input⟩
  cases input with
  | envelope kind peer outbound envelope =>
      exact guarded_handleEnvelope world kind peer guarded outbound envelope
  | disconnected clientId =>
      simp only [Machine.next, gateway, gatewayStep, Handled.publish_state]
      exact ⟨guarded.rules, guarded.handles⟩
  | accountState => exact ⟨guarded.rules, guarded.handles⟩

/-- A fresh server is guarded. -/
theorem guarded_fromConfig (config : ServerConfig) :
    Guarded config (.fromConfig config) := by
  refine ⟨permissionFor_fromConfig config, ?_⟩
  intro accountId actor found
  rw [ServerActorState.tradeSessionOf, tradeSessions_fromConfig] at found
  simp at found

/-! ## Every run -/

/-- In every state a server reaches, an envelope enqueues a command only for the
account it is about, on the account's own actor, and only if the last configured entry
for the client and the account permits it; and an operation that fails has enqueued
nothing and left the shared state as it was. -/
theorem whitelist_enforced (config : ServerConfig)
    (inputs : List (GatewayWorld × GatewayInput)) :
    let state := (gateway config).runFrom (gateway config).init inputs
    (∀ world kind peer outbound envelope accountId command,
      .enqueue accountId command ∈
          (handleEnvelope world kind peer state outbound envelope).effects →
        ∃ clientId call operation, envelope.clientId = some clientId ∧
          envelope.payload.accountCall = some (call, operation) ∧
          accountId = call.accountId ∧ command = call.command clientId outbound ∧
          ∃ entry, config.lastEntry clientId accountId = some entry ∧
            command.allowedBy entry.permission = true) ∧
      ∀ world clientId replyTo call message,
        (state.perform world clientId replyTo call).result = .error message →
          (state.perform world clientId replyTo call).enqueued = [] ∧
            (state.perform world clientId replyTo call).state = state := by
  intro state
  have guarded : Guarded config state :=
    (gateway config).invariant_runFrom (guarded_next config) (guarded_fromConfig config) inputs
  constructor
  · intro world kind peer outbound envelope accountId command enqueued
    exact enqueued_of_handleEnvelope guarded enqueued
  · intro world clientId replyTo call message failed
    exact perform_error failed

end CtpSystem
