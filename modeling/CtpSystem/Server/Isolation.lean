import CtpSystem.Library.Noninterference
import CtpSystem.Server.Updates

/-!
# Accounts do not interfere

What happens on an account is what would happen if nothing else had ever been asked of
the server: its actor is reached by the envelopes about the account, its own session
events, and the Hellos that say where its clients are.
-/

namespace CtpSystem

open Reactive

/-! ## What concerns an account -/

/-- An input that can matter to an account: a Hello on the trading endpoint, an envelope
about the account there, and a step of the account's actor. -/
def SystemInput.concerns (accountId : AccountId) : SystemInput → Bool
  | .gateway _ (.envelope .trading _ _ ⟨_, .hello _⟩) => true
  | .gateway _ (.envelope .trading _ _ envelope) =>
      envelope.payload.accountCall.any (·.1.accountId = accountId)
  | .gateway _ _ => false
  | .command actingId _ | .event actingId _ _ => actingId = accountId

/-- What is done on an account: commands enqueued for its actor, and all that the actor
does. -/
def SystemEffect.isOn (accountId : AccountId) : SystemEffect → Bool
  | .gateway (.enqueue target _) => target = accountId
  | .gateway _ => false
  | .trade actingId _ => actingId = accountId

/-- Servers that look alike on an account. -/
structure AlikeOn (config : ServerConfig) (accountId : AccountId)
    (left right : ServerSystem) : Prop where
  guardedLeft : Guarded config left.shared
  guardedRight : Guarded config right.shared
  task : left.tasks accountId = right.tasks accountId
  spawned : left.shared.tradeSessionOf accountId = right.shared.tradeSessionOf accountId
  clients : left.shared.tradingClients = right.shared.tradingClients

/-! ## The gateway -/

section Gateway

variable {config : ServerConfig} {accountId : AccountId} {world : GatewayWorld}

theorem filter_isOn_gateway (effects : List GatewayEffect) :
    (effects.map SystemEffect.gateway).filter (SystemEffect.isOn accountId) =
      (enqueuedFor accountId effects).map fun command => .gateway (.enqueue accountId command) := by
  induction effects with
  | nil => rfl
  | cons effect rest ih =>
      cases effect with
      | publish | send => exact ih
      | enqueue target command =>
          by_cases same : target = accountId
          · subst same
            simpa [SystemEffect.isOn, enqueuedFor] using ih
          · simpa [SystemEffect.isOn, enqueuedFor, same] using ih

/-- Whether a checked command goes through depends on the check and the account's actor. -/
theorem enqueued_sendChecked_congr {left right : ServerActorState} (check : Except String Unit)
    {target : AccountId} (spawned : left.tradeSessionOf target = right.tradeSessionOf target)
    (command : TradeSessionCommand) :
    (left.sendChecked world check target command).enqueued =
      (right.sendChecked world check target command).enqueued := by
  cases check with
  | error message => rfl
  | ok =>
      simp only [ServerActorState.sendChecked, ServerActorState.sendTradeCommand, spawned]
      cases right.tradeSessionOf target with
      | none => rfl
      | some actor =>
          simp only
          split <;> rfl

/-- An operation does the same in states that agree on the account it is about: it enqueues
the same commands and leaves the same handle. -/
theorem perform_congr (world : GatewayWorld) {left right : ServerActorState}
    {clientId : ClientId} {call : AccountCall} (replyTo : EnvelopeTx)
    (rules : left.sessions.permissionFor clientId call.accountId =
      right.sessions.permissionFor clientId call.accountId)
    (spawned : left.tradeSessionOf call.accountId = right.tradeSessionOf call.accountId) :
    (left.perform world clientId replyTo call).enqueued =
        (right.perform world clientId replyTo call).enqueued ∧
      (left.perform world clientId replyTo call).state.tradeSessionOf call.accountId =
        (right.perform world clientId replyTo call).state.tradeSessionOf call.accountId := by
  have checked (allows : ClientPermission → Bool) (mode operation : String)
      (command : TradeSessionCommand) :
      (left.sendChecked world (SessionManager.ensureMode allows mode left.sessions clientId
          call.accountId operation) call.accountId command).enqueued =
        (right.sendChecked world (SessionManager.ensureMode allows mode right.sessions clientId
          call.accountId operation) call.accountId command).enqueued ∧
      (left.sendChecked world (SessionManager.ensureMode allows mode left.sessions clientId
          call.accountId operation) call.accountId command).state.tradeSessionOf
            call.accountId =
        (right.sendChecked world (SessionManager.ensureMode allows mode right.sessions clientId
          call.accountId operation) call.accountId command).state.tradeSessionOf
            call.accountId := by
    rw [sendChecked_state, sendChecked_state, SessionManager.ensureMode, rules]
    exact ⟨enqueued_sendChecked_congr _ spawned command, spawned⟩
  cases call with
  | bindAccount credentials =>
      simp only [AccountCall.accountId] at rules spawned
      simp only [ServerActorState.perform, ServerActorState.bindAccount,
        SessionManager.ensureAccountAccess, AccountCall.accountId, rules, spawned]
      cases right.sessions.permissionFor clientId credentials.accountId with
      | none => exact ⟨rfl, spawned⟩
      | some permission =>
          cases handle : right.tradeSessionOf credentials.accountId with
          | none => simp [ServerActorState.tradeSessionOf]
          | some actor =>
              simp only
              split <;> exact ⟨rfl, spawned⟩
  | _ => exact checked _ _ _ _

/-- An operation leaves the handles of other accounts. -/
theorem tradeSessionOf_perform_of_ne (state : ServerActorState) (clientId : ClientId)
    (replyTo : EnvelopeTx) {call : AccountCall} (other : accountId ≠ call.accountId) :
    (state.perform world clientId replyTo call).state.tradeSessionOf accountId =
      state.tradeSessionOf accountId := by
  cases call with
  | bindAccount credentials =>
      have distinct : accountId.asStr ≠ credentials.accountId.asStr := by
        intro same
        apply other
        rcases accountId with ⟨name⟩
        rcases credentials with ⟨⟨named⟩, _⟩
        exact congrArg AccountId.mk same
      simp only [ServerActorState.perform, ServerActorState.bindAccount]
      split
      · rfl
      · split
        · exact AList.lookup_insert_ne distinct
        · split <;> rfl
  | _ => exact congrArg (·.tradeSessionOf accountId) (sendChecked_state _ _ _)

/-- An envelope that asks for an operation is handled as that operation. -/
theorem handleEnvelope_accountCall (peer : String) (state : ServerActorState)
    (outbound : EnvelopeTx) {envelope : Envelope} {call : AccountCall} {operation : String}
    (asks : envelope.payload.accountCall = some (call, operation)) :
    handleEnvelope world .trading peer state outbound envelope =
      handleAccountCall world state outbound envelope.clientId call operation := by
  rcases envelope with ⟨sender, payload⟩
  cases payload <;> cases asks <;> rfl

theorem enqueuedFor_send (outbound : EnvelopeTx) (message : Message) (state : ServerActorState)
    (effects : List GatewayEffect) :
    enqueuedFor accountId (Handled.send world outbound message state effects).effects =
      enqueuedFor accountId effects := by
  rw [Handled.send]
  split
  · simp [enqueuedFor]
  · rfl

theorem enqueuedFor_publish (closed : Bool)
    (delta : ServerActorState × Option MarketDataSessionCommand) :
    enqueuedFor accountId (Handled.publish closed delta).effects = [] := by
  rw [Handled.publish]
  split
  · rfl
  · split <;> rfl

/-- What handling an operation leaves and enqueues is what performing it does. -/
theorem handleAccountCall_perform (world : GatewayWorld) (accountId : AccountId)
    (state : ServerActorState) (outbound : EnvelopeTx) (clientId : ClientId)
    (call : AccountCall) (operation : String) :
    (handleAccountCall world state outbound (some clientId) call operation).state =
        (state.perform world clientId outbound call).state ∧
      enqueuedFor accountId
          (handleAccountCall world state outbound (some clientId) call operation).effects =
        enqueuedFor accountId ((state.perform world clientId outbound call).enqueued.map
          fun sent => .enqueue sent.1 sent.2) := by
  simp only [handleAccountCall]
  split
  · exact ⟨rfl, rfl⟩
  · exact ⟨Handled.send_state _ _ _ _ _, enqueuedFor_send _ _ _ _⟩

/-- An envelope that asks for no operation on an account leaves its handle. -/
theorem tradeSessionOf_handleEnvelope {kind : TcpEndpointKind} (peer : String)
    (state : ServerActorState) (outbound : EnvelopeTx) {envelope : Envelope}
    (other : ∀ call operation, kind = .trading →
      envelope.payload.accountCall = some (call, operation) → accountId ≠ call.accountId) :
    (handleEnvelope world kind peer state outbound envelope).state.tradeSessionOf accountId =
      state.tradeSessionOf accountId := by
  simp only [handleEnvelope]
  split
  · rw [Handled.send_state]
    rfl
  · rw [Handled.send_state]
    rfl
  · split
    · rw [Handled.send_state]
    · rw [Handled.publish_state]
      rfl
  · split
    · rw [Handled.send_state]
    · rw [Handled.publish_state]
      rfl
  · split
    next call operation asks =>
      cases envelope.clientId with
      | none =>
          simp only [handleAccountCall]
          rw [Handled.send_state]
      | some clientId =>
          rw [(handleAccountCall_perform world accountId state outbound clientId call
            operation).1]
          exact tradeSessionOf_perform_of_ne state clientId outbound (other call operation rfl asks)
    · rw [Handled.send_state]
  · rw [Handled.send_state]

/-- An envelope that does not concern an account is no Hello and asks for no operation on the
account, on the trading endpoint. -/
theorem of_unconcerned {kind : TcpEndpointKind} {peer : String} {outbound : EnvelopeTx}
    {envelope : Envelope}
    (unconcerned : SystemInput.concerns accountId
      (.gateway world (.envelope kind peer outbound envelope)) = false) :
    (∀ named, kind = .trading → envelope.payload ≠ .hello named) ∧
      ∀ call operation, kind = .trading →
        envelope.payload.accountCall = some (call, operation) → accountId ≠ call.accountId := by
  constructor
  · rintro named rfl said
    rcases envelope with ⟨sender, payload⟩
    cases said
    cases unconcerned
  · rintro call operation rfl asks same
    rcases envelope with ⟨sender, payload⟩
    cases payload with
    | hello => cases asks
    | _ => simp_all [SystemInput.concerns]

/-- What does not concern an account leaves its handle and the registered clients alone, and
enqueues nothing for it. -/
theorem gatewayStep_of_unconcerned {state : ServerActorState} (guarded : Guarded config state)
    {input : GatewayInput}
    (unconcerned : SystemInput.concerns accountId (.gateway world input) = false) :
    (gatewayStep state world input).1.tradeSessionOf accountId =
        state.tradeSessionOf accountId ∧
      (gatewayStep state world input).1.tradingClients = state.tradingClients ∧
      enqueuedFor accountId (gatewayStep state world input).2 = [] := by
  cases input with
  | accountState => exact ⟨rfl, rfl, rfl⟩
  | disconnected clientId =>
      simp only [gatewayStep, Handled.publish_state]
      exact ⟨rfl, rfl, enqueuedFor_publish _ _⟩
  | envelope kind peer outbound envelope =>
      rcases of_unconcerned unconcerned with ⟨noHello, noCall⟩
      refine ⟨tradeSessionOf_handleEnvelope peer state outbound noCall,
        tradingClients_handleEnvelope world peer state outbound noHello, ?_⟩
      apply List.eq_nil_iff_forall_not_mem.mpr
      intro command member
      rcases List.mem_filterMap.mp member with ⟨effect, emitted, addressed⟩
      cases effect with
      | publish | send => simp at addressed
      | enqueue target enqueued =>
          simp only [Option.ite_none_right_eq_some, Option.some.injEq] at addressed
          rcases addressed with ⟨rfl, rfl⟩
          cases kind with
          | marketData => exact enqueue_notMem_marketData emitted
          | trading =>
              rcases enqueued_of_handleEnvelope guarded emitted with
                ⟨clientId, call, operation, -, asks, about, -⟩
              exact noCall call operation rfl asks about

/-- What concerns an account does the same in states that look alike on it. -/
theorem gatewayStep_congr {left right : ServerActorState} (guardedLeft : Guarded config left)
    (guardedRight : Guarded config right)
    (spawned : left.tradeSessionOf accountId = right.tradeSessionOf accountId)
    (clients : left.tradingClients = right.tradingClients) {input : GatewayInput}
    (concerned : SystemInput.concerns accountId (.gateway world input) = true) :
    (gatewayStep left world input).1.tradeSessionOf accountId =
        (gatewayStep right world input).1.tradeSessionOf accountId ∧
      (gatewayStep left world input).1.tradingClients =
        (gatewayStep right world input).1.tradingClients ∧
      enqueuedFor accountId (gatewayStep left world input).2 =
        enqueuedFor accountId (gatewayStep right world input).2 := by
  cases input with
  | accountState | disconnected => cases concerned
  | envelope kind peer outbound envelope =>
      cases kind with
      | marketData => cases concerned
      | trading =>
          cases asks : envelope.payload.accountCall with
          | none =>
              rcases envelope with ⟨sender, payload⟩
              cases payload with
              | hello named =>
                  simp only [gatewayStep, handleEnvelope, Handled.send_state,
                    enqueuedFor_send, and_true]
                  exact ⟨spawned, congrArg (·.insert named.asStr ⟨named, peer, outbound⟩) clients⟩
              | _ => simp [SystemInput.concerns, asks] at concerned
          | some asked =>
              rcases asked with ⟨call, operation⟩
              have about : call.accountId = accountId := by
                rcases envelope with ⟨sender, payload⟩
                cases payload with
                | hello => cases asks
                | _ => simpa [SystemInput.concerns, asks] using concerned
              subst about
              simp only [gatewayStep, handleEnvelope_accountCall peer _ outbound asks]
              cases envelope.clientId with
              | none =>
                  simp only [handleAccountCall, Handled.send_state, enqueuedFor_send, and_true]
                  exact ⟨spawned, clients⟩
              | some clientId =>
                  have rules : left.sessions.permissionFor clientId call.accountId =
                      right.sessions.permissionFor clientId call.accountId := by
                    rw [guardedLeft.rules, guardedRight.rules]
                  rcases perform_congr world outbound rules spawned with
                    ⟨enqueued, handle⟩
                  have onLeft := handleAccountCall_perform world call.accountId left outbound
                    clientId call operation
                  have onRight := handleAccountCall_perform world call.accountId right outbound
                    clientId call operation
                  rw [onLeft.1, onLeft.2, onRight.1, onRight.2, handle, enqueued,
                    perform_tradingClients, perform_tradingClients]
                  exact ⟨rfl, clients, rfl⟩

end Gateway

/-! ## Actors -/

/-- An actor sees of the shared state where its clients are, and nothing else. -/
theorem step_tradingClients (accountId : AccountId) (surroundings : Surroundings)
    (shared : ServerActorState) (actor : TradeActor) (input : TradeInput) :
    actor.step accountId { surroundings with shared := shared } input =
      actor.step accountId
        { surroundings with shared := { tradingClients := shared.tradingClients } } input :=
  rfl

theorem step_congr (accountId : AccountId) (surroundings : Surroundings)
    {left right : ServerActorState} (clients : left.tradingClients = right.tradingClients)
    (actor : TradeActor) (input : TradeInput) :
    actor.step accountId { surroundings with shared := left } input =
      actor.step accountId { surroundings with shared := right } input := by
  rw [step_tradingClients, clients, ← step_tradingClients]

theorem applyEffects_frame (state : ServerActorState) (effects : List Effect) :
    (state.applyEffects effects).tradeSessions = state.tradeSessions ∧
      (state.applyEffects effects).tradingClients = state.tradingClients := by
  rw [ServerActorState.applyEffects]
  induction effects generalizing state with
  | nil => exact ⟨rfl, rfl⟩
  | cons effect rest ih =>
      rw [List.foldl_cons, (ih _).1, (ih _).2]
      cases effect <;> exact ⟨rfl, rfl⟩

theorem filter_isOn_trade (accountId actingId : AccountId) (effects : List Effect) :
    (effects.map (SystemEffect.trade actingId)).filter (SystemEffect.isOn accountId) =
      if actingId = accountId then effects.map (SystemEffect.trade actingId) else [] := by
  split
  next same => exact List.filter_eq_self.mpr (by simp [SystemEffect.isOn, same])
  next other => exact List.filter_eq_nil_iff.mpr (by simp [SystemEffect.isOn, other])

section Acting

variable {config : ServerConfig} {accountId : AccountId} {left right : ServerSystem}

/-- An actor of another account changes nothing about this one. -/
theorem alikeOn_act_hidden (alike : AlikeOn config accountId left right)
    {actingId : AccountId} (other : actingId ≠ accountId) (surroundings : Surroundings)
    (inbox : List TradeSessionCommand) (input : TradeInput) :
    AlikeOn config accountId (left.act actingId surroundings inbox input).1 right ∧
      (left.act actingId surroundings inbox input).2.filter (SystemEffect.isOn accountId) =
        [] := by
  have frame := applyEffects_frame left.shared
    ((left.tasks actingId).actor.step actingId
      { surroundings with shared := left.shared } input).2
  refine ⟨⟨guarded_applyEffects alike.guardedLeft _, alike.guardedRight, ?_, ?_, ?_⟩, ?_⟩
  · simp only [ServerSystem.act, Function.update_of_ne (Ne.symm other)]
    exact alike.task
  · exact (congrArg (·.lookup accountId.asStr) frame.1).trans alike.spawned
  · exact frame.2.trans alike.clients
  · simp only [ServerSystem.act, filter_isOn_trade, if_neg other]

/-- The actor of the account does the same in servers that look alike on it. -/
theorem alikeOn_act_shown (alike : AlikeOn config accountId left right)
    (surroundings : Surroundings) (inbox : List TradeSessionCommand) (input : TradeInput) :
    AlikeOn config accountId (left.act accountId surroundings inbox input).1
        (right.act accountId surroundings inbox input).1 ∧
      (left.act accountId surroundings inbox input).2 =
        (right.act accountId surroundings inbox input).2 := by
  have same := step_congr accountId surroundings alike.clients (right.tasks accountId).actor
    input
  have onLeft := applyEffects_frame left.shared
    ((left.tasks accountId).actor.step accountId
      { surroundings with shared := left.shared } input).2
  have onRight := applyEffects_frame right.shared
    ((right.tasks accountId).actor.step accountId
      { surroundings with shared := right.shared } input).2
  refine ⟨⟨guarded_applyEffects alike.guardedLeft _, guarded_applyEffects alike.guardedRight _,
    ?_, ?_, ?_⟩, ?_⟩
  · simp only [ServerSystem.act, Function.update_self, alike.task, same]
  · exact (congrArg (·.lookup accountId.asStr) onLeft.1).trans
      (alike.spawned.trans (congrArg (·.lookup accountId.asStr) onRight.1).symm)
  · exact onLeft.2.trans (alike.clients.trans onRight.2.symm)
  · simp only [ServerSystem.act, alike.task, same]

end Acting

/-! ## Runs -/

/-- The unwinding of the server over one account. -/
theorem unwinding_account (config : ServerConfig) (accountId : AccountId) :
    Unwinding (ServerSystem.machine config) (SystemInput.concerns accountId)
      (SystemEffect.isOn accountId) (AlikeOn config accountId) := by
  constructor
  · intro left right input alike unconcerned
    cases input with
    | gateway world input =>
        rcases gatewayStep_of_unconcerned alike.guardedLeft unconcerned with
          ⟨handle, clients, silent⟩
        refine ⟨⟨guarded_next config left.shared (world, input) alike.guardedLeft,
          alike.guardedRight, ?_, handle.trans alike.spawned, clients.trans alike.clients⟩, ?_⟩
        · simp only [Machine.next, ServerSystem.machine, ServerSystem.step, silent,
            List.append_nil]
          exact alike.task
        · simp only [Machine.emits, ServerSystem.machine, ServerSystem.step,
            filter_isOn_gateway, silent, List.map_nil]
    | command actingId surroundings =>
        have other : actingId ≠ accountId := of_decide_eq_false unconcerned
        simp only [Machine.next, Machine.emits, ServerSystem.machine, ServerSystem.step]
        split
        · exact ⟨alike, rfl⟩
        · split
          · exact alikeOn_act_hidden alike other surroundings _ _
          · exact ⟨alike, rfl⟩
    | event actingId surroundings event =>
        exact alikeOn_act_hidden alike (of_decide_eq_false unconcerned) surroundings _ _
  · intro left right input alike concerned
    cases input with
    | gateway world input =>
        rcases gatewayStep_congr alike.guardedLeft alike.guardedRight alike.spawned
            alike.clients concerned with ⟨handle, clients, enqueued⟩
        refine ⟨⟨guarded_next config left.shared (world, input) alike.guardedLeft,
          guarded_next config right.shared (world, input) alike.guardedRight, ?_, handle,
          clients⟩, ?_⟩
        · simp only [Machine.next, ServerSystem.machine, ServerSystem.step, alike.task,
            enqueued]
        · simp only [Machine.emits, ServerSystem.machine, ServerSystem.step,
            filter_isOn_gateway, enqueued]
    | command actingId surroundings =>
        have own : actingId = accountId := of_decide_eq_true concerned
        subst own
        simp only [Machine.next, Machine.emits, ServerSystem.machine, ServerSystem.step,
          alike.task]
        split
        · exact ⟨alike, rfl⟩
        · split
          · rcases alikeOn_act_shown alike surroundings _ _ with ⟨still, same⟩
            exact ⟨still, congrArg _ same⟩
          · exact ⟨alike, rfl⟩
    | event actingId surroundings event =>
        have own : actingId = accountId := of_decide_eq_true concerned
        subst own
        simp only [Machine.next, Machine.emits, ServerSystem.machine, ServerSystem.step,
          alike.task]
        rcases alikeOn_act_shown alike surroundings _ _ with ⟨still, same⟩
        exact ⟨still, congrArg _ same⟩

/-- In every run of the server, the commands enqueued for an account and all that the
account's actor does are those of the run in which everything else was left out: envelopes
about other accounts, the market-data endpoint, and the actors of other accounts. -/
theorem accounts_isolated (config : ServerConfig) (accountId : AccountId)
    (inputs : List SystemInput) :
    let server := ServerSystem.machine config
    (server.outputs server.init inputs).filter (SystemEffect.isOn accountId) =
      (server.outputs server.init (inputs.filter (SystemInput.concerns accountId))).filter
        (SystemEffect.isOn accountId) := by
  intro server
  have guarded := guarded_fromConfig config
  exact (unwinding_account config accountId).outputs_filter
    ⟨guarded, guarded, rfl, rfl, rfl⟩ inputs

end CtpSystem
