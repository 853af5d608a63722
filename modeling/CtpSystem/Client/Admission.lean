import CtpSystem.Client.Completion
import CtpSystem.Library.Protocol
import CtpSystem.Server.AccountStates
import CtpSystem.Server.Forwarding

/-!
# Terminals are admitted

A terminal logs its account in before it asks for anything on it.  A server that gives it
full access to the account therefore accepts all its requests, whatever else it handles in
between.
-/

namespace CtpSystem

open Reactive

/-! ## What a terminal sends -/

/-- The envelope of a request on the trading connection. -/
def FlowRequest.tradingEnvelope : FlowRequest → Option Envelope
  | .trading envelope => some envelope
  | .marketData _ => none

/-- What a terminal sends to the trading endpoint: hellos, logins of its account, and after a
login what is about the account. -/
def TerminalSends (clientId : ClientId) (credentials : AccountCredentials)
    (earlier : List Envelope) (envelope : Envelope) : Prop :=
  envelope.clientId = some clientId ∧
    (envelope.payload = .hello clientId ∨ envelope.payload = .accountLogin credentials ∨
      ⟨some clientId, .accountLogin credentials⟩ ∈ earlier ∧
        ∃ call operation, envelope.payload.accountCall = some (call, operation) ∧
          call.accountId = credentials.accountId)

/-- An order update is about the account. -/
def FlowInput.IsAbout (accountId : AccountId) : FlowInput → Prop
  | .trading (some ⟨_, .orderUpdate update⟩) => update.accountId = accountId
  | _ => True

namespace Flow

section Terminal

variable {setup : FlowSetup} {credentials : AccountCredentials} {flow : Flow}
variable {sent : List FlowRequest} {history : List FlowInput} {world : FlowWorld}
variable {input : FlowInput}

/-- Only the account of the environment is logged in. -/
theorem loaded_of_login (follows : FollowsSome setup sent)
    (login : setup.trading (.accountLogin credentials) ∈ sent) :
    loadTradeCredentials setup.env = .ok credentials := by
  rcases follows with ⟨order, cancel, follows⟩
  have line : setup.trading (.accountLogin credentials) ∈ setup.script order := by
    apply follows.line.subset
    exact List.mem_filter.mpr ⟨login, rfl⟩
  rw [FlowSetup.script] at line
  cases loaded : loadTradeCredentials setup.env with
  | error message =>
      simp [loaded, FlowSetup.greetings, FlowSetup.trading, FlowSetup.marketData] at line
  | ok own =>
      have same : own = credentials := by
        cases given : requiredEnv setup.env "CTP_INSTRUMENTS" with
        | error message =>
            simpa [loaded, given, FlowSetup.greetings, FlowSetup.trading,
              FlowSetup.marketData, eq_comm] using line
        | ok value =>
            cases order <;>
              simpa [loaded, given, FlowSetup.loopScript, FlowSetup.queries,
                FlowSetup.farewell, FlowSetup.greetings, FlowSetup.trading,
                FlowSetup.marketData, eq_comm] using line
      rw [same]

/-- In its loop a session has logged its account in. -/
theorem login_of_running (scripted : flow.Scripted setup sent)
    {instruments : List InstrumentId} (running : flow.stage = .running credentials instruments) :
    setup.trading (.accountLogin credentials) ∈ sent := by
  rw [Scripted, running] at scripted
  rcases scripted with ⟨order, cancel, looping⟩
  have line : setup.trading (.accountLogin credentials) ∈ sent.filter (!·.isCancel) := by
    rw [looping.line]
    simp
  exact List.mem_of_mem_filter line

/-- The top of the loop asks for what is about the account. -/
theorem HeadDue.about {instruments : List InstrumentId} {request : FlowRequest}
    (due : HeadDue setup world credentials.accountId instruments flow request)
    {envelope : Envelope} (own : request.tradingEnvelope = some envelope) :
    envelope.clientId = some setup.clientId ∧
      ∃ call operation, envelope.payload.accountCall = some (call, operation) ∧
        call.accountId = credentials.accountId := by
  rcases due with ⟨query, -⟩ | ⟨order, rfl, -, built⟩ | ⟨farewell, -⟩
  · simp only [FlowSetup.queries, List.mem_cons, List.not_mem_nil, or_false] at query
    rcases query with rfl | rfl | rfl | rfl <;> cases own <;> exact ⟨rfl, _, _, rfl, rfl⟩
  · cases own
    exact ⟨rfl, _, _, rfl, (buildPassiveTestOrder_ok built).2.1⟩
  · simp only [FlowSetup.farewell, List.mem_cons, List.not_mem_nil, or_false] at farewell
    rcases farewell with rfl | rfl
    · cases own
    · cases own
      exact ⟨rfl, _, _, rfl, rfl⟩

theorem terminalSends_of_due (loaded : loadTradeCredentials setup.env = .ok credentials)
    (scripted : flow.Scripted setup sent) {requests : List FlowRequest}
    (follows : FollowsSome setup (sent ++ requests)) {request : FlowRequest}
    (member : request ∈ requests) (about : input.IsAbout credentials.accountId)
    (due : RequestDue setup flow history world input request)
    {envelope : Envelope} (own : request.tradingEnvelope = some envelope) :
    TerminalSends setup.clientId credentials (sent.filterMap (·.tradingEnvelope)) envelope := by
  rcases due with greeting | ⟨other, rfl⟩ | ⟨instruments, rfl⟩ |
    ⟨other, instruments, running, loaded', due⟩
  · simp only [FlowSetup.greetings, List.mem_cons, List.not_mem_nil, or_false] at greeting
    rcases greeting with rfl | rfl <;> cases own
    exact ⟨rfl, Or.inl rfl⟩
  · cases own
    have same := loaded_of_login follows (List.mem_append_right sent member)
    rw [loaded, Except.ok.injEq] at same
    rw [← same]
    exact ⟨rfl, Or.inr (Or.inl rfl)⟩
  · cases own
  · rw [loaded, Except.ok.injEq] at loaded'
    subst loaded'
    have login : ⟨some setup.clientId, .accountLogin credentials⟩ ∈
        sent.filterMap (·.tradingEnvelope) :=
      List.mem_filterMap.mpr ⟨_, login_of_running scripted running, rfl⟩
    rcases due with ⟨clientId, update, rfl, -, -, rfl⟩ | ⟨armed, -, -, head⟩
    · cases own
      exact ⟨rfl, Or.inr (Or.inr ⟨login, _, _, rfl, about⟩)⟩
    · rcases head.about own with ⟨sender, asks⟩
      exact ⟨sender, Or.inr (Or.inr ⟨login, asks⟩)⟩

/-- In every run a terminal sends what it may. -/
theorem terminal_keepsTo (loaded : loadTradeCredentials setup.env = .ok credentials)
    {inputs : List (FlowWorld × FlowInput)}
    (about : ∀ input ∈ inputs, input.2.IsAbout credentials.accountId) :
    KeepsTo (TerminalSends setup.clientId credentials)
      (((machine setup).outputs (machine setup).init inputs).filterMap (·.tradingEnvelope)) := by
  have fresh : ((machine setup).init).Fresh setup := ⟨⟨rfl, rfl⟩, _, _, _, rfl⟩
  have later : ∀ (earlier more : List Envelope) (envelope : Envelope),
      TerminalSends setup.clientId credentials earlier envelope →
      TerminalSends setup.clientId credentials (earlier ++ more) envelope := by
    rintro earlier more envelope ⟨sender, hello | login | ⟨loggedIn, asks⟩⟩
    · exact ⟨sender, Or.inl hello⟩
    · exact ⟨sender, Or.inr (Or.inl login)⟩
    · exact ⟨sender, Or.inr (Or.inr ⟨List.mem_append_left more loggedIn, asks⟩)⟩
  have preserved : ∀ (flow : Flow) (sent : List FlowRequest) (input : FlowWorld × FlowInput),
      (flow.Scripted setup sent ∧ ∃ history, flow.Aware history) ∧
        KeepsTo (TerminalSends setup.clientId credentials)
          (sent.filterMap (·.tradingEnvelope)) →
      input.2.IsAbout credentials.accountId ∧ True →
      (((machine setup).next flow input).Scripted setup
          (sent ++ (machine setup).emits flow input) ∧
        ∃ history, ((machine setup).next flow input).Aware history) ∧
        KeepsTo (TerminalSends setup.clientId credentials)
          ((sent ++ (machine setup).emits flow input).filterMap (·.tradingEnvelope)) := by
    rintro flow sent ⟨world, input⟩ ⟨⟨scripted, history, aware⟩, kept⟩ ⟨about, -⟩
    have next := scripted_next setup flow sent (world, input) scripted
    rcases advanced_next world input scripted aware with ⟨awareNext, -, due⟩
    refine ⟨⟨next, _, awareNext⟩, ?_⟩
    rw [List.filterMap_append]
    apply kept.append later
    intro envelope member
    rcases List.mem_filterMap.mp member with ⟨request, emitted, own⟩
    exact terminalSends_of_due loaded scripted (followsSome_of_scripted next) emitted about
      (due request emitted) own
  have start : ((machine setup).init).Scripted setup [] := ⟨fresh, rfl⟩
  have every : (machine setup).Always (fun _ _ => True) (machine setup).init inputs :=
    (machine setup).always_of_forall (fun _ _ => trivial) _ inputs
  have run := (machine setup).outputs_of_always preserved
    ⟨⟨start, [], Or.inr (fresh.informed [])⟩, keepsTo_nil _⟩
    ((machine setup).always_and_of_mem about every)
  exact run.2

end Terminal

end Flow

/-! ## What the server accepts -/

section Server

variable {config : ServerConfig} {world : GatewayWorld} {state : ServerActorState}
variable {clientId : ClientId} {replyTo : EnvelopeTx}

/-- The configuration gives a client full access to an account. -/
def FullAccess (config : ServerConfig) (clientId : ClientId) (accountId : AccountId) : Prop :=
  ∃ entry, config.lastEntry clientId accountId = some entry ∧ entry.permission = .full

theorem permissionFor_of_fullAccess (guarded : Guarded config state) {accountId : AccountId}
    (access : FullAccess config clientId accountId) :
    state.sessions.permissionFor clientId accountId = some .full := by
  rcases access with ⟨entry, last, full⟩
  rw [guarded.rules, last, Option.map_some, full]

/-- A command passes both checks and is enqueued where the account's actor runs. -/
theorem sendChecked_ok (guarded : Guarded config state) {accountId : AccountId}
    (access : FullAccess config clientId accountId)
    (present : (state.tradeSessionOf accountId).isSome)
    (runs : world.closed accountId = false) {allows : ClientPermission → Bool}
    (allowed : allows .full = true) (mode operation : String) (command : TradeSessionCommand) :
    (state.sendChecked world (SessionManager.ensureMode allows mode state.sessions clientId
      accountId operation) accountId command).result = .ok () := by
  have passed : SessionManager.ensureMode allows mode state.sessions clientId accountId
      operation = .ok () := by
    rw [SessionManager.ensureMode_ok_iff]
    exact ⟨.full, permissionFor_of_fullAccess guarded access, allowed⟩
  rcases Option.isSome_iff_exists.mp present with ⟨actor, found⟩
  have own := guarded.handles accountId actor found
  simp only [ServerActorState.sendChecked, passed, ServerActorState.sendTradeCommand, found,
    own, runs, Bool.false_eq_true, if_false]

theorem ensureAccountAccess_ok (guarded : Guarded config state) {accountId : AccountId}
    (access : FullAccess config clientId accountId) (operation : String) :
    state.sessions.ensureAccountAccess clientId accountId operation = .ok () := by
  rw [SessionManager.ensureAccountAccess_ok_iff, permissionFor_of_fullAccess guarded access]
  rfl

/-- With full access every operation on an account whose actor runs succeeds, and so does the
login that starts the actor. -/
theorem perform_ok (guarded : Guarded config state) {call : AccountCall}
    (access : FullAccess config clientId call.accountId)
    (runs : world.closed call.accountId = false)
    (present : (state.tradeSessionOf call.accountId).isSome ∨
      ∃ credentials, call = .bindAccount credentials) :
    (state.perform world clientId replyTo call).result = .ok () := by
  cases call with
  | bindAccount credentials =>
      have passed := ensureAccountAccess_ok guarded access "account login"
      simp only [AccountCall.accountId] at passed
      simp only [ServerActorState.perform, ServerActorState.bindAccount, passed]
      split
      · rfl
      · split <;> rfl
  | placeOrder | cancelOrder | queryAccount | queryPosition | queryOrders | queryTrades
  | logoutAccount =>
      have started := present.resolve_right (by rintro ⟨credentials, same⟩; cases same)
      exact sendChecked_ok guarded access started runs rfl _ _ _

/-- A login leaves the account with an actor. -/
theorem tradeSessionOf_bindAccount (guarded : Guarded config state)
    {credentials : AccountCredentials}
    (access : FullAccess config clientId credentials.accountId) :
    ((state.perform world clientId replyTo (.bindAccount credentials)).state.tradeSessionOf
      credentials.accountId).isSome := by
  have passed := ensureAccountAccess_ok guarded access "account login"
  simp only [ServerActorState.perform, ServerActorState.bindAccount, passed]
  cases found : state.tradeSessionOf credentials.accountId with
  | none => simp [ServerActorState.tradeSessionOf]
  | some actor =>
      simp only
      split <;> exact Option.isSome_of_eq_some found

/-- No operation takes an account's actor away. -/
theorem tradeSessionOf_perform (call : AccountCall) {accountId : AccountId}
    (present : (state.tradeSessionOf accountId).isSome) :
    ((state.perform world clientId replyTo call).state.tradeSessionOf accountId).isSome := by
  by_cases own : accountId = call.accountId
  · subst own
    cases call with
    | bindAccount credentials =>
        simp only [ServerActorState.perform, ServerActorState.bindAccount]
        split
        · exact present
        · split
          · simp [ServerActorState.tradeSessionOf, AccountCall.accountId]
          · split <;> exact present
    | placeOrder | cancelOrder | queryAccount | queryPosition | queryOrders | queryTrades
    | logoutAccount =>
        simp only [ServerActorState.perform, ServerActorState.placeOrder,
          ServerActorState.cancelOrder, ServerActorState.queryAccount,
          ServerActorState.queryPosition, ServerActorState.queryOrders,
          ServerActorState.queryTrades, ServerActorState.logoutAccount, sendChecked_state]
        exact present
  · rw [tradeSessionOf_perform_of_ne state clientId replyTo own]
    exact present

/-- An envelope takes no actor away. -/
theorem tradeSessionOf_gatewayStep (input : GatewayInput) {accountId : AccountId}
    (present : (state.tradeSessionOf accountId).isSome) :
    ((gatewayStep state world input).1.tradeSessionOf accountId).isSome := by
  cases input with
  | envelope kind peer outbound envelope =>
      have handled := handleEnvelope_case world kind peer state outbound envelope
      simp only [gatewayStep]
      generalize (handleEnvelope world kind peer state outbound envelope).state = after
        at handled ⊢
      cases handled with
      | kept | registered | registeredMarketData | subscribed | unsubscribed => exact present
      | performed clientId call => exact tradeSessionOf_perform call present
  | disconnected clientId =>
      simp only [gatewayStep, Handled.publish_state]
      exact present
  | accountState => exact present

/-- With full access a terminal's envelope is answered without an error. -/
theorem no_error_of_terminalSends (guarded : Guarded config state)
    {credentials : AccountCredentials}
    (access : FullAccess config clientId credentials.accountId)
    (runs : world.closed credentials.accountId = false) {earlier : List Envelope}
    (present : ⟨some clientId, .accountLogin credentials⟩ ∈ earlier →
      (state.tradeSessionOf credentials.accountId).isSome)
    {envelope : Envelope} (sends : TerminalSends clientId credentials earlier envelope)
    (peer : String) (outbound channel : EnvelopeTx) (code : Int32) (text : String) :
    .send channel (.error code text) ∉
      (handleEnvelope world .trading peer state outbound envelope).effects := by
  have accepted : ∀ (call : AccountCall) (operation : String),
      envelope.payload.accountCall = some (call, operation) →
      (state.perform world clientId outbound call).result = .ok () →
      .send channel (.error code text) ∉
        (handleEnvelope world .trading peer state outbound envelope).effects := by
    intro call operation asks ok
    rw [handleEnvelope_accountCall peer state outbound asks, sends.1]
    simp only [handleAccountCall, ok]
    cases call with
    | bindAccount credentials =>
        simp only [accountAnswer, Handled.send]
        split <;> simp
    | _ => simp [accountAnswer]
  rcases sends with ⟨sender, hello | login | ⟨loggedIn, call, operation, asks, about⟩⟩
  · rcases envelope with ⟨_, payload⟩
    cases hello
    simp only [handleEnvelope, Handled.send]
    split <;> simp
  · apply accepted (.bindAccount credentials) "account login" (by rw [login]; rfl)
    exact perform_ok guarded access runs (Or.inr ⟨credentials, rfl⟩)
  · apply accepted call operation asks
    rw [← about] at access runs present
    exact perform_ok guarded access runs (Or.inl (present loggedIn))

end Server

/-! ## A terminal and its server -/

/-- The endpoint and the envelope of an input that arrives over a channel. -/
def SystemInput.arrival (channel : EnvelopeTx) :
    SystemInput → Option (TcpEndpointKind × Envelope)
  | .gateway _ (.envelope kind _ outbound envelope) =>
      if outbound = channel then some (kind, envelope) else none
  | _ => none

/-- The actor of an account runs. -/
def SystemInput.Runs (accountId : AccountId) : SystemInput → Prop
  | .gateway world _ => world.closed accountId = false
  | _ => True

theorem tradeSessionOf_act {system : ServerSystem} {accountId : AccountId}
    (present : (system.shared.tradeSessionOf accountId).isSome) (acting : AccountId)
    (surroundings : Surroundings) (inbox : List TradeSessionCommand) (taken : TradeInput) :
    ((system.act acting surroundings inbox taken).1.shared.tradeSessionOf accountId).isSome := by
  simp only [ServerSystem.act, ServerActorState.tradeSessionOf, (applyEffects_frame _ _).1]
  exact present

/-- Nothing takes an account's actor away. -/
theorem tradeSessionOf_systemNext {config : ServerConfig} {system : ServerSystem}
    {accountId : AccountId} (present : (system.shared.tradeSessionOf accountId).isSome)
    (input : SystemInput) :
    (((ServerSystem.machine config).next system input).shared.tradeSessionOf
      accountId).isSome := by
  cases input with
  | gateway world input => exact tradeSessionOf_gatewayStep input present
  | command acting surroundings =>
      simp only [Machine.next, ServerSystem.machine, ServerSystem.step]
      split
      · exact present
      · split
        · exact tradeSessionOf_act present _ _ _ _
        · exact present
  | event acting surroundings event => exact tradeSessionOf_act present _ _ _ _

/-- A server that has handled the login of the account over the channel has an actor for
it. -/
structure LoggedOn (config : ServerConfig) (clientId : ClientId)
    (credentials : AccountCredentials) (channel : EnvelopeTx) (system : ServerSystem)
    (history : List SystemInput) : Prop where
  guarded : Guarded config system.shared
  present : (.trading, ⟨some clientId, .accountLogin credentials⟩) ∈
      history.filterMap (·.arrival channel) →
    (system.shared.tradeSessionOf credentials.accountId).isSome

theorem loggedOn_next {config : ServerConfig} {clientId : ClientId}
    {credentials : AccountCredentials} {channel : EnvelopeTx} {system : ServerSystem}
    {history : List SystemInput}
    (access : FullAccess config clientId credentials.accountId)
    (before : LoggedOn config clientId credentials channel system history)
    (input : SystemInput) :
    LoggedOn config clientId credentials channel
      ((ServerSystem.machine config).next system input) (history ++ [input]) where
  guarded := guarded_systemNext before.guarded input
  present := by
    rw [List.filterMap_append]
    intro member
    rcases List.mem_append.mp member with earlier | now
    · exact tradeSessionOf_systemNext (before.present earlier) input
    · rcases List.mem_filterMap.mp now with ⟨same, own, arrives⟩
      rw [List.mem_singleton.mp own] at arrives
      cases input with
      | command | event => cases arrives
      | gateway world input =>
          cases input with
          | disconnected | accountState => cases arrives
          | envelope kind peer outbound envelope =>
              simp only [SystemInput.arrival, Option.ite_none_right_eq_some,
                Option.some.injEq, Prod.mk.injEq] at arrives
              rcases arrives with ⟨-, rfl, rfl⟩
              have handled := handleAccountCall_perform world credentials.accountId
                system.shared outbound clientId (.bindAccount credentials) "account login"
              simp only [Machine.next, ServerSystem.machine, ServerSystem.step, gatewayStep]
              rw [handleEnvelope_accountCall peer system.shared outbound rfl, handled.1]
              exact tradeSessionOf_bindAccount before.guarded access

section Sends

variable {world : GatewayWorld} {channel outbound : EnvelopeTx} {message : Message}

theorem outbound_of_handledSend {told : Message} {state : ServerActorState}
    {effects : List GatewayEffect} (silent : .send channel message ∉ effects)
    (sent : .send channel message ∈ (Handled.send world outbound told state effects).effects) :
    outbound = channel := by
  rw [Handled.send] at sent
  split at sent
  · rcases List.mem_append.mp sent with earlier | now
    · exact absurd earlier silent
    · rw [List.mem_singleton, GatewayEffect.send.injEq] at now
      exact now.1.symm
  · exact absurd sent silent

theorem not_send_publish {closed : Bool}
    {delta : ServerActorState × Option MarketDataSessionCommand} :
    .send channel message ∉ (Handled.publish closed delta).effects := by
  rw [Handled.publish]
  split
  · simp
  · split <;> simp

theorem outbound_of_handleAccountCall {state : ServerActorState} {sender : Option ClientId}
    {call : AccountCall} {operation : String}
    (sent : .send channel message ∈
      (handleAccountCall world state outbound sender call operation).effects) :
    outbound = channel := by
  cases sender with
  | none => exact outbound_of_handledSend List.not_mem_nil sent
  | some clientId =>
      simp only [handleAccountCall] at sent
      split at sent
      · simp at sent
      · exact outbound_of_handledSend (by simp) sent

/-- What is sent in handling an envelope is sent over its own channel. -/
theorem outbound_of_handleEnvelope {kind : TcpEndpointKind} {peer : String}
    {state : ServerActorState} {envelope : Envelope}
    (sent : .send channel message ∈
      (handleEnvelope world kind peer state outbound envelope).effects) :
    outbound = channel := by
  simp only [handleEnvelope] at sent
  split at sent
  · exact outbound_of_handledSend List.not_mem_nil sent
  · exact outbound_of_handledSend List.not_mem_nil sent
  · split at sent
    · exact outbound_of_handledSend List.not_mem_nil sent
    · exact absurd sent not_send_publish
  · split at sent
    · exact outbound_of_handledSend List.not_mem_nil sent
    · exact absurd sent not_send_publish
  · split at sent
    · exact outbound_of_handleAccountCall sent
    · exact outbound_of_handledSend List.not_mem_nil sent
  · exact outbound_of_handledSend List.not_mem_nil sent

end Sends

/-- Only an envelope is answered over a channel. -/
theorem gateway_of_send {config : ServerConfig} {system : ServerSystem} {input : SystemInput}
    {channel : EnvelopeTx} {message : Message}
    (sent : .gateway (.send channel message) ∈
      (ServerSystem.machine config).emits system input) :
    ∃ world kind peer envelope,
      input = .gateway world (.envelope kind peer channel envelope) ∧
        .send channel message ∈
          (handleEnvelope world kind peer system.shared channel envelope).effects := by
  cases input with
  | command accountId surroundings =>
      simp only [Machine.emits, ServerSystem.machine, ServerSystem.step] at sent
      split at sent
      · cases sent
      · split at sent
        · simp [ServerSystem.act] at sent
        · cases sent
  | event => simp [Machine.emits, ServerSystem.machine, ServerSystem.step, ServerSystem.act] at sent
  | gateway world input =>
      have answered : .send channel message ∈ (gatewayStep system.shared world input).2 := by
        simpa [Machine.emits, ServerSystem.machine, ServerSystem.step] using sent
      cases input with
      | accountState => cases answered
      | disconnected clientId => exact absurd answered not_send_publish
      | envelope kind peer outbound envelope =>
          have same := outbound_of_handleEnvelope answered
          subst same
          exact ⟨world, kind, peer, envelope, rfl, answered⟩

/-- A terminal whose account the configuration gives full access to is never refused: its
requests, handled in the order it sends them and with anything else in between, are answered
without an error by the gateway. -/
theorem terminal_never_refused (setup : FlowSetup) (credentials : AccountCredentials)
    (loaded : loadTradeCredentials setup.env = .ok credentials)
    (flowInputs : List (FlowWorld × FlowInput))
    (about : ∀ input ∈ flowInputs, input.2.IsAbout credentials.accountId)
    (config : ServerConfig) (access : FullAccess config setup.clientId credentials.accountId)
    (serverInputs : List SystemInput)
    (runs : ∀ input ∈ serverInputs, input.Runs credentials.accountId) (channel : EnvelopeTx)
    (delivered : serverInputs.filterMap (·.arrival channel) <+:
      (((Flow.machine setup).outputs (Flow.machine setup).init flowInputs).filterMap
        (·.tradingEnvelope)).map (Prod.mk .trading))
    (code : Int32) (text : String) :
    let server := ServerSystem.machine config
    .gateway (.send channel (.error code text)) ∉ server.outputs server.init serverInputs := by
  intro server sent
  have protocol := Flow.terminal_keepsTo loaded about
  rcases Machine.exists_of_mem_outputs sent with ⟨before, input, after, split, emitted⟩
  have start : LoggedOn config setup.clientId credentials channel server.init [] :=
    ⟨guarded_fromConfig config, by simp⟩
  have preserved : ∀ (system : ServerSystem) (history : List SystemInput) (input : SystemInput),
      LoggedOn config setup.clientId credentials channel system history →
      LoggedOn config setup.clientId credentials channel (server.next system input)
        (history ++ [input]) :=
    fun _ _ input logged => loggedOn_next access logged input
  have reached := server.invariant_inputs preserved start before
  rw [List.nil_append] at reached
  rcases gateway_of_send emitted with ⟨world, kind, peer, envelope, rfl, answered⟩
  have first : before.filterMap (·.arrival channel) ++ (kind, envelope) ::
      after.filterMap (·.arrival channel) <+: (((Flow.machine setup).outputs
        (Flow.machine setup).init flowInputs).filterMap (·.tradingEnvelope)).map
          (Prod.mk .trading) := by
    rw [split, List.filterMap_append, List.filterMap_cons_some] at delivered
    · exact delivered
    · exact if_pos rfl
  rcases first with ⟨rest, whole⟩
  rw [List.append_assoc, eq_comm, List.map_eq_append_iff] at whole
  rcases whole with ⟨earlier, later, sentBefore, arrivedBefore, arrivedNow⟩
  rw [List.cons_append, List.map_eq_cons_iff] at arrivedNow
  rcases arrivedNow with ⟨own, others, rfl, same, -⟩
  cases same
  have sends := protocol earlier envelope others sentBefore
  have running : world.closed credentials.accountId = false := by
    have member : .gateway world (.envelope .trading peer channel envelope) ∈ serverInputs := by
      rw [split]
      simp
    exact runs _ member
  refine no_error_of_terminalSends reached.guarded access running ?_ sends peer channel channel
    code text answered
  intro login
  apply reached.present
  rw [← arrivedBefore]
  exact List.mem_map_of_mem login

/-- The demo terminal up to its first query, with another client in between. -/
theorem terminal_never_refused_demo :
    let arrives channel clientId message := SystemInput.gateway .serving
      (.envelope .trading "" channel ⟨some clientId, message⟩)
    let server := ServerSystem.machine .sample
    .gateway (.send ⟨0⟩ (.error (-10) "")) ∉ server.outputs server.init
      [arrives ⟨0⟩ ⟨"CY"⟩ (.hello ⟨"CY"⟩),
        arrives ⟨0⟩ ⟨"CY"⟩ (.accountLogin
          ⟨⟨"1001"⟩, "secret", "9999", "simnow_client_test", "0000000000000000"⟩),
        arrives ⟨1⟩ ⟨"other"⟩ (.queryAccount ⟨"1001"⟩),
        arrives ⟨0⟩ ⟨"CY"⟩ (.queryAccount ⟨"1001"⟩)] :=
  terminal_never_refused Flow.demoSetup
    ⟨⟨"1001"⟩, "secret", "9999", "simnow_client_test", "0000000000000000"⟩ (by decide)
    [(.accepting 0, .start), (.accepting 0, .trading none), (.accepting 0, .marketData none),
      (.accepting 0, .trading (some ⟨none, .accountStateUpdate
        ⟨⟨"1001"⟩, .loggedIn, some 1, some 7, ⟨0⟩⟩⟩))]
    (by simp [FlowInput.IsAbout]) .sample ⟨⟨"CY", ["1001"], .full⟩, by decide, rfl⟩ _
    (by simp [SystemInput.Runs, GatewayWorld.serving]) ⟨0⟩ ⟨_, rfl⟩ (-10) ""

end CtpSystem
