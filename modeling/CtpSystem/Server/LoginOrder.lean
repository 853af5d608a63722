import CtpSystem.Server.AccountStates

/-!
# The order of account states

An `AccountLogin` is handled in two steps: `bind_account` enqueues the `Login` command
under the lock, and the gateway sends its own account state afterwards.  The account's
actor runs in between whenever it likes, so its updates may come first.
-/

namespace CtpSystem

open Reactive

/-- How far the command of a login has come. -/
inductive LoginProgress where
  /-- Nothing was enqueued. -/
  | refused
  /-- In the command channel, behind this many commands. -/
  | queued (ahead : Nat)
  /-- Taken by the actor, with the states it has sent for it, and whether the handler has
  returned. -/
  | taken (sent : List AccountState) (returned : Bool)
  deriving DecidableEq

/-- A login whose envelope the gateway is still to answer. -/
structure LoginTicket where
  accountId : AccountId
  replyTo : EnvelopeTx
  answer : Option Message
  progress : LoginProgress
  deriving DecidableEq

/-- The server, with the logins between the two steps of the gateway. -/
structure LoginServer where
  system : ServerSystem
  unanswered : List LoginTicket := []

/-- What happens next: the first or the second step of the gateway on a login, or
anything else. -/
inductive LoginInput where
  | bind (world : GatewayWorld) (clientId : ClientId) (credentials : AccountCredentials)
      (outbound : EnvelopeTx)
  | answer (number : Nat) (connected : Bool)
  | server (input : ServerInput)

/-- The account states among some effects that were sent on a channel. -/
def statesOn (replyTo : EnvelopeTx) (effects : List SystemEffect) : List AccountState :=
  effects.filterMap fun effect =>
    match effect with
    | .trade _ (.reply outbound (.accountStateUpdate state)) =>
        if outbound = replyTo then some state else none
    | _ => none

namespace LoginProgress

/-- The actor takes the next command of the channel. -/
def take (sent : List AccountState) (returned : Bool) : LoginProgress → LoginProgress
  | .queued 0 => .taken sent returned
  | .queued (ahead + 1) => .queued ahead
  | .taken earlier _ => .taken earlier true
  | .refused => .refused

/-- The handler of the command goes on. -/
def resume (sent : List AccountState) (returned : Bool) : LoginProgress → LoginProgress
  | .taken earlier false => .taken (earlier ++ sent) returned
  | progress => progress

/-- The states the actor has sent for the login. -/
def states : LoginProgress → List AccountState
  | .taken sent _ => sent
  | .refused | .queued _ => []

end LoginProgress

namespace LoginServer

/-- The account's actor takes a command now. -/
def TakesCommand (server : LoginServer) (accountId : AccountId) : Prop :=
  (server.system.tasks accountId).inbox ≠ [] ∧
    (server.system.tasks accountId).actor.takesCommand = true

instance (server : LoginServer) (accountId : AccountId) :
    Decidable (server.TakesCommand accountId) :=
  inferInstanceAs (Decidable (_ ∧ _))

/-- How far a login has come after a step of the server. -/
def progressOf (server : LoginServer) (next : ServerSystem × List SystemEffect)
    (ticket : LoginTicket) : ServerInput → LoginProgress
  | .command accountId _ =>
      if ticket.accountId = accountId ∧ server.TakesCommand accountId then
        ticket.progress.take (statesOn ticket.replyTo next.2)
          (next.1.tasks accountId).actor.driver.isNone
      else ticket.progress
  | .event accountId _ _ =>
      if ticket.accountId = accountId then
        ticket.progress.resume (statesOn ticket.replyTo next.2)
          (next.1.tasks accountId).actor.driver.isNone
      else ticket.progress
  | .envelope _ _ _ _ _ | .disconnected _ _ => ticket.progress

/-- The locked part of an `AccountLogin`. -/
def bind (server : LoginServer) (world : GatewayWorld) (clientId : ClientId)
    (credentials : AccountCredentials) (outbound : EnvelopeTx) :
    LoginServer × List SystemEffect :=
  let performed := server.system.shared.perform world clientId outbound
    (.bindAccount credentials)
  let effects := performed.enqueued.map fun sent => GatewayEffect.enqueue sent.1 sent.2
  let target := (performed.enqueued.head?.map (·.1)).getD credentials.accountId
  let ticket : LoginTicket :=
    { accountId := target
      replyTo := outbound
      answer := accountAnswer world server.system.shared (.bindAccount credentials)
        performed.result
      progress :=
        if performed.enqueued.isEmpty then .refused
        else .queued (server.system.tasks target).inbox.length }
  ({ system :=
      { shared := performed.state
        tasks := fun accountId =>
          { server.system.tasks accountId with
            inbox := (server.system.tasks accountId).inbox ++
              enqueuedFor accountId effects } }
     unanswered := server.unanswered ++ [ticket] },
    effects.map .gateway)

/-- One step of the server.  The actor takes a `Login` and sends its first state in one step,
where `connect` lies between the two in the source: what is left out are orders in which the
gateway answers in between, and so before the actor. -/
def step (server : LoginServer) : LoginInput → LoginServer × List SystemEffect
  | .bind world clientId credentials outbound =>
      server.bind world clientId credentials outbound
  | .answer number connected =>
      match server.unanswered[number]? with
      | none => (server, [])
      | some ticket =>
          ({ server with unanswered := server.unanswered.eraseIdx number },
            if connected then
              ticket.answer.toList.map fun message => .gateway (.send ticket.replyTo message)
            else [])
  | .server input =>
      let next := server.system.step input.toSystem
      ({ system := next.1
         unanswered := server.unanswered.map fun ticket =>
          { ticket with progress := server.progressOf next ticket input } }, next.2)

/-- A server with the given configuration and no login under way. -/
def machine (config : ServerConfig) : Machine LoginServer LoginInput SystemEffect where
  init := { system := ⟨.fromConfig config, fun _ => {}⟩ }
  step := step

end LoginServer

/-- The gateway's account state comes first: for a login the gateway has not answered,
the actor has sent none. -/
def AnswersFirst (server : LoginServer) : Prop :=
  ∀ ticket ∈ server.unanswered, ticket.progress.states = []

/-- The actor takes no login that the gateway has not answered. -/
def TakesAnswered (server : LoginServer) : LoginInput → Prop
  | .server (.command accountId _) =>
      server.TakesCommand accountId →
        ∀ ticket ∈ server.unanswered, ticket.accountId = accountId →
          ticket.progress ≠ .queued 0
  | .server (.envelope _ _ _ _ _) | .server (.disconnected _ _) | .server (.event _ _ _)
  | .bind _ _ _ _ | .answer _ _ => True

instance (server : LoginServer) : Decidable (AnswersFirst server) :=
  inferInstanceAs (Decidable (∀ ticket ∈ server.unanswered, ticket.progress.states = []))

instance (server : LoginServer) :
    (input : LoginInput) → Decidable (TakesAnswered server input)
  | .server (.command accountId _) =>
      inferInstanceAs (Decidable (server.TakesCommand accountId →
        ∀ ticket ∈ server.unanswered, ticket.accountId = accountId →
          ticket.progress ≠ .queued 0))
  | .server (.envelope _ _ _ _ _) | .server (.disconnected _ _) | .server (.event _ _ _)
  | .bind _ _ _ _ | .answer _ _ => inferInstanceAs (Decidable True)

/-- Answered at once, a login is handled as the gateway handles its envelope. -/
theorem bind_answer_eq (config : ServerConfig) (system : ServerSystem) (world : GatewayWorld)
    (peer : String) (clientId : ClientId) (credentials : AccountCredentials)
    (outbound : EnvelopeTx) :
    (LoginServer.machine config).runFrom ⟨system, []⟩
        [.bind world clientId credentials outbound, .answer 0 world.connected] =
      ⟨(system.step (.gateway world (.envelope .trading peer outbound
        ⟨some clientId, .accountLogin credentials⟩))).1, []⟩ ∧
    (LoginServer.machine config).outputs ⟨system, []⟩
        [.bind world clientId credentials outbound, .answer 0 world.connected] =
      (system.step (.gateway world (.envelope .trading peer outbound
        ⟨some clientId, .accountLogin credentials⟩))).2 := by
  let performed := system.shared.perform world clientId outbound (.bindAccount credentials)
  have answered : ∃ message, accountAnswer world system.shared (.bindAccount credentials)
      performed.result = some message := by
    cases performed.result with
    | error message => exact ⟨_, rfl⟩
    | ok _ => exact ⟨_, rfl⟩
  rcases answered with ⟨message, answered⟩
  have handled : handleEnvelope world .trading peer system.shared outbound
      ⟨some clientId, .accountLogin credentials⟩ =
        Handled.send world outbound message performed.state
          (performed.enqueued.map fun sent => .enqueue sent.1 sent.2) := by
    simp only [handleEnvelope, Message.accountCall, handleAccountCall]
    rw [answered]
  simp only [Machine.runFrom, Machine.next, Machine.outputs, Machine.emits,
    LoginServer.machine, LoginServer.step, LoginServer.bind, ServerSystem.step, gatewayStep,
    handled, Handled.send, List.nil_append, List.getElem?_cons_zero]
  cases world.connected with
  | false => simp [enqueuedFor, performed]
  | true => simpa [enqueuedFor, performed] using answered

/-! ## Tracking a login -/

/-- A queued login is where it is said to be in the channel, and a taken one has been
answered. -/
def LoginProgress.Tracks (inbox : List TradeSessionCommand) (replyTo : EnvelopeTx) :
    LoginProgress → Prop
  | .refused => True
  | .queued ahead => ∃ credentials, inbox[ahead]? = some (.login credentials replyTo)
  | .taken sent _ => sent ≠ []

/-- Every login under way is tracked. -/
def Tracked (server : LoginServer) : Prop :=
  ∀ ticket ∈ server.unanswered,
    ticket.progress.Tracks (server.system.tasks ticket.accountId).inbox ticket.replyTo

/-- What is appended to a channel moves nothing in it. -/
theorem tracks_append {inbox : List TradeSessionCommand} {replyTo : EnvelopeTx}
    {progress : LoginProgress} (tracks : progress.Tracks inbox replyTo)
    (added : List TradeSessionCommand) : progress.Tracks (inbox ++ added) replyTo := by
  cases progress with
  | refused | taken => exact tracks
  | queued ahead =>
      rcases tracks with ⟨credentials, present⟩
      have bound := (List.getElem?_eq_some_iff.mp present).1
      exact ⟨credentials, by rw [List.getElem?_append_left bound, present]⟩

/-- The actor answers a login as soon as it takes the command. -/
theorem login_answered (accountId : AccountId) (world : World) (actor : TradeActor)
    (credentials : AccountCredentials) (replyTo : EnvelopeTx) :
    ∃ state, .reply replyTo (.accountStateUpdate state) ∈
      (handleTradeCommand accountId world actor (.login credentials replyTo)).outputs := by
  rw [handleTradeCommand]
  cases loggedIn : actor.loggedInIds with
  | some ids => simp [handleLoggedInTradeCommand, loggedIn, sendAccountState]
  | none =>
      simp only [Option.isSome_none, Bool.false_eq_true, if_false,
        handleLoggedOutTradeCommand, driveTradeLogin, loggedIn]
      split <;> simp [reportLoginFailure, TradeActor.finish, TradeActor.waitIn,
        sendAccountState]

theorem mem_statesOn {replyTo : EnvelopeTx} {effects : List SystemEffect}
    {accountId : AccountId} {state : AccountState}
    (sent : .trade accountId (.reply replyTo (.accountStateUpdate state)) ∈ effects) :
    state ∈ statesOn replyTo effects := by
  apply List.mem_filterMap.mpr
  exact ⟨_, sent, if_pos rfl⟩

/-- An actor that takes a command removes it from its channel. -/
theorem step_takes {system : ServerSystem} {accountId : AccountId}
    {command : TradeSessionCommand} {rest : List TradeSessionCommand}
    (waiting : (system.tasks accountId).inbox = command :: rest)
    (takes : (system.tasks accountId).actor.takesCommand = true)
    (surroundings : Surroundings) :
    system.step (.command accountId surroundings) =
      system.act accountId surroundings rest (.command command) := by
  simp only [ServerSystem.step, waiting, takes, if_true]

/-- Where the actor takes no command, nothing happens. -/
theorem step_ignores {server : LoginServer} {accountId : AccountId}
    (ignores : ¬server.TakesCommand accountId) (surroundings : Surroundings) :
    server.system.step (.command accountId surroundings) = (server.system, []) := by
  simp only [ServerSystem.step]
  cases waiting : (server.system.tasks accountId).inbox with
  | nil => rfl
  | cons command rest =>
      simp only
      rw [if_neg]
      intro takes
      exact ignores ⟨by simp [waiting], takes⟩

/-- A taken login has been answered. -/
theorem statesOn_taken {system : ServerSystem} {accountId : AccountId}
    {credentials : AccountCredentials} {replyTo : EnvelopeTx}
    {rest : List TradeSessionCommand}
    (waiting : (system.tasks accountId).inbox = .login credentials replyTo :: rest)
    (takes : (system.tasks accountId).actor.takesCommand = true)
    (surroundings : Surroundings) :
    statesOn replyTo (system.step (.command accountId surroundings)).2 ≠ [] := by
  rw [TradeActor.takesCommand, Option.isNone_iff_eq_none] at takes
  rw [step_takes waiting (by rw [TradeActor.takesCommand, takes]; rfl)]
  rcases login_answered accountId { surroundings with shared := system.shared }
    (system.tasks accountId).actor credentials replyTo with ⟨state, sent⟩
  have emitted : .trade accountId (.reply replyTo (.accountStateUpdate state)) ∈
      (system.act accountId surroundings rest (.command (.login credentials replyTo))).2 := by
    apply List.mem_map.mpr
    refine ⟨_, ?_, rfl⟩
    simpa only [TradeActor.step, takes] using sent
  exact List.ne_nil_of_mem (mem_statesOn emitted)

/-- An account's actor changes no other channel. -/
theorem inbox_act (system : ServerSystem) (accountId queriedId : AccountId)
    (surroundings : Surroundings) (inbox : List TradeSessionCommand) (input : TradeInput) :
    ((system.act accountId surroundings inbox input).1.tasks queriedId).inbox =
      if queriedId = accountId then inbox else (system.tasks queriedId).inbox := by
  by_cases same : queriedId = accountId
  · rw [if_pos same, same]
    simp only [ServerSystem.act, Function.update_self]
  · rw [if_neg same]
    simp only [ServerSystem.act, Function.update_of_ne same]

/-- An event leaves every channel as it is. -/
theorem inbox_event (system : ServerSystem) (accountId queriedId : AccountId)
    (surroundings : Surroundings) (event : TradeSessionEvent) :
    ((system.step (.event accountId surroundings event)).1.tasks queriedId).inbox =
      (system.tasks queriedId).inbox := by
  rw [ServerSystem.step, inbox_act]
  split
  next same => rw [same]
  · rfl

/-- A login is still tracked after a step of the server. -/
theorem tracks_progressOf (server : LoginServer) (input : ServerInput) {ticket : LoginTicket}
    (tracks : ticket.progress.Tracks (server.system.tasks ticket.accountId).inbox
      ticket.replyTo) :
    (server.progressOf (server.system.step input.toSystem) ticket input).Tracks
      ((server.system.step input.toSystem).1.tasks ticket.accountId).inbox
      ticket.replyTo := by
  cases input with
  | envelope | disconnected => exact tracks_append tracks _
  | event accountId surroundings event =>
      rw [ServerInput.toSystem, inbox_event, LoginServer.progressOf]
      split
      · cases progress : ticket.progress with
        | refused => trivial
        | queued ahead =>
            rw [progress] at tracks
            exact tracks
        | taken sent returned =>
            rw [progress] at tracks
            cases returned with
            | true => exact tracks
            | false => exact List.append_ne_nil_of_left_ne_nil tracks _
      · exact tracks
  | command accountId surroundings =>
      rw [ServerInput.toSystem, LoginServer.progressOf]
      by_cases takes : server.TakesCommand accountId
      · rcases List.exists_cons_of_ne_nil takes.1 with ⟨command, rest, waiting⟩
        by_cases own : ticket.accountId = accountId
        · rw [if_pos ⟨own, takes⟩]
          rw [own, waiting] at tracks
          cases progress : ticket.progress with
          | refused => trivial
          | queued ahead =>
              rw [progress] at tracks
              rcases tracks with ⟨credentials, present⟩
              cases ahead with
              | zero =>
                  rw [List.getElem?_cons_zero, Option.some.injEq] at present
                  rw [present] at waiting
                  exact statesOn_taken waiting takes.2 surroundings
              | succ ahead =>
                  rw [List.getElem?_cons_succ] at present
                  refine ⟨credentials, ?_⟩
                  rw [step_takes waiting takes.2, inbox_act, if_pos own, present]
          | taken sent returned =>
              rw [progress] at tracks
              exact tracks
        · rw [if_neg (fun both => own both.1), step_takes waiting takes.2, inbox_act,
            if_neg own]
          exact tracks
      · rw [if_neg (fun both => takes both.2), step_ignores takes]
        exact tracks

/-- What a binding enqueues, it enqueues as the login it is for. -/
theorem enqueued_bindAccount (world : GatewayWorld) (state : ServerActorState)
    (clientId : ClientId) (credentials : AccountCredentials) (replyTo : EnvelopeTx) :
    (state.bindAccount world clientId credentials replyTo).enqueued = [] ∨
      ∃ accountId, (state.bindAccount world clientId credentials replyTo).enqueued =
        [(accountId, .login credentials replyTo)] := by
  rw [ServerActorState.bindAccount]
  split
  · exact Or.inl rfl
  · split
    · exact Or.inr ⟨_, rfl⟩
    · split
      · exact Or.inl rfl
      · exact Or.inr ⟨_, rfl⟩

/-- The login of a new ticket is tracked. -/
theorem tracked_bind {server : LoginServer} (tracked : Tracked server)
    (world : GatewayWorld) (clientId : ClientId) (credentials : AccountCredentials)
    (outbound : EnvelopeTx) :
    Tracked (server.bind world clientId credentials outbound).1 := by
  intro ticket member
  rcases List.mem_append.mp member with earlier | new
  · exact tracks_append (tracked ticket earlier) _
  · rw [List.mem_singleton] at new
    subst new
    have bound : server.system.shared.perform world clientId outbound
        (.bindAccount credentials) =
          server.system.shared.bindAccount world clientId credentials outbound := rfl
    simp only [LoginServer.bind, bound]
    rcases enqueued_bindAccount world server.system.shared clientId credentials outbound with
      nothing | ⟨accountId, enqueued⟩
    · rw [nothing]
      trivial
    · rw [enqueued]
      exact ⟨credentials, by simp [enqueuedFor]⟩

/-- Every step keeps the logins tracked. -/
theorem tracked_next (config : ServerConfig) (server : LoginServer) (input : LoginInput)
    (tracked : Tracked server) : Tracked ((LoginServer.machine config).next server input) := by
  cases input with
  | bind world clientId credentials outbound =>
      exact tracked_bind tracked world clientId credentials outbound
  | answer number connected =>
      simp only [Machine.next, LoginServer.machine, LoginServer.step]
      split
      · exact tracked
      · intro ticket member
        exact tracked ticket (List.mem_of_mem_eraseIdx member)
  | server input =>
      intro ticket member
      rcases List.mem_map.mp member with ⟨earlier, present, rfl⟩
      exact tracks_progressOf server input (tracked earlier present)

/-! ## Every run -/

/-- A tracked login for which no state was sent was not taken. -/
theorem not_taken {inbox : List TradeSessionCommand} {replyTo : EnvelopeTx}
    {progress : LoginProgress} (tracks : progress.Tracks inbox replyTo)
    (silent : progress.states = []) (sent : List AccountState) (returned : Bool) :
    progress ≠ .taken sent returned := by
  rintro rfl
  exact tracks silent

/-- Taking a command answers exactly the login at the head of the channel. -/
theorem states_take_iff {progress : LoginProgress} {sent : List AccountState}
    {returned : Bool} (silent : progress.states = [])
    (answered : progress = .queued 0 → sent ≠ []) :
    (progress.take sent returned).states = [] ↔ progress ≠ .queued 0 := by
  cases progress with
  | refused => exact iff_of_true rfl (by intro equal; cases equal)
  | queued ahead =>
      cases ahead with
      | zero => exact iff_of_false (answered rfl) (fun other => other rfl)
      | succ ahead => exact iff_of_true rfl (by intro equal; cases equal)
  | taken earlier returned => exact iff_of_true silent (by intro equal; cases equal)

/-- One step leaves the gateway's states first exactly when the actor takes no login the
gateway has not answered. -/
theorem answersFirst_next_iff (config : ServerConfig) (server : LoginServer)
    (input : LoginInput) (tracked : Tracked server) (first : AnswersFirst server) :
    AnswersFirst ((LoginServer.machine config).next server input) ↔
      TakesAnswered server input := by
  cases input with
  | bind world clientId credentials outbound =>
      apply iff_of_true _ trivial
      intro ticket member
      rcases List.mem_append.mp member with earlier | new
      · exact first ticket earlier
      · rw [List.mem_singleton] at new
        subst new
        simp only
        split <;> rfl
  | answer number connected =>
      apply iff_of_true _ trivial
      simp only [Machine.next, LoginServer.machine, LoginServer.step]
      split
      · exact first
      · intro ticket member
        exact first ticket (List.mem_of_mem_eraseIdx member)
  | server input =>
      have followed : AnswersFirst ((LoginServer.machine config).next server (.server input)) ↔
          ∀ ticket ∈ server.unanswered,
            (server.progressOf (server.system.step input.toSystem) ticket input).states = [] :=
        List.forall_mem_map
      rw [followed]
      cases input with
      | envelope | disconnected => exact iff_of_true first trivial
      | event accountId surroundings event =>
          apply iff_of_true _ trivial
          intro ticket member
          have untaken := not_taken (tracked ticket member) (first ticket member)
          rw [LoginServer.progressOf]
          split
          · cases progress : ticket.progress with
            | refused | queued => rfl
            | taken sent returned => exact absurd progress (untaken sent returned)
          · exact first ticket member
      | command accountId surroundings =>
          simp only [TakesAnswered, LoginServer.progressOf]
          by_cases takes : server.TakesCommand accountId
          · simp only [takes, and_true, true_implies]
            apply forall₂_congr
            intro ticket member
            by_cases own : ticket.accountId = accountId
            · rw [if_pos own, states_take_iff (first ticket member)]
              · simp [own]
              · intro head
                have tracks := tracked ticket member
                rw [head, own] at tracks
                rcases tracks with ⟨credentials, present⟩
                rcases List.exists_cons_of_ne_nil takes.1 with ⟨command, rest, waiting⟩
                rw [waiting, List.getElem?_cons_zero, Option.some.injEq] at present
                rw [present] at waiting
                exact statesOn_taken waiting takes.2 surroundings
            · rw [if_neg own]
              simp [own, first ticket member]
          · simp only [takes, and_false, if_false, false_implies, iff_true]
            exact first

/-- In exactly the runs in which the actor takes no login before the gateway has answered
it, the gateway's account state is sent before every state the actor sends for the login. -/
theorem answersFirst_iff_takesAnswered (config : ServerConfig) (inputs : List LoginInput) :
    (LoginServer.machine config).Throughout AnswersFirst (LoginServer.machine config).init
        inputs ↔
      (LoginServer.machine config).Always TakesAnswered (LoginServer.machine config).init
        inputs := by
  apply (LoginServer.machine config).throughout_iff_always (tracked_next config)
    (answersFirst_next_iff config)
  · intro ticket member
    cases member
  · intro ticket member
    cases member

/-- A second login of a logged-in account, answered by the actor before the gateway. -/
def LoginInput.overtaken : List LoginInput :=
  let credentials : AccountCredentials := ⟨⟨"1001"⟩, "secret", "9999", "app", "code"⟩
  [.bind .serving ⟨"CY"⟩ credentials ⟨1⟩, .answer 0 true,
    .server (.command ⟨"1001"⟩ .accepting)] ++
    [TradeSessionEvent.frontConnected, .authenticateOk, .loginOk "20260101" 1 7,
      .settlementConfirmed].map (fun event => .server (.event ⟨"1001"⟩ .accepting event)) ++
    [.bind .serving ⟨"CY"⟩ credentials ⟨1⟩, .server (.command ⟨"1001"⟩ .accepting),
      .answer 0 true]

/-- The client is told `LoggedIn` first and `Connecting` last. -/
theorem overtaken_answered_last :
    ¬(LoginServer.machine .sample).Throughout AnswersFirst (LoginServer.machine .sample).init
        LoginInput.overtaken ∧
      ((LoginServer.machine .sample).outputs (LoginServer.machine .sample).init
        LoginInput.overtaken).getLast? =
          some (.gateway (.send ⟨1⟩ (.accountStateUpdate
            (accountState GatewayWorld.serving.clock ⟨"1001"⟩ .connecting)))) := by
  decide

end CtpSystem
