import CtpSystem.Server.System
import CtpSystem.Trade.Replies

/-!
# Replies go to those who asked

Between the envelope that asked for something and the answer lie the command channel of
the account and, for a query or a login, any number of events.  What is answered in the end
is still that envelope, on its own connection, to a client that may see the answer.
-/

namespace CtpSystem

open Reactive

/-- The command was asked for by an envelope of the run: it came over a trading connection,
from a client whose last configured entry for the account permits it. -/
def Asked (config : ServerConfig) (history : List SystemInput) (accountId : AccountId)
    (command : TradeSessionCommand) : Prop :=
  ∃ world peer outbound envelope clientId call operation entry,
    .gateway world (.envelope .trading peer outbound envelope) ∈ history ∧
      envelope.clientId = some clientId ∧
      envelope.payload.accountCall = some (call, operation) ∧
      call.accountId = accountId ∧ command = call.command clientId outbound ∧
      config.lastEntry clientId accountId = some entry ∧
      command.allowedBy entry.permission = true

theorem Asked.isFor {config : ServerConfig} {history : List SystemInput}
    {accountId : AccountId} {command : TradeSessionCommand}
    (asked : Asked config history accountId command) : command.IsFor accountId := by
  rcases asked with ⟨-, -, -, -, clientId, call, -, -, -, -, -, about, rfl, -, -⟩
  cases call with
  | logoutAccount => trivial
  | _ => exact about

theorem Asked.mono {config : ServerConfig} {history : List SystemInput}
    {accountId : AccountId} {command : TradeSessionCommand}
    (asked : Asked config history accountId command) (input : SystemInput) :
    Asked config (history ++ [input]) accountId command := by
  rcases asked with ⟨world, peer, outbound, envelope, clientId, call, operation, entry, came,
    rest⟩
  exact ⟨world, peer, outbound, envelope, clientId, call, operation, entry,
    List.mem_append_left _ came, rest⟩

/-- What holds after every run: every command on its way and every command an actor is
suspended in was asked for. -/
structure AllAsked (config : ServerConfig) (system : ServerSystem)
    (history : List SystemInput) : Prop where
  guarded : Guarded config system.shared
  inboxes : ∀ accountId, ∀ command ∈ (system.tasks accountId).inbox,
    Asked config history accountId command
  drivers : ∀ accountId driver, (system.tasks accountId).actor.driver = some driver →
    ∃ command, driver.Serves command ∧ Asked config history accountId command

/-- Only the trading endpoint enqueues commands. -/
theorem enqueue_notMem_marketData {world : GatewayWorld} {peer : String}
    {state : ServerActorState} {outbound : EnvelopeTx} {envelope : Envelope}
    {accountId : AccountId} {command : TradeSessionCommand} :
    .enqueue accountId command ∉
      (handleEnvelope world .marketData peer state outbound envelope).effects := by
  intro enqueued
  simp only [handleEnvelope] at enqueued
  split at enqueued
  next same _ => cases same
  · simp [enqueue_mem_send] at enqueued
  · split at enqueued
    · simp [enqueue_mem_send] at enqueued
    · exact enqueue_mem_publish enqueued
  · split at enqueued
    · simp [enqueue_mem_send] at enqueued
    · exact enqueue_mem_publish enqueued
  next same _ => cases same
  · simp [enqueue_mem_send] at enqueued

/-- What the gateway enqueues was asked for. -/
theorem asked_enqueuedFor {config : ServerConfig} {state : ServerActorState}
    (guarded : Guarded config state) (history : List SystemInput) (world : GatewayWorld)
    (input : GatewayInput) (accountId : AccountId) :
    ∀ command ∈ enqueuedFor accountId (gatewayStep state world input).2,
      Asked config (history ++ [.gateway world input]) accountId command := by
  intro command member
  rcases List.mem_filterMap.mp member with ⟨effect, emitted, addressed⟩
  cases effect with
  | publish | send => simp at addressed
  | enqueue target enqueued =>
      simp only [Option.ite_none_right_eq_some, Option.some.injEq] at addressed
      rcases addressed with ⟨rfl, rfl⟩
      cases input with
      | accountState => simp [gatewayStep] at emitted
      | disconnected => exact absurd emitted enqueue_mem_publish
      | envelope kind peer outbound envelope =>
          cases kind with
          | marketData => exact absurd emitted enqueue_notMem_marketData
          | trading =>
              rcases enqueued_of_handleEnvelope guarded emitted with
                ⟨clientId, call, operation, sender, asks, about, performed, entry, last, covered⟩
              exact ⟨world, peer, outbound, envelope, clientId, call, operation, entry,
                List.mem_append_right _ (List.mem_singleton_self _), sender, asks, about.symm,
                performed, last, covered⟩

/-- An actor that takes an input keeps everything asked for. -/
theorem allAsked_act {config : ServerConfig} {system : ServerSystem}
    {history : List SystemInput} (asked : AllAsked config system history)
    (input : SystemInput) {accountId : AccountId} (surroundings : Surroundings)
    {inbox : List TradeSessionCommand} {taken : TradeInput}
    (remaining : ∀ command ∈ inbox, Asked config history accountId command)
    (known : ∀ command, taken = .command command → Asked config history accountId command) :
    AllAsked config (system.act accountId surroundings inbox taken).1 (history ++ [input]) := by
  refine ⟨guarded_applyEffects asked.guarded _, ?_, ?_⟩
  · intro queried command member
    by_cases same : queried = accountId
    · subst same
      simp only [ServerSystem.act, Function.update_self] at member
      exact (remaining command member).mono input
    · simp only [ServerSystem.act, Function.update_of_ne same] at member
      exact (asked.inboxes queried command member).mono input
  · intro queried driver suspended
    by_cases same : queried = accountId
    · subst same
      simp only [ServerSystem.act, Function.update_self] at suspended
      rcases serves_next queried _ _ taken suspended with
        ⟨command, rfl, serves⟩ | ⟨earlier, waiting, serves⟩
      · exact ⟨command, serves, (known command rfl).mono input⟩
      · rcases asked.drivers queried earlier waiting with ⟨command, served, came⟩
        exact ⟨command, serves command served, came.mono input⟩
    · simp only [ServerSystem.act, Function.update_of_ne same] at suspended
      rcases asked.drivers queried driver suspended with ⟨command, served, came⟩
      exact ⟨command, served, came.mono input⟩

theorem allAsked_fromConfig (config : ServerConfig) :
    AllAsked config (ServerSystem.machine config).init [] := by
  refine ⟨guarded_fromConfig config, ?_, ?_⟩
  · intro accountId command member
    cases member
  · intro accountId driver suspended
    cases suspended

/-- Every step keeps everything asked for. -/
theorem allAsked_next (config : ServerConfig) (system : ServerSystem)
    (history : List SystemInput) (input : SystemInput)
    (asked : AllAsked config system history) :
    AllAsked config ((ServerSystem.machine config).next system input)
      (history ++ [input]) := by
  have unchanged : AllAsked config system (history ++ [input]) := by
    refine ⟨asked.guarded, ?_, ?_⟩
    · intro accountId command member
      exact (asked.inboxes accountId command member).mono input
    · intro accountId driver suspended
      rcases asked.drivers accountId driver suspended with ⟨command, served, came⟩
      exact ⟨command, served, came.mono input⟩
  cases input with
  | gateway world input =>
      refine ⟨guarded_next config system.shared (world, input) asked.guarded, ?_,
        unchanged.drivers⟩
      intro accountId command member
      rcases List.mem_append.mp member with queued | added
      · exact unchanged.inboxes accountId command queued
      · exact asked_enqueuedFor asked.guarded history world input accountId command added
  | command accountId surroundings =>
      simp only [Machine.next, ServerSystem.machine, ServerSystem.step]
      split
      · exact unchanged
      next command rest waiting =>
        have whole := asked.inboxes accountId
        rw [waiting] at whole
        split
        · apply allAsked_act asked
          · intro other member
            exact whole other (List.mem_cons_of_mem command member)
          · intro taken same
            cases same
            exact whole command List.mem_cons_self
        · exact unchanged
  | event accountId surroundings event =>
      apply allAsked_act asked _ _ (asked.inboxes accountId)
      intro command same
      cases same

/-- In a system where everything was asked for, a reply answers a command asked for. -/
theorem asked_of_replied {config : ServerConfig} {system : ServerSystem}
    {history : List SystemInput} (asked : AllAsked config system history)
    {input : SystemInput} {accountId : AccountId} {replyTo : EnvelopeTx} {message : Message}
    (replied : .trade accountId (.reply replyTo message) ∈
      (ServerSystem.machine config).emits system input) :
    ∃ command, Asked config history accountId command ∧
      command.Answers accountId (.reply replyTo message) := by
  have acted {actingId : AccountId} {surroundings : Surroundings}
      {inbox : List TradeSessionCommand} {taken : TradeInput}
      (emitted : .trade accountId (.reply replyTo message) ∈
        (system.act actingId surroundings inbox taken).2) :
      accountId = actingId ∧ .reply replyTo message ∈
        (TradeActor.machine actingId).emits (system.tasks actingId).actor
          ({ surroundings with shared := system.shared }, taken) := by
    rcases List.mem_map.mp emitted with ⟨effect, own, equal⟩
    rw [SystemEffect.trade.injEq] at equal
    rcases equal with ⟨rfl, rfl⟩
    exact ⟨rfl, own⟩
  cases input with
  | gateway world input =>
      rcases List.mem_map.mp replied with ⟨effect, -, equal⟩
      simp at equal
  | command actingId surroundings =>
      simp only [Machine.emits, ServerSystem.machine, ServerSystem.step] at replied
      split at replied
      · cases replied
      next command rest waiting =>
        split at replied
        · rcases acted replied with ⟨rfl, emitted⟩
          have came : Asked config history accountId command := by
            apply asked.inboxes
            rw [waiting]
            exact List.mem_cons_self
          exact ⟨command, came, answers_command accountId _ _ came.isFor _ emitted⟩
        · cases replied
  | event actingId surroundings event =>
      rcases acted replied with ⟨rfl, emitted⟩
      rcases answers_event accountId _ _ event emitted with unreplied | ⟨driver, waiting, answers⟩
      · exact absurd rfl (unreplied replyTo message)
      · rcases asked.drivers accountId driver waiting with ⟨command, served, came⟩
        exact ⟨command, came, answers command served came.isFor⟩

/-- In every run, a reply of an account's actor answers an envelope that came before over
the connection the reply is sent to: it asked for something on that account that is answered
so, and came from a client whose last configured entry for the account permits it. -/
theorem replies_answer_requests (config : ServerConfig) (inputs : List SystemInput)
    {input : SystemInput} {accountId : AccountId} {replyTo : EnvelopeTx} {message : Message}
    (replied : .trade accountId (.reply replyTo message) ∈
      (ServerSystem.machine config).emits
        ((ServerSystem.machine config).runFrom (ServerSystem.machine config).init inputs)
        input) :
    ∃ world peer envelope clientId call operation entry,
      .gateway world (.envelope .trading peer replyTo envelope) ∈ inputs ∧
        envelope.clientId = some clientId ∧
        envelope.payload.accountCall = some (call, operation) ∧
        call.accountId = accountId ∧
        (call.command clientId replyTo).answeredWith accountId message = true ∧
        config.lastEntry clientId accountId = some entry ∧
        (call.command clientId replyTo).allowedBy entry.permission = true := by
  have asked := (ServerSystem.machine config).invariant_inputs (allAsked_next config)
    (allAsked_fromConfig config) inputs
  rw [List.nil_append] at asked
  rcases asked_of_replied asked replied with ⟨command, came, sameChannel, answered⟩
  rcases came with ⟨world, peer, outbound, envelope, clientId, call, operation, entry, came,
    sender, asks, about, rfl, last, covered⟩
  have own : (call.command clientId outbound).replyTo = outbound := by cases call <;> rfl
  rw [own] at sameChannel
  subst sameChannel
  exact ⟨world, peer, envelope, clientId, call, operation, entry, came, sender, asks, about,
    answered, last, covered⟩

/-- A client logs into its account over the third connection. -/
def SystemInput.loggingIn : List SystemInput :=
  [.gateway ⟨⟨⟨0⟩, fun _ => none⟩, fun _ => false, false, true⟩
    (.envelope .trading "10.0.0.1:9" ⟨3⟩
      ⟨some ⟨"CY"⟩, .accountLogin ⟨⟨"1001"⟩, "", "9999", "", ""⟩⟩)]

theorem replies_answer_requests_loggingIn :
    ∃ world peer envelope clientId call operation entry,
      .gateway world (.envelope .trading peer ⟨3⟩ envelope) ∈ SystemInput.loggingIn ∧
        envelope.clientId = some clientId ∧
        envelope.payload.accountCall = some (call, operation) ∧
        call.accountId = ⟨"1001"⟩ ∧
        (call.command clientId ⟨3⟩).answeredWith ⟨"1001"⟩
          (.accountStateUpdate ⟨⟨"1001"⟩, .connecting, none, none, ⟨0⟩⟩) = true ∧
        (ServerConfig.mk [⟨"CY", ["1001"], .queryOnly⟩]).lastEntry clientId ⟨"1001"⟩ =
          some entry ∧
        (call.command clientId ⟨3⟩).allowedBy entry.permission = true :=
  @replies_answer_requests ⟨[⟨"CY", ["1001"], .queryOnly⟩]⟩ SystemInput.loggingIn
    (.command ⟨"1001"⟩ ⟨⟨⟨0⟩, fun _ => none⟩, 0, .ok ()⟩) _ _ _ (by decide)

end CtpSystem
