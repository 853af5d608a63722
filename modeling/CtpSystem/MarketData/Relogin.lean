import Mathlib.Data.Finset.Lattice.Lemmas
import CtpSystem.MarketData.Dispatch

/-!
# Subscriptions after a re-login

A front disconnection discards the subscriptions of the session.  The loop of the task
resubscribes the whole table on the next login, but the wait inside a command handler
only performs its command.  The table is restored as long as, whenever that wait sees
the login, nothing of the table is missing from the commands still to be performed.
-/

namespace CtpSystem

open Reactive

/-! ## What was passed to `subscribe` -/

/-- The instruments a command subscribes. -/
def MarketDataSessionCommand.subscribed : MarketDataSessionCommand → List String
  | .subscribe instruments => instruments.map (·.asStr)
  | .unsubscribe _ => []

/-- The instruments an effect passes to `subscribe`. -/
def MdEffect.subscribed : MdEffect → List String
  | .request (.subscribeMarketData instruments) _ => instruments
  | _ => []

/-- The actor is told that it is logged in. -/
def MarketDataInput.isLogin : MarketDataInput → Bool
  | .event _ (.loginOk _) => true
  | _ => false

/-- The instruments passed to `subscribe` since the last login, after one more input: a
login starts over. -/
def passedAfter (passed : Finset String) (system : MarketDataSystem)
    (input : MarketDataInput) : Finset String :=
  (if input.isLogin then ∅ else passed) ∪
    ((system.step input).2.flatMap MdEffect.subscribed).toFinset

theorem passedAfter_of_silent {system : MarketDataSystem} {input : MarketDataInput}
    (passed : Finset String) (other : input.isLogin = false)
    (silent : (system.step input).2 = []) : passedAfter passed system input = passed := by
  rw [passedAfter, other, silent]
  exact Finset.union_empty passed

/-- The market-data side, with the instruments passed since the last login. -/
def watchSubscribes : Machine (MarketDataSystem × Finset String) MarketDataInput MdEffect :=
  MarketDataSystem.machine.observe ∅ passedAfter

theorem watchSubscribes_next (system : MarketDataSystem) (passed : Finset String)
    (input : MarketDataInput) :
    watchSubscribes.next (system, passed) input =
      ((system.step input).1, passedAfter passed system input) := rfl

/-- The idle, logged-in actor has passed the whole table to `subscribe` since the login,
once nothing is on its way. -/
def Restored (watched : MarketDataSystem × Finset String) : Prop :=
  watched.1.actor.waiting = none → watched.1.actor.loggedIn = true → Quiescent watched.1 →
    keySet watched.1.shared.marketDataSubscriptions ⊆ watched.2

/-- Every instrument of the table is among those passed or is named by one of the
commands. -/
def CoveredBy (commands : List MarketDataSessionCommand) (table : SubscriptionTable)
    (passed : Finset String) : Prop :=
  ∀ key ∈ keySet table, key ∈ passed ∨ ∃ command ∈ commands, key ∈ command.subscribed

/-- A login seen by the wait of a command handler: that command and those on their way
subscribe the whole table. -/
def LoginCovers (watched : MarketDataSystem × Finset String) : MarketDataInput → Prop
  | .event _ (.loginOk _) =>
      ∀ command ∈ watched.1.actor.waiting,
        CoveredBy (command :: (watched.1.channel ++ watched.1.pending))
          watched.1.shared.marketDataSubscriptions ∅
  | _ => True

/-! ## The invariant -/

/-- An actor that waits for a login or has no session is not logged in, and its session
is connected. -/
structure MdActor.Sound (actor : MdActor) : Prop where
  connected : ∀ session ∈ actor.session, session.client = true
  waits : actor.waiting ≠ none → actor.session ≠ none ∧ actor.loggedIn = false
  fresh : actor.session = none → actor.loggedIn = false

/-- What carries the restoration along a run. -/
structure Restores (watched : MarketDataSystem × Finset String) : Prop where
  sound : watched.1.actor.Sound
  ready : TableReady watched.1.shared
  covered : watched.1.actor.loggedIn = true →
    CoveredBy (watched.1.channel ++ watched.1.pending)
      watched.1.shared.marketDataSubscriptions watched.2

theorem CoveredBy.mono {commands more : List MarketDataSessionCommand}
    {table : SubscriptionTable} {passed later : Finset String}
    (covered : CoveredBy commands table passed)
    (kept : ∀ command ∈ commands, ∀ key ∈ command.subscribed,
      key ∈ later ∨ ∃ command ∈ more, key ∈ command.subscribed)
    (grown : passed ⊆ later) : CoveredBy more table later := by
  intro key member
  rcases covered key member with before | ⟨command, present, subscribed⟩
  · exact Or.inl (grown before)
  · exact kept command present key subscribed

/-- A decision leaves the table covered: what is new in it is what the delta subscribes. -/
theorem CoveredBy.decide {commands : List MarketDataSessionCommand}
    {before after : SubscriptionTable} {delta : Option MarketDataSessionCommand}
    {passed : Finset String} (covered : CoveredBy commands before passed)
    (rightly : DecidesRightly before after delta) :
    CoveredBy (commands ++ delta.toList) after passed := by
  intro key member
  rw [DecidesRightly] at rightly
  rw [rightly] at member
  have old : key ∈ keySet before →
      key ∈ passed ∨ ∃ command ∈ commands ++ delta.toList, key ∈ command.subscribed := by
    intro present
    rcases covered key present with done | ⟨command, queued, subscribed⟩
    · exact Or.inl done
    · exact Or.inr ⟨command, List.mem_append_left _ queued, subscribed⟩
  cases delta with
  | none => exact old member
  | some command =>
      cases command with
      | unsubscribe instruments => exact old (Finset.mem_sdiff.mp member).1
      | subscribe instruments =>
          rcases Finset.mem_union.mp member with present | new
          · exact old present
          · refine Or.inr ⟨.subscribe instruments, ?_, List.mem_toFinset.mp new⟩
            exact List.mem_append_right _ List.mem_cons_self

/-! ## Steps of the actor -/

/-- What a connected session passes to `subscribe` for a command. -/
theorem subscribed_performCommand {session : MdSession} (connected : session.client = true)
    (rc : Int32) (command : MarketDataSessionCommand) :
    (mdRequested (performCommand session rc command)).flatMap MdEffect.subscribed =
      command.subscribed := by
  cases command <;>
    simp only [performCommand, MdSession.subscribe, MdSession.unsubscribe,
      mdRequested_request connected, List.flatMap_cons, List.flatMap_nil, List.append_nil,
      MdEffect.subscribed, MarketDataSessionCommand.subscribed]

/-- What a connected session passes to `subscribe` after a login seen by the loop. -/
theorem subscribed_resubscribeMarketData {session : MdSession}
    (connected : session.client = true) (surroundings : MdSurroundings)
    (shared : ServerActorState) :
    ((MdActor.resubscribeMarketData surroundings shared session).flatMap
      MdEffect.subscribed).toFinset = keySet shared.marketDataSubscriptions := by
  have names : shared.currentMarketDataSubscriptions.map (·.asStr) =
      shared.marketDataSubscriptions.keys := by
    simp only [ServerActorState.currentMarketDataSubscriptions, List.map_map,
      Function.comp_def, List.map_id']
  simp only [MdActor.resubscribeMarketData, names, MdSession.subscribe,
    mdRequested_request connected, keySet]
  split
  next nothing =>
    rw [← names, nothing]
    rfl
  · simp only [List.flatMap_cons, List.flatMap_nil, List.append_nil, MdEffect.subscribed]

theorem connect_client {created session : MdSession} {surroundings : MdSurroundings}
    (accepted : created.connect surroundings = .ok session) : session.client = true := by
  rw [MdSession.connect] at accepted
  split at accepted
  · cases accepted
  · cases accepted
    rfl

/-- A command changes the actor in one of three ways: the session could not be created,
its handler waits for the login, or it is performed. -/
theorem command_case {actor : MdActor} (sound : actor.Sound) (surroundings : MdSurroundings)
    (command : MarketDataSessionCommand) :
    (actor.loggedIn = false ∧ actor.command surroundings command = (actor, [])) ∨
    (actor.loggedIn = false ∧ ∃ session : MdSession, session.client = true ∧
      actor.command surroundings command =
        ({ actor with session := some session, waiting := some command }, [])) ∨
    (actor.loggedIn = true ∧ ∃ session : MdSession, session.client = true ∧
      actor.command surroundings command =
        (actor, mdRequested (performCommand session surroundings.rc command))) := by
  rcases actor with ⟨session, loggedIn, waiting⟩
  cases session with
  | none =>
      have loggedOut : loggedIn = false := sound.fresh rfl
      subst loggedOut
      cases creation : createMdSession surroundings with
      | error message =>
          left
          exact ⟨rfl, by simp only [MdActor.command, creation]⟩
      | ok created =>
          cases connection : created.connect surroundings with
          | error message =>
              left
              exact ⟨rfl, by simp only [MdActor.command, creation, connection]⟩
          | ok session =>
              right
              left
              refine ⟨rfl, session, connect_client connection, ?_⟩
              simp only [MdActor.command, creation, connection]
              rfl
  | some session =>
      have connected : session.client = true := sound.connected session rfl
      cases loggedIn with
      | false =>
          right
          left
          exact ⟨rfl, session, connected, rfl⟩
      | true =>
          right
          right
          exact ⟨rfl, session, connected, rfl⟩

/-- An actor with a connected session that waits for nothing is sound. -/
theorem sound_idle {session : MdSession} (connected : session.client = true)
    (loggedIn : Bool) : MdActor.Sound ⟨some session, loggedIn, none⟩ where
  connected := by
    intro other equal
    cases equal
    exact connected
  waits := by
    intro waits
    exact absurd rfl waits
  fresh := by
    intro absent
    cases absent

/-- An event keeps the actor sound. -/
theorem sound_event {actor : MdActor} (sound : actor.Sound) (surroundings : MdSurroundings)
    (shared : ServerActorState) (event : CtpEvent) :
    (actor.event surroundings shared event).1.Sound := by
  rcases actor with ⟨session, loggedIn, waiting⟩
  cases session with
  | none => exact sound
  | some session =>
      have connected : session.client = true := sound.connected session rfl
      cases waiting with
      | none =>
          cases event <;> exact sound_idle connected _
      | some command =>
          cases event with
          | frontConnected =>
              simp only [MdActor.event, MdActor.waitMarketDataLogin]
              split
              · exact sound
              · exact sound_idle connected _
          | loginOk | loginFailed | error => exact sound_idle connected _
          | frontDisconnected | heartBeatWarning | subscribeOk | subscribeFailed
          | marketData => exact sound

/-- An actor that is logged in after an event was so before, or has just been told: by its
loop, which resubscribes the table, or by the wait of a handler, which goes on with the
command. -/
theorem event_case {actor : MdActor} (sound : actor.Sound) {surroundings : MdSurroundings}
    {shared : ServerActorState} {event : CtpEvent}
    (loggedIn : (actor.event surroundings shared event).1.loggedIn = true) :
    ((MarketDataInput.event surroundings event).isLogin = false ∧ actor.loggedIn = true) ∨
    (∃ tradingDay, event = .loginOk tradingDay) ∧
      ∃ session : MdSession, session.client = true ∧
        ((∃ command ∈ actor.waiting, (actor.event surroundings shared event).2 =
            mdRequested (performCommand session surroundings.rc command)) ∨
          (actor.event surroundings shared event).2 =
            MdActor.resubscribeMarketData surroundings shared session) := by
  rcases actor with ⟨session, before, waiting⟩
  cases session with
  | none =>
      have loggedOut : before = false := sound.fresh rfl
      subst loggedOut
      cases loggedIn
  | some session =>
      have connected : session.client = true := sound.connected session rfl
      cases event with
      | loginOk tradingDay =>
          right
          refine ⟨⟨tradingDay, rfl⟩, session, connected, ?_⟩
          cases waiting with
          | none => exact Or.inr rfl
          | some command => exact Or.inl ⟨command, rfl, rfl⟩
      | frontConnected =>
          left
          refine ⟨rfl, ?_⟩
          cases waiting with
          | none => exact loggedIn
          | some command =>
              simp only [MdActor.event, MdActor.waitMarketDataLogin] at loggedIn
              split at loggedIn <;> exact loggedIn
      | frontDisconnected | loginFailed =>
          left
          refine ⟨rfl, ?_⟩
          cases waiting with
          | none => cases loggedIn
          | some command => exact loggedIn
      | heartBeatWarning | subscribeOk | subscribeFailed | marketData | error =>
          left
          refine ⟨rfl, ?_⟩
          cases waiting <;> exact loggedIn

/-! ## Steps of the system -/

/-- A call keeps the invariant. -/
theorem restores_decideDelta {system : MarketDataSystem} {passed : Finset String}
    (restores : Restores (system, passed))
    {delta : ServerActorState × Option MarketDataSessionCommand} (ready : TableReady delta.1)
    (rightly : DecidesRightly system.shared.marketDataSubscriptions
      delta.1.marketDataSubscriptions delta.2) :
    Restores (system.decideDelta delta, passed) := by
  refine ⟨restores.sound, ready, ?_⟩
  intro loggedIn
  have later := (restores.covered loggedIn).decide rightly
  rw [List.append_assoc] at later
  exact later

/-- Enqueueing takes no command off its way. -/
theorem mem_publish {system : MarketDataSystem} {number : Nat}
    {command : MarketDataSessionCommand}
    (member : command ∈ system.channel ++ system.pending) :
    command ∈ (system.publish number).channel ++ (system.publish number).pending := by
  cases present : system.pending[number]? with
  | none =>
      simp only [MarketDataSystem.publish, present]
      exact member
  | some enqueued =>
      rcases List.getElem?_eq_some_iff.mp present with ⟨bound, rfl⟩
      have rearranged := (List.getElem_cons_eraseIdx_perm bound).mem_iff (a := command)
      rw [List.mem_cons] at rearranged
      simp only [MarketDataSystem.publish, present, List.mem_append, List.mem_singleton]
      rw [List.mem_append, ← rearranged] at member
      tauto

theorem restores_publish {system : MarketDataSystem} {passed : Finset String}
    (restores : Restores (system, passed)) (number : Nat) :
    Restores (system.publish number, passed) := by
  constructor
  · rw [MarketDataSystem.publish_actor]
    exact restores.sound
  · rw [MarketDataSystem.publish_shared]
    exact restores.ready
  · intro loggedIn
    rw [MarketDataSystem.publish_actor] at loggedIn
    rw [MarketDataSystem.publish_shared]
    apply (restores.covered loggedIn).mono
    · intro command member key subscribed
      exact Or.inr ⟨command, mem_publish member, subscribed⟩
    · exact Finset.Subset.refl passed

/-- Taking a command keeps the actor sound. -/
theorem sound_command {actor : MdActor} (sound : actor.Sound) (surroundings : MdSurroundings)
    (command : MarketDataSessionCommand) :
    (actor.command surroundings command).1.Sound := by
  rcases command_case sound surroundings command with
    ⟨-, same⟩ | ⟨loggedOut, session, connected, same⟩ | ⟨-, session, connected, same⟩
  · rw [same]
    exact sound
  · rw [same]
    refine ⟨?_, ?_, ?_⟩
    · intro other equal
      cases equal
      exact connected
    · intro _
      exact ⟨Option.some_ne_none session, loggedOut⟩
    · intro absent
      cases absent
  · rw [same]
    exact sound

/-- Taking a command keeps the invariant: what it subscribes is passed on. -/
theorem restores_command {system : MarketDataSystem} {passed : Finset String}
    (restores : Restores (system, passed)) (surroundings : MdSurroundings) :
    Restores (watchSubscribes.next (system, passed) (.command surroundings)) := by
  have sound : system.actor.Sound := restores.sound
  have covered := restores.covered
  cases waiting : system.channel with
  | nil =>
      have same : system.step (.command surroundings) = (system, []) := by
        simp only [MarketDataSystem.step, waiting]
      rw [watchSubscribes_next, passedAfter_of_silent passed rfl (by rw [same]), same]
      exact restores
  | cons command rest =>
      cases takes : system.actor.takesCommand with
      | false =>
          have same : system.step (.command surroundings) = (system, []) := by
            simp only [MarketDataSystem.step, waiting, takes, Bool.false_eq_true, if_false]
          rw [watchSubscribes_next, passedAfter_of_silent passed rfl (by rw [same]), same]
          exact restores
      | true =>
          rw [watchSubscribes_next, passedAfter, MarketDataSystem.step_command waiting takes]
          refine ⟨sound_command sound surroundings command, restores.ready, ?_⟩
          intro loggedIn
          rcases command_case sound surroundings command with
            ⟨loggedOut, same⟩ | ⟨loggedOut, session, connected, same⟩ |
              ⟨before, session, connected, same⟩
          · rw [same, loggedOut] at loggedIn
            cases loggedIn
          · rw [same, loggedOut] at loggedIn
            cases loggedIn
          · rw [same, subscribed_performCommand connected]
            rw [waiting] at covered
            apply (covered before).mono
            · intro queued member key subscribed
              rcases List.mem_cons.mp member with rfl | later
              · left
                exact Finset.mem_union_right _ (List.mem_toFinset.mpr subscribed)
              · right
                exact ⟨queued, later, subscribed⟩
            · exact Finset.subset_union_left

/-- An event keeps the invariant where a login seen by a waiting handler leaves nothing of
the table out. -/
theorem restores_event {system : MarketDataSystem} {passed : Finset String}
    (restores : Restores (system, passed)) (surroundings : MdSurroundings) (event : CtpEvent)
    (covers : LoginCovers (system, passed) (.event surroundings event)) :
    Restores (watchSubscribes.next (system, passed) (.event surroundings event)) := by
  refine ⟨sound_event restores.sound surroundings system.shared event, restores.ready, ?_⟩
  intro loggedIn
  change CoveredBy (system.channel ++ system.pending) system.shared.marketDataSubscriptions
    (passedAfter passed system (.event surroundings event))
  have effects : (system.step (.event surroundings event)).2 =
      (system.actor.event surroundings system.shared event).2 := rfl
  rw [passedAfter, effects]
  rcases event_case restores.sound loggedIn with
    ⟨other, before⟩ | ⟨⟨tradingDay, rfl⟩, session, connected, handled | looped⟩
  · apply (restores.covered before).mono
    · intro command member key subscribed
      exact Or.inr ⟨command, member, subscribed⟩
    · rw [other]
      exact Finset.subset_union_left
  · rcases handled with ⟨command, waiting, performed⟩
    rw [performed, subscribed_performCommand connected]
    apply (covers command waiting).mono
    · intro other member key subscribed
      rcases List.mem_cons.mp member with rfl | later
      · left
        exact Finset.mem_union_right _ (List.mem_toFinset.mpr subscribed)
      · right
        exact ⟨other, later, subscribed⟩
    · exact Finset.empty_subset _
  · rw [looped, subscribed_resubscribeMarketData connected]
    intro key member
    left
    exact Finset.mem_union_right _ member

/-- One step keeps the invariant under the condition on logins. -/
theorem restores_next (watched : MarketDataSystem × Finset String) (input : MarketDataInput)
    (restores : Restores watched) (covers : LoginCovers watched input) :
    Restores (watchSubscribes.next watched input) := by
  rcases watched with ⟨system, passed⟩
  have silent (quiet : input.isLogin = false) (nothing : (system.step input).2 = []) :
      watchSubscribes.next (system, passed) input = ((system.step input).1, passed) := by
    rw [watchSubscribes_next, passedAfter_of_silent passed quiet nothing]
  cases input with
  | hello clientId peer outbound =>
      rw [silent rfl rfl]
      exact ⟨restores.sound, ⟨restores.ready.noEmpty, restores.ready.spawned⟩,
        restores.covered⟩
  | subscribe clientId instruments =>
      rw [silent rfl rfl]
      exact restores_decideDelta restores
        (tableReady_subscribe restores.ready clientId instruments)
        (decidesRightly_subscribe restores.ready clientId instruments)
  | unsubscribe clientId instruments =>
      rw [silent rfl rfl]
      exact restores_decideDelta restores
        (tableReady_unsubscribe restores.ready clientId instruments)
        (decidesRightly_unsubscribe restores.ready clientId instruments)
  | remove clientId =>
      rw [silent rfl rfl]
      exact restores_decideDelta restores
        (tableReady_remove restores.ready clientId)
        (decidesRightly_remove restores.ready clientId)
  | publish number =>
      rw [silent rfl rfl]
      exact restores_publish restores number
  | command surroundings => exact restores_command restores surroundings
  | event surroundings event => exact restores_event restores surroundings event covers

/-! ## Every run -/

theorem restores_init : Restores watchSubscribes.init where
  sound :=
    { connected := by
        intro session absent
        cases absent
      waits := fun waits => absurd rfl waits
      fresh := fun _ => rfl }
  ready := tableReady_empty
  covered := by
    intro loggedIn
    cases loggedIn

theorem restored_of_restores {watched : MarketDataSystem × Finset String}
    (restores : Restores watched) : Restored watched := by
  intro idle loggedIn quiescent key member
  rcases restores.covered loggedIn key member with passed | ⟨command, onItsWay, _⟩
  · exact passed
  · rw [quiescent.1, quiescent.2] at onItsWay
    cases onItsWay

/-- In every run in which a login seen by a waiting handler leaves nothing of the table
out, the whole table was passed to `subscribe` since the last login in every idle,
logged-in state with nothing on its way. -/
theorem subscriptions_restored (inputs : List MarketDataInput)
    (covers : watchSubscribes.Always LoginCovers watchSubscribes.init inputs) :
    watchSubscribes.Throughout Restored watchSubscribes.init inputs := by
  apply watchSubscribes.throughout_of_always restores_next
  · intro watched restores
    exact restored_of_restores restores
  · exact restores_init
  · exact covers

instance (commands : List MarketDataSessionCommand) (table : SubscriptionTable)
    (passed : Finset String) : Decidable (CoveredBy commands table passed) :=
  inferInstanceAs (Decidable (∀ key ∈ keySet table,
    key ∈ passed ∨ ∃ command ∈ commands, key ∈ command.subscribed))

instance (watched : MarketDataSystem × Finset String) :
    (input : MarketDataInput) → Decidable (LoginCovers watched input)
  | .event _ (.loginOk _) =>
      inferInstanceAs (Decidable (∀ command ∈ watched.1.actor.waiting,
        CoveredBy (command :: (watched.1.channel ++ watched.1.pending))
          watched.1.shared.marketDataSubscriptions ∅))
  | .hello _ _ _ | .subscribe _ _ | .unsubscribe _ _ | .remove _ | .publish _ | .command _ =>
      inferInstanceAs (Decidable True)
  | .event _ .frontConnected | .event _ (.frontDisconnected _)
  | .event _ (.heartBeatWarning _) | .event _ (.loginFailed _ _) | .event _ (.subscribeOk _)
  | .event _ (.subscribeFailed _ _ _) | .event _ (.marketData _) | .event _ (.error _ _ _) =>
      inferInstanceAs (Decidable True)

instance (watched : MarketDataSystem × Finset String) : Decidable (Restored watched) :=
  inferInstanceAs (Decidable (_ → _ → _ ∧ _ → _))

/-- The first client's instrument is passed on in the first login, the front drops, and
a second client subscribes. -/
def MarketDataInput.droppedInputs : List MarketDataInput :=
  [.subscribe ⟨"CY"⟩ [⟨"rb2610"⟩], .publish 0, .command .accepting,
    .event .accepting .frontConnected, .event .accepting (.loginOk "20260401"),
    .event .accepting (.frontDisconnected 4097), .subscribe ⟨"HB"⟩ [⟨"cu2608"⟩], .publish 0]

/-- The reconnect events are taken before the second client's command. -/
def MarketDataInput.reloginInputs : List MarketDataInput :=
  droppedInputs ++
    [.event .accepting .frontConnected, .event .accepting (.loginOk "20260401"),
      .command .accepting]

theorem subscriptions_restored_relogin :
    watchSubscribes.Throughout Restored watchSubscribes.init MarketDataInput.reloginInputs :=
  subscriptions_restored MarketDataInput.reloginInputs (by decide)

/-- The second client's command is taken before the reconnect events. -/
def MarketDataInput.waitedInputs : List MarketDataInput :=
  droppedInputs ++
    [.command .accepting, .event .accepting .frontConnected,
      .event .accepting (.loginOk "20260401")]

/-- Only the second client's instrument is subscribed after the re-login. -/
theorem relogin_in_wait_not_restored :
    ¬ Restored (watchSubscribes.runFrom watchSubscribes.init MarketDataInput.waitedInputs) := by
  decide

end CtpSystem
