import CtpSystem.Library.Relay
import CtpSystem.MarketData.EventChannel
import CtpSystem.MarketData.Fanout

/-!
# From the exchange to the fan-out

A tick passes the callback, the bounded channel and the loop of the actor before it is
handed to its subscribers.  On the way it may get lost, but it never changes, comes twice or
overtakes another; and only two things lose it: a full channel, and a wait for the login.
-/

namespace CtpSystem

open Reactive

/-! ## Ticks on their way -/

/-- The message of a tick as CTP reports it. -/
def DepthMarketDataField.message (field : DepthMarketDataField) : MarketDataTickMessage where
  instrumentId := ⟨field.instrumentId⟩
  exchangeId := field.exchangeId
  lastPrice := field.lastPrice
  volume := field.volume
  turnover := field.turnover
  openInterest := field.openInterest
  bidPrice1 := field.bidPrice1
  bidVolume1 := field.bidVolume1
  askPrice1 := field.askPrice1
  askVolume1 := field.askVolume1
  updateTime := field.updateTime
  updateMillisec := field.updateMillisec
  tradingDay := field.tradingDay

/-- The tick of a callback. -/
def MdSpiCallback.ticks : MdSpiCallback → List MarketDataTickMessage
  | .onRtnDepthMarketData (some field) => [field.message]
  | _ => []

/-- The tick CTP reports with an input. -/
def MdLinkInput.ticks : MdLinkInput → List MarketDataTickMessage
  | .callback invoked => invoked.ticks
  | .receive _ | .other _ => []

/-- The tick of an event. -/
def CtpEvent.ticks : CtpEvent → List MarketDataTickMessage
  | .marketData tick => [marketDataTickMessage tick]
  | _ => []

/-- The tick that is handed to its subscribers. -/
def MdLinkEffect.fanned : MdLinkEffect → List MarketDataTickMessage
  | .actor (.fanout _ (.marketDataTick tick)) => [tick]
  | _ => []

/-- The event of a callback carries its tick. -/
theorem MdSpiCallback.ticks_event (invoked : MdSpiCallback) :
    (invoked.event.map CtpEvent.ticks).getD [] = invoked.ticks := by
  cases invoked with
  | onRtnDepthMarketData field => cases field <;> rfl
  | onRspError rspInfo requestId => cases rspInfo <;> rfl
  | onRspUserLogin field rspInfo =>
      simp only [event, rspUserLogin, ticks]
      split <;> rfl
  | onRspSubMarketData instrumentId rspInfo =>
      simp only [event, rspSubMarketData, ticks]
      split <;> rfl
  | onFrontConnected | onFrontDisconnected | onHeartBeatWarning => rfl

theorem MdSpiCallback.ticks_eq (invoked : MdSpiCallback) :
    invoked.ticks = [] ∨ ∃ tick, invoked.ticks = [tick] := by
  cases invoked with
  | onRtnDepthMarketData field =>
      cases field with
      | none => exact Or.inl rfl
      | some field => exact Or.inr ⟨_, rfl⟩
  | _ => exact Or.inl rfl

namespace MdLink

/-- A step loses no tick: its callback finds a session and room in the channel, and no tick
is received while a command waits for the login. -/
def KeepsTick (eventBuffer : Nat) (link : MdLink) : MdLinkInput → Prop
  | .callback invoked => invoked.ticks ≠ [] →
      link.system.actor.session.isSome = true ∧ link.queue.length < eventBuffer
  | .receive _ => ∀ tick rest, link.queue = .marketData tick :: rest →
      link.system.actor.session.isSome = true → link.system.actor.waiting = none
  | .other _ => True

section Step

variable {eventBuffer : Nat} {link : MdLink}

/-- Effects of the actor without a fan-out hand out no tick. -/
theorem fanned_actor {effects : List MdEffect}
    (quiet : ∀ channels message, .fanout channels message ∉ effects) :
    (effects.map MdLinkEffect.actor).flatMap MdLinkEffect.fanned = [] := by
  rw [List.flatMap_map, List.flatMap_eq_nil_iff]
  intro effect member
  cases effect with
  | request => rfl
  | fanout channels message => exact absurd member (quiet channels message)

/-- What the actor hands out of an event: its tick, unless a command waits for the login. -/
theorem fanned_event (system : MarketDataSystem) (surroundings : MdSurroundings)
    {session : MdSession} (connected : system.actor.session = some session) (event : CtpEvent) :
    ((system.step (.event surroundings event)).2.map MdLinkEffect.actor).flatMap
        MdLinkEffect.fanned =
      if system.actor.waiting.isSome then [] else event.ticks := by
  have silent (unticked : event.ticks = []) :
      ((system.step (.event surroundings event)).2.map MdLinkEffect.actor).flatMap
        MdLinkEffect.fanned = [] := by
    apply fanned_actor
    intro channels message fanned
    rcases fanout_inversion fanned with ⟨_, tick, same, -⟩
    cases same
    cases unticked
  cases waits : system.actor.waiting with
  | some command =>
      rw [Option.isSome_some, if_pos rfl]
      apply fanned_actor
      simp only [MarketDataSystem.step, MdActor.event, connected, waits]
      exact fun channels message => fanout_notMem_waitMarketDataLogin _ _ _ _ _ _ _
  | none =>
      rw [Option.isSome_none, if_neg Bool.false_ne_true]
      cases event with
      | marketData tick =>
          simp only [MarketDataSystem.step, MdActor.event, connected, waits,
            MdActor.handleMarketDataEvent]
          rfl
      | _ => exact silent rfl

/-- The ticks in the channel. -/
def queued (link : MdLink) : List MarketDataTickMessage := link.queue.flatMap CtpEvent.ticks

variable (eventBuffer link)

/-- The ways a step treats ticks: all stay in order, or the one it meets is lost. -/
inductive TickCase (input : MdLinkInput) :
    List MarketDataTickMessage → List MarketDataTickMessage → Prop where
  | kept (fanned queued : List MarketDataTickMessage)
      (same : fanned ++ queued = link.queued ++ input.ticks)
      (keeps : link.KeepsTick eventBuffer input) : TickCase input fanned queued
  | refused (tick : MarketDataTickMessage) (carries : input.ticks = [tick])
      (loses : ¬link.KeepsTick eventBuffer input) : TickCase input [] link.queued
  | unread (tick : MarketDataTickMessage) (rest : List MarketDataTickMessage)
      (head : link.queued = tick :: rest) (carries : input.ticks = [])
      (loses : ¬link.KeepsTick eventBuffer input) : TickCase input [] rest

theorem tick_case (input : MdLinkInput) :
    TickCase eventBuffer link input
      (((machine eventBuffer).emits link input).flatMap MdLinkEffect.fanned)
      ((machine eventBuffer).next link input).queued := by
  simp only [Machine.next, Machine.emits, machine]
  cases input with
  | callback invoked =>
      have unticked (none : invoked.ticks = []) :
          TickCase eventBuffer link (.callback invoked) [] link.queued :=
        .kept [] link.queued (by simp [MdLinkInput.ticks, none]) fun some => absurd none some
      cases connected : link.system.actor.session with
      | none =>
          simp only [step, called, connected]
          rcases invoked.ticks_eq with none | ⟨tick, carries⟩
          · exact unticked none
          · refine .refused tick carries fun keeps => ?_
            have missing := (keeps (by simp [carries])).1
            simp [connected] at missing
      | some session =>
          have carried := invoked.ticks_event
          simp only [step, called, connected]
          cases emits : invoked.event with
          | none =>
              rw [emits] at carried
              exact unticked carried.symm
          | some event =>
              rw [emits] at carried
              simp only [emit]
              split
              next room =>
                refine .kept [] _ ?_ fun _ => ⟨by simp [connected], room⟩
                simp only [queued, List.flatMap_append, List.flatMap_singleton, List.nil_append,
                  MdLinkInput.ticks]
                exact congrArg _ carried
              next full =>
                rcases invoked.ticks_eq with none | ⟨tick, carries⟩
                · exact unticked none
                · exact .refused tick carries fun keeps => full (keeps (by simp [carries])).2
  | receive surroundings =>
      cases connected : link.system.actor.session with
      | none =>
          simp only [step, receive, connected]
          exact .kept [] link.queued (by simp [MdLinkInput.ticks]) (by simp [KeepsTick, connected])
      | some session =>
          cases waiting : link.queue with
          | nil =>
              simp only [step, receive, connected, waiting]
              exact .kept [] link.queued (by simp [MdLinkInput.ticks]) (by simp [KeepsTick, waiting])
          | cons event rest =>
              simp only [step, receive, connected, waiting, List.flatMap_cons,
                fanned_event link.system surroundings connected event]
              have queue : link.queued = event.ticks ++ rest.flatMap CtpEvent.ticks := by
                rw [queued, waiting, List.flatMap_cons]
              change TickCase eventBuffer link (.receive surroundings)
                ([] ++ if link.system.actor.waiting.isSome then [] else event.ticks)
                (rest.flatMap CtpEvent.ticks)
              rw [List.nil_append]
              cases waits : link.system.actor.waiting with
              | none =>
                  refine .kept event.ticks _ ?_ fun _ _ _ _ => waits
                  rw [queue, MdLinkInput.ticks, List.append_nil]
              | some command =>
                  cases event with
                  | marketData tick =>
                      refine .unread _ _ queue rfl fun keeps => ?_
                      have free := keeps tick rest waiting (by simp [connected])
                      simp [waits] at free
                  | _ =>
                      refine .kept [] _ (by rw [queue]; simp [CtpEvent.ticks, MdLinkInput.ticks]) ?_
                      simp [KeepsTick, waiting]
  | other input =>
      cases input with
      | event => exact .kept [] link.queued (by simp [MdLinkInput.ticks]) trivial
      | hello | subscribe | unsubscribe | remove | publish | command =>
          simp only [step]
          rw [fanned_actor]
          · exact .kept [] link.queued (by simp [MdLinkInput.ticks]) trivial
          · intro channels message fanned
            rcases fanout_inversion fanned with ⟨_, _, other, -⟩
            cases other

/-- The way from the callbacks to the fan-out is a relay of ticks. -/
theorem relay_ticks :
    Relay (machine eventBuffer) (fun _ => True) (fun _ input => input.ticks) queued
      MdLinkEffect.fanned where
  preserved _ _ _ := trivial
  passes link input _ := by
    have stepped := tick_case eventBuffer link input
    generalize ((machine eventBuffer).next link input).queued = after at stepped ⊢
    generalize ((machine eventBuffer).emits link input).flatMap MdLinkEffect.fanned = handed
      at stepped ⊢
    cases stepped with
    | kept fanned queued same => rw [same]
    | refused tick carries => exact List.sublist_append_left _ _
    | unread tick rest head carries =>
        rw [head, carries, List.append_nil]
        exact List.sublist_cons_self _ _

/-- A step relays all exactly when it loses no tick. -/
theorem passes_all_iff (input : MdLinkInput) :
    ((machine eventBuffer).emits link input).flatMap MdLinkEffect.fanned ++
        ((machine eventBuffer).next link input).queued = link.queued ++ input.ticks ↔
      link.KeepsTick eventBuffer input := by
  have stepped := tick_case eventBuffer link input
  generalize ((machine eventBuffer).next link input).queued = after at stepped ⊢
  generalize ((machine eventBuffer).emits link input).flatMap MdLinkEffect.fanned = handed
    at stepped ⊢
  cases stepped with
  | kept fanned queued same keeps => exact iff_of_true same keeps
  | refused tick carries loses =>
      refine iff_of_false ?_ loses
      simp [carries]
  | unread tick rest head carries loses =>
      refine iff_of_false ?_ loses
      simp [head, carries]

end Step

end MdLink

/-- In every run, the ticks handed to their subscribers, followed by those still in the
channel, are part of the ticks CTP reported, in the same order and with all their fields; and
they are all of them exactly when every tick found a session and room in the channel and none
was received while a command waited for the login. -/
theorem ticks_relayed (eventBuffer : Nat) (inputs : List MdLinkInput) :
    let outputs := (MdLink.machine eventBuffer).outputs {} inputs
    let link := (MdLink.machine eventBuffer).runFrom {} inputs
    let fanned := outputs.flatMap MdLinkEffect.fanned
    (fanned ++ link.queued).Sublist (inputs.flatMap MdLinkInput.ticks) ∧
      (fanned ++ link.queued = inputs.flatMap MdLinkInput.ticks ↔
        (MdLink.machine eventBuffer).Always (fun link input => link.KeepsTick eventBuffer input)
          {} inputs) := by
  have relay := MdLink.relay_ticks eventBuffer
  constructor
  · have relayed := relay.outputs_sublist {} trivial inputs
    rwa [Machine.collect_input] at relayed
  · have exactly := relay.outputs_eq_iff
      (fun link input _ => MdLink.passes_all_iff eventBuffer link input) {} trivial inputs
    rwa [Machine.collect_input] at exactly

end CtpSystem
