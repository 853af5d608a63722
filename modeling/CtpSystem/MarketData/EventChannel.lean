import CtpSystem.MarketData.Callbacks

/-!
# Control events on the bounded channel

The event channel is a bounded queue between the callbacks and the actor.  A control event
reaches the actor unless it was emitted while the channel was full of events not received
yet, whatever those are.
-/

namespace CtpSystem

open Reactive

/-- The event a callback of the session emits. -/
def MdLinkInput.emits : MdLinkInput → Option CtpEvent
  | .callback invoked => invoked.event
  | .receive _ | .other _ => none

namespace MdLink

/-- A control event that a callback of the session emits finds room in the channel. -/
def RoomFor (eventBuffer : Nat) (link : MdLink) (input : MdLinkInput) : Prop :=
  link.system.actor.session.isSome = true → ∀ event, input.emits = some event →
    event.isControl = true → link.queue.length < eventBuffer

instance (eventBuffer : Nat) (link : MdLink) (input : MdLinkInput) :
    Decidable (link.RoomFor eventBuffer input) :=
  inferInstanceAs (Decidable (_ = true → ∀ event ∈ input.emits, event.isControl = true →
    _ < eventBuffer))

/-- What the actor does is neither an emission nor a reception. -/
theorem filterMap_actor {part : MdLinkEffect → Option CtpEvent}
    (silent : ∀ effect, part (.actor effect) = none) (effects : List MdEffect) :
    (effects.map MdLinkEffect.actor).filterMap part = [] := by
  rw [List.filterMap_eq_nil_iff]
  intro output member
  rcases List.mem_map.mp member with ⟨effect, -, rfl⟩
  exact silent effect

section Step

variable (eventBuffer : Nat) (link : MdLink)

/-- A step at the channel is a step of a bounded queue. -/
theorem queueStep (input : MdLinkInput) :
    QueueStep eventBuffer link.queue ((machine eventBuffer).next link input).queue
      (((machine eventBuffer).emits link input).filterMap MdLinkEffect.emission)
      (((machine eventBuffer).emits link input).filterMap MdLinkEffect.reception) := by
  have unemitted : ∀ effects : List MdEffect,
      (effects.map MdLinkEffect.actor).filterMap MdLinkEffect.emission = [] :=
    filterMap_actor (fun _ => rfl)
  have unreceived : ∀ effects : List MdEffect,
      (effects.map MdLinkEffect.actor).filterMap MdLinkEffect.reception = [] :=
    filterMap_actor (fun _ => rfl)
  simp only [Machine.next, Machine.emits, machine]
  cases input with
  | callback callback =>
      simp only [step, called]
      cases link.system.actor.session with
      | none => exact .idle
      | some session =>
          cases callback.event with
          | none => exact .idle
          | some event =>
              simp only [emit]
              split
              next room => exact .accepted event room
              next full => exact .refused event (Nat.not_lt.mp full)
  | receive surroundings =>
      simp only [step, receive]
      cases link.system.actor.session with
      | none => exact .idle
      | some session =>
          cases waiting : link.queue with
          | nil =>
              simp only [waiting]
              exact .idle
          | cons event rest =>
              simp only [List.filterMap_cons, MdLinkEffect.emission, MdLinkEffect.reception,
                unemitted, unreceived]
              exact .taken event rest rfl
  | other input =>
      cases input with
      | event => exact .idle
      | hello | subscribe | unsubscribe | remove | publish | command =>
          simp only [step, unemitted, unreceived]
          exact .idle

/-- Finding room is a condition on the callback and the channel. -/
theorem findsRoom_iff (input : MdLinkInput) :
    (machine eventBuffer).FindsRoom eventBuffer MdLink.queue MdLinkEffect.emission
      CtpEvent.isControl link input ↔ link.RoomFor eventBuffer input := by
  have silent : ∀ effects : List MdEffect,
      (effects.map MdLinkEffect.actor).filterMap MdLinkEffect.emission = [] :=
    filterMap_actor (fun _ => rfl)
  simp only [Machine.FindsRoom, RoomFor, Machine.emits, machine]
  cases input with
  | callback callback =>
      simp only [step, called]
      cases link.system.actor.session with
      | none => simp
      | some session =>
          cases emits : callback.event with
          | none => simp [MdLinkInput.emits, emits]
          | some event => simp [MdLinkInput.emits, emits, MdLinkEffect.emission]
  | receive surroundings =>
      simp only [step, receive]
      cases link.system.actor.session with
      | none => simp
      | some session =>
          cases waiting : link.queue with
          | nil => simp [MdLinkInput.emits]
          | cons event rest => simp [MdLinkInput.emits, MdLinkEffect.emission]
  | other input =>
      cases input with
      | event => simp [step, MdLinkInput.emits]
      | hello | subscribe | unsubscribe | remove | publish | command =>
          simp [step, silent, MdLinkInput.emits]

end Step

/-! ## Every run -/

/-- The control events received, followed by those still in the channel, are those emitted
exactly when each of them found room. -/
theorem controls_kept_iff (eventBuffer : Nat) (inputs : List MdLinkInput) :
    (((machine eventBuffer).outputs {} inputs).filterMap MdLinkEffect.reception ++
          ((machine eventBuffer).runFrom {} inputs).queue).filter CtpEvent.isControl =
        (((machine eventBuffer).outputs {} inputs).filterMap MdLinkEffect.emission).filter
          CtpEvent.isControl ↔
      (machine eventBuffer).Always (fun link input => link.RoomFor eventBuffer input) {}
        inputs := by
  have kept := (machine eventBuffer).kept_iff (queueStep eventBuffer) CtpEvent.isControl {}
    inputs
  have found : ∀ link input, True →
      ((machine eventBuffer).FindsRoom eventBuffer MdLink.queue MdLinkEffect.emission
        CtpEvent.isControl link input ↔ link.RoomFor eventBuffer input) := by
    intro link input _
    exact findsRoom_iff eventBuffer link input
  rw [(machine eventBuffer).always_congr (fun _ _ _ => trivial) found trivial] at kept
  exact kept

end MdLink

/-- In every run the control events the actor received, followed by those still in the
channel, are those emitted in their order exactly when each of them found room; and once the
channel is empty, those it received are. -/
theorem control_events_received_iff (eventBuffer : Nat) (inputs : List MdLinkInput) :
    let outputs := (MdLink.machine eventBuffer).outputs {} inputs
    let queue := ((MdLink.machine eventBuffer).runFrom {} inputs).queue
    let emitted := (outputs.filterMap MdLinkEffect.emission).filter CtpEvent.isControl
    let received := outputs.filterMap MdLinkEffect.reception
    let roomy := (MdLink.machine eventBuffer).Always
      (fun link input => link.RoomFor eventBuffer input) {} inputs
    ((received ++ queue).filter CtpEvent.isControl = emitted ↔ roomy) ∧
      (queue = [] → (received.filter CtpEvent.isControl = emitted ↔ roomy)) := by
  intro outputs queue emitted received roomy
  have kept : (received ++ queue).filter CtpEvent.isControl = emitted ↔ roomy :=
    MdLink.controls_kept_iff eventBuffer inputs
  refine ⟨kept, ?_⟩
  intro drained
  rw [drained, List.append_nil] at kept
  exact kept

/-- The first subscription opens the session and its login succeeds. -/
def MdLinkInput.opening : List MdLinkInput :=
  [.other (.subscribe ⟨"CY"⟩ [⟨"rb2610"⟩]), .other (.publish 0), .other (.command .accepting),
    .callback .onFrontConnected, .receive .accepting, .callback (.onRspUserLogin none none),
    .receive .accepting]

theorem control_events_received_opening :
    (((MdLink.machine 1).outputs {} MdLinkInput.opening).filterMap
        MdLinkEffect.reception).filter CtpEvent.isControl =
      (((MdLink.machine 1).outputs {} MdLinkInput.opening).filterMap
        MdLinkEffect.emission).filter CtpEvent.isControl :=
  ((control_events_received_iff 1 MdLinkInput.opening).2 (by decide)).mpr (by decide)

/-- A tick of the subscribed instrument. -/
def DepthMarketDataField.sample : DepthMarketDataField :=
  ⟨"rb2610", "SHFE", ⟨0⟩, 10, ⟨0⟩, ⟨0⟩, ⟨0⟩, 1, ⟨0⟩, 1, "09:30:00", 500, "20260401"⟩

/-- Ticks that are not received fill the channel. -/
theorem MdLink.ticks_fill {eventBuffer : Nat} {link : MdLink}
    (connected : link.system.actor.session.isSome = true) (field : DepthMarketDataField)
    (count : Nat) (room : link.queue.length + count ≤ eventBuffer) :
    let ticked := (MdLink.machine eventBuffer).runFrom link
      (List.replicate count (.callback (.onRtnDepthMarketData (some field))))
    ticked.system = link.system ∧ ticked.queue.length = link.queue.length + count := by
  induction count generalizing link with
  | zero => exact ⟨rfl, rfl⟩
  | succ count ih =>
      have first : (MdLink.machine eventBuffer).next link
            (.callback (.onRtnDepthMarketData (some field))) =
          { link with queue := link.queue ++ [MdSpiCallback.rtnDepthMarketData field] } := by
        rcases Option.isSome_iff_exists.mp connected with ⟨session, opened⟩
        have free : link.queue.length < eventBuffer := by omega
        simp only [Machine.next, MdLink.machine, MdLink.step, MdLink.called, opened,
          MdSpiCallback.event, MdSpiCallback.mode, Option.map_some, Option.getD_none,
          MdLink.emit, if_pos free]
      simp only [List.replicate_succ, Machine.runFrom]
      rw [first]
      generalize ticked : ({ link with
        queue := link.queue ++ [MdSpiCallback.rtnDepthMarketData field] } : MdLink) = next
      have same : next.system = link.system := by rw [← ticked]
      have longer : next.queue.length = link.queue.length + 1 := by
        rw [← ticked, List.length_append, List.length_singleton]
      rw [← same] at connected
      have later := ih connected (by omega)
      exact ⟨later.1.trans same, by rw [later.2, longer]; omega⟩

/-- The market opens and the actor does not get to receive while the channel fills; then
the front disconnects. -/
def MdLinkInput.flooded : List MdLinkInput :=
  (MdLinkInput.opening ++
    List.replicate CtpEvent.defaultBuffer
      (.callback (.onRtnDepthMarketData (some .sample)))) ++
    [.callback (.onFrontDisconnected 4097)]

/-- With the default capacity the disconnection is emitted, and neither received nor in the
channel. -/
theorem disconnection_lost :
    (((MdLink.machine CtpEvent.defaultBuffer).outputs {} MdLinkInput.flooded).filterMap
          MdLinkEffect.reception ++
        ((MdLink.machine CtpEvent.defaultBuffer).runFrom {}
          MdLinkInput.flooded).queue).filter CtpEvent.isControl ≠
      (((MdLink.machine CtpEvent.defaultBuffer).outputs {} MdLinkInput.flooded).filterMap
        MdLinkEffect.emission).filter CtpEvent.isControl := by
  intro kept
  have roomy := (MdLink.controls_kept_iff CtpEvent.defaultBuffer MdLinkInput.flooded).mp kept
  have last := roomy.at_split
  rw [Machine.runFrom_append] at last
  have connected : ((MdLink.machine CtpEvent.defaultBuffer).runFrom {}
      MdLinkInput.opening).system.actor.session.isSome = true := by decide
  have empty : ((MdLink.machine CtpEvent.defaultBuffer).runFrom {}
      MdLinkInput.opening).queue.length = 0 := by decide
  have fits : ((MdLink.machine CtpEvent.defaultBuffer).runFrom {}
      MdLinkInput.opening).queue.length + CtpEvent.defaultBuffer ≤ CtpEvent.defaultBuffer := by
    rw [empty, Nat.zero_add]
  have filled := MdLink.ticks_fill connected .sample CtpEvent.defaultBuffer fits
  have room := last (by rw [filled.1]; exact connected) (.frontDisconnected 4097) rfl rfl
  rw [filled.2, empty] at room
  omega

end CtpSystem
