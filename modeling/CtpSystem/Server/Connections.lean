import CtpSystem.Server.AccountStates
import CtpSystem.Server.ReadLoop

/-!
# Cleanups and newer connections

A cleanup goes by the client id that the ended connection registered.  A client that has
come back goes by the same id over another connection.
-/

namespace CtpSystem

open Reactive

/-- An input is a market-data hello. -/
def GatewayInput.registers : GatewayInput → Bool
  | .envelope .marketData _ _ sent => sent.greeting.isSome
  | .envelope .trading _ _ _ | .disconnected _ | .accountState _ _ => false

namespace Endpoints

/-- The last hello of a connection came after the last one of an older connection. -/
def RegisteredAfter (history : History) (older newer : Nat) : Prop :=
  newer ≠ older ∧
    lastWord (fun asked =>
        if asked.2.registers ∧ (asked.1 = older ∨ asked.1 = newer) then some asked.1
        else none)
      history = some newer

/-- The loop of a connection runs and its client has not hung up. -/
def isOpen (endpoints : Endpoints) (number : Nat) : Bool :=
  endpoints.connections[number]?.any fun connection =>
    connection.reading && !connection.hungUp

/-- A client subscribed to an instrument over a connection, and nothing has withdrawn the
subscription since. -/
def MadeOver (history : History) (number : Nat) (client key : String) : Prop :=
  lastWord (fun asked =>
      (asked.2.interest client key).filter fun interested =>
        !interested || asked.1 = number)
    history = some true

/-- A connection registered after another one and still open. -/
def Newer (watched : Endpoints × History) (older newer : Nat) : Prop :=
  RegisteredAfter watched.2 older newer ∧ watched.1.isOpen newer

variable (fromSlice : List UInt8 → Except String Envelope)

/-- If the step is the cleanup of a connection, registrations and subscriptions made over
newer connections stay in place. -/
def KeepsNewer (watched : Endpoints × History) (input : GatewayWorld × EndpointInput) :
    Prop :=
  ∀ older clientId, watched.1.act fromSlice input.2 = some (older, .disconnected clientId) →
    ∀ newer, Newer watched older newer →
      let next := (watched.1.step fromSlice input.1 input.2).1
      (∀ client, channelOf watched.1.shared client = some ⟨newer⟩ →
        channelOf next.shared client = some ⟨newer⟩) ∧
      ∀ client key, MadeOver watched.2 newer client key →
        client ∈ subscribersOf next.shared.marketDataSubscriptions key

/-- If the step is the cleanup of a connection, no newer connection holds the registration
of its client id or a standing subscription made under it. -/
def NothingNewer (watched : Endpoints × History) (input : GatewayWorld × EndpointInput) :
    Prop :=
  ∀ older clientId, watched.1.act fromSlice input.2 = some (older, .disconnected clientId) →
    ∀ newer, Newer watched older newer →
      channelOf watched.1.shared clientId.asStr ≠ some ⟨newer⟩ ∧
        ∀ key, ¬MadeOver watched.2 newer clientId.asStr key

/-! ## One cleanup -/

/-- A subscription that stands is in the table. -/
theorem subscribed_of_madeOver {watched : Endpoints × History}
    (remembers : Remembers watched) {number : Nat} {client key : String}
    (made : MadeOver watched.2 number client key) :
    client ∈ subscribersOf watched.1.shared.marketDataSubscriptions key := by
  have held := remembers.interest client key
  rw [lastWord_eq_true_of_filter made, Option.getD_some] at held
  exact of_decide_eq_true held

/-- A cleanup keeps what is newer exactly when nothing newer goes by its client id. -/
theorem keepsNewer_iff {watched : Endpoints × History} (remembers : Remembers watched)
    (input : GatewayWorld × EndpointInput) :
    KeepsNewer fromSlice watched input ↔ NothingNewer fromSlice watched input := by
  apply forall₅_congr
  intro older clientId asked newer registered
  simp only [step_shared, asked, Option.elim_some]
  apply and_congr
  · constructor
    · intro keeps taken
      have kept := keeps clientId.asStr taken
      rw [registration_gatewayStep] at kept
      simp [GatewayInput.registration] at kept
    · intro free client registered
      have other : clientId.asStr ≠ client := by
        intro same
        exact free (same ▸ registered)
      rw [registration_gatewayStep]
      simpa [GatewayInput.registration, other] using registered
  · constructor
    · intro keeps key made
      have kept := interest_gatewayStep watched.1.shared input.1 (.disconnected clientId)
        clientId.asStr key
      rw [decide_eq_true (keeps clientId.asStr key made)] at kept
      simp [GatewayInput.interest, GatewayInput.tableCall, TableCall.interest] at kept
    · intro free client key made
      have other : clientId.asStr ≠ client := by
        intro same
        exact free key (same ▸ made)
      have kept := interest_gatewayStep watched.1.shared input.1 (.disconnected clientId)
        client key
      rw [decide_eq_true (subscribed_of_madeOver remembers made)] at kept
      apply of_decide_eq_true
      rw [kept]
      simp [GatewayInput.interest, GatewayInput.tableCall, TableCall.interest, other]

/-! ## Every run -/

/-- In every run, all cleanups keep what newer connections made exactly when, at each of
them, nothing newer goes by its client id. -/
theorem cleanups_keep_newer_iff (config : ServerConfig)
    (inputs : List (GatewayWorld × EndpointInput)) :
    (recorded fromSlice config).Always (KeepsNewer fromSlice)
        (recorded fromSlice config).init inputs ↔
      (recorded fromSlice config).Always (NothingNewer fromSlice)
        (recorded fromSlice config).init inputs :=
  (recorded fromSlice config).always_congr (remembers_next fromSlice config)
    (fun _ input remembers => keepsNewer_iff fromSlice remembers input)
    (remembers_init fromSlice config) inputs

/-- A terminal comes back and replays its hello and its subscription before the end of
its old connection is noticed. -/
def reconnectInputs : List (GatewayWorld × EndpointInput) :=
  let stream : ByteStream := ⟨frame helloBytes ++ (frame subscribeBytes ++ []), none⟩
  [.accept .marketData "10.0.0.1:9" stream, .read 0, .read 0, .hangUp 0,
    .accept .marketData "10.0.0.1:10" stream, .read 1, .read 1].map (.serving, ·)

/-- The old connection's cleanup takes the new connection's registration. -/
theorem lateCleanup_removes_newer :
    ¬(recorded parseSample .sample).Always (KeepsNewer parseSample)
      (recorded parseSample .sample).init (reconnectInputs ++ [(.serving, .read 0)]) := by
  intro always
  have ended : ((recorded parseSample .sample).runFrom (recorded parseSample .sample).init
      reconnectInputs).1.act parseSample (.read 0) = some (0, .disconnected ⟨"CY"⟩) := by
    decide +kernel
  have newer : Newer ((recorded parseSample .sample).runFrom
      (recorded parseSample .sample).init reconnectInputs) 0 1 :=
    ⟨⟨by decide, by decide +kernel⟩, by decide +kernel⟩
  have kept := (always.at_split 0 ⟨"CY"⟩ ended 1 newer).1 "CY"
  revert kept
  decide +kernel

end Endpoints

end CtpSystem
