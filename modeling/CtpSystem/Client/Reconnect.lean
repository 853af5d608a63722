import CtpSystem.Client.MarketDataClient

/-!
# A reconnect rebuilds the subscription

The client's map and the server's table both follow the last word of the envelopes sent:
the one the client's calls send, the other the gateway handles.  One subscription with the
instruments of the map tells the gateway the same last words as the whole history.
-/

namespace CtpSystem

open Reactive

/-- What an envelope on the market-data endpoint tells about the interest of a client in an
instrument. -/
def Envelope.interest (client key : String) (envelope : Envelope) : Option Bool :=
  envelope.tableCall.bind (TableCall.interest client key)

/-! ## The client's map -/

/-- Each instrument is kept under its own key. -/
def KeyedByName (subscriptions : HashMap String InstrumentId) : Prop :=
  ∀ key instrument, subscriptions.lookup key = some instrument → instrument.asStr = key

theorem keyedByName_insert {subscriptions : HashMap String InstrumentId}
    (keyed : KeyedByName subscriptions) (instruments : List InstrumentId) :
    KeyedByName (instruments.foldl
      (fun subscriptions instrument => subscriptions.insert instrument.asStr instrument)
      subscriptions) := by
  induction instruments generalizing subscriptions with
  | nil => exact keyed
  | cons instrument rest ih =>
      apply ih
      intro key found stored
      by_cases same : key = instrument.asStr
      · rw [same, AList.lookup_insert, Option.some.injEq] at stored
        rw [same, stored]
      · rw [AList.lookup_insert_ne same] at stored
        exact keyed key found stored

theorem keyedByName_erase {subscriptions : HashMap String InstrumentId}
    (keyed : KeyedByName subscriptions) (instruments : List InstrumentId) :
    KeyedByName (instruments.foldl
      (fun subscriptions instrument => subscriptions.erase instrument.asStr)
      subscriptions) := by
  induction instruments generalizing subscriptions with
  | nil => exact keyed
  | cons instrument rest ih =>
      apply ih
      intro key found stored
      by_cases same : key = instrument.asStr
      · rw [same, AList.lookup_erase] at stored
        contradiction
      · rw [AList.lookup_erase_ne same] at stored
        exact keyed key found stored

theorem isSome_insertAll (subscriptions : HashMap String InstrumentId)
    (instruments : List InstrumentId) (key : String) :
    ((instruments.foldl
        (fun subscriptions instrument => subscriptions.insert instrument.asStr instrument)
        subscriptions).lookup key).isSome =
      if ⟨key⟩ ∈ instruments then true else (subscriptions.lookup key).isSome := by
  induction instruments generalizing subscriptions with
  | nil => rfl
  | cons instrument rest ih =>
      rcases instrument with ⟨name⟩
      rw [List.foldl_cons, ih]
      by_cases same : key = name
      · subst same
        simp
      · simp [same, AList.lookup_insert_ne]

theorem isSome_eraseAll (subscriptions : HashMap String InstrumentId)
    (instruments : List InstrumentId) (key : String) :
    ((instruments.foldl
        (fun subscriptions instrument => subscriptions.erase instrument.asStr)
        subscriptions).lookup key).isSome =
      if ⟨key⟩ ∈ instruments then false else (subscriptions.lookup key).isSome := by
  induction instruments generalizing subscriptions with
  | nil => rfl
  | cons instrument rest ih =>
      rcases instrument with ⟨name⟩
      rw [List.foldl_cons, ih]
      by_cases same : key = name
      · subst same
        simp
      · simp [same, AList.lookup_erase_ne]

/-- Of a client whose id is given, the map under which each instrument keeps its name. -/
structure ClientSound (clientId : ClientId) (client : MarketDataClient) : Prop where
  named : client.clientId = clientId
  keyed : KeyedByName client.subscriptions

section Calls

variable {clientId : ClientId} {client : MarketDataClient}

theorem clientSound_next (sound : ClientSound clientId client)
    (input : ClientWorld × ClientCall) :
    ClientSound clientId ((MarketDataClient.machine clientId).next client input) := by
  have called := call_case input.1 client input.2
  refine ⟨called.1.trans sound.named, ?_⟩
  have changed := called.2
  simp only [Machine.next, MarketDataClient.machine]
  generalize (client.call input.1 input.2).client.subscriptions = subscriptions at changed ⊢
  generalize (client.call input.1 input.2).sent = sent at changed
  cases changed with
  | aside | greeted => exact sound.keyed
  | subscribed instruments => exact keyedByName_insert sound.keyed instruments
  | unsubscribed instruments => exact keyedByName_erase sound.keyed instruments

/-- A call sets the interests its envelopes tell about and leaves the others. -/
theorem subscriptions_call (sound : ClientSound clientId client)
    (input : ClientWorld × ClientCall) (key : String) :
    (((MarketDataClient.machine clientId).next client input).subscriptions.lookup key).isSome =
      (lastWord (Envelope.interest clientId.asStr key)
        ((MarketDataClient.machine clientId).emits client input)).getD
          (client.subscriptions.lookup key).isSome := by
  have changed := (call_case input.1 client input.2).2
  have named := sound.named
  simp only [Machine.next, Machine.emits, MarketDataClient.machine]
  generalize (client.call input.1 input.2).client.subscriptions = subscriptions at changed ⊢
  generalize (client.call input.1 input.2).sent = sent at changed ⊢
  cases changed with
  | aside | greeted => rfl
  | subscribed instruments =>
      rw [isSome_insertAll, lastWord_cons, lastWord_nil, Option.none_or, named]
      by_cases asked : ⟨key⟩ ∈ instruments <;>
        simp [Envelope.interest, Envelope.tableCall, TableCall.interest, asked]
  | unsubscribed instruments =>
      rw [isSome_eraseAll, lastWord_cons, lastWord_nil, Option.none_or, named]
      by_cases asked : ⟨key⟩ ∈ instruments <;>
        simp [Envelope.interest, Envelope.tableCall, TableCall.interest, asked]

/-- A call tells nothing about other clients. -/
theorem interest_emits_other (sound : ClientSound clientId client)
    (input : ClientWorld × ClientCall) (other key : String) (different : other ≠ clientId.asStr) :
    ∀ envelope ∈ (MarketDataClient.machine clientId).emits client input,
      envelope.interest other key = none := by
  have changed := (call_case input.1 client input.2).2
  have named := sound.named
  simp only [Machine.emits, MarketDataClient.machine]
  generalize (client.call input.1 input.2).client.subscriptions = subscriptions at changed
  generalize (client.call input.1 input.2).sent = sent at changed ⊢
  intro envelope member
  cases changed with
  | aside => exact absurd member List.not_mem_nil
  | greeted =>
      rw [List.mem_singleton.mp member]
      rfl
  | subscribed instruments | unsubscribed instruments =>
      rw [List.mem_singleton.mp member]
      simp [Envelope.interest, Envelope.tableCall, TableCall.interest, named,
        Ne.symm different]

end Calls

/-- What holds of a client and everything it sent: its map has the instruments whose last
word was a subscription, and nothing was told about other clients. -/
structure Mirrored (clientId : ClientId) (client : MarketDataClient) (sent : List Envelope) :
    Prop where
  sound : ClientSound clientId client
  own : ∀ key, (client.subscriptions.lookup key).isSome =
    (lastWord (Envelope.interest clientId.asStr key) sent).getD false
  others : ∀ other key, other ≠ clientId.asStr →
    ∀ envelope ∈ sent, envelope.interest other key = none

/-- The client after its calls. -/
def MarketDataClient.after (clientId : ClientId) (calls : List (ClientWorld × ClientCall)) :
    MarketDataClient :=
  (machine clientId).runFrom (.new clientId) calls

/-- The envelopes its calls sent. -/
def MarketDataClient.sentBy (clientId : ClientId) (calls : List (ClientWorld × ClientCall)) :
    List Envelope :=
  (machine clientId).outputs (.new clientId) calls

theorem mirrored_after (clientId : ClientId) (calls : List (ClientWorld × ClientCall)) :
    Mirrored clientId (.after clientId calls) (MarketDataClient.sentBy clientId calls) := by
  have initial : Mirrored clientId (.new clientId) [] := by
    refine ⟨⟨rfl, ?_⟩, fun _ => rfl, fun _ _ _ _ member => absurd member List.not_mem_nil⟩
    intro key instrument stored
    contradiction
  apply (MarketDataClient.machine clientId).invariant_outputs _ initial calls
  intro client history input mirrored
  refine ⟨clientSound_next mirrored.sound input, ?_, ?_⟩
  · intro key
    rw [subscriptions_call mirrored.sound input key, mirrored.own key, lastWord_append]
    cases lastWord (Envelope.interest clientId.asStr key)
        ((MarketDataClient.machine clientId).emits client input) with
    | none => rw [Option.none_or]; rfl
    | some word => rfl
  · intro other key different envelope member
    rcases List.mem_append.mp member with earlier | later
    · exact mirrored.others other key different envelope earlier
    · exact interest_emits_other mirrored.sound input other key different envelope later

/-! ## The reconnect envelopes -/

theorem mem_instruments {client : MarketDataClient} (keyed : KeyedByName client.subscriptions)
    (key : String) :
    ⟨key⟩ ∈ client.instruments ↔ (client.subscriptions.lookup key).isSome := by
  simp only [MarketDataClient.instruments, List.mem_map, List.mem_insertionSort]
  constructor
  · rintro ⟨⟨name, instrument⟩, member, same⟩
    have stored := AList.mem_lookup_iff.mpr member
    have named := keyed name instrument stored
    have same : instrument = ⟨key⟩ := same
    subst same
    rw [show key = name from named, Option.mem_def.mp stored]
    rfl
  · intro present
    rcases Option.isSome_iff_exists.mp present with ⟨⟨name⟩, stored⟩
    refine ⟨⟨key, ⟨name⟩⟩, AList.mem_lookup_iff.mp stored, ?_⟩
    rw [InstrumentId.mk.injEq]
    exact keyed key ⟨name⟩ stored

/-- The reconnect envelopes subscribe exactly the instruments of the map. -/
theorem interest_reconnectEnvelopes {clientId : ClientId} {client : MarketDataClient}
    (sound : ClientSound clientId client) (key : String) :
    lastWord (Envelope.interest clientId.asStr key) client.reconnectEnvelopes =
      if (client.subscriptions.lookup key).isSome then some true else none := by
  have listed := mem_instruments sound.keyed key
  rw [MarketDataClient.reconnectEnvelopes]
  by_cases empty : client.subscriptions.entries = []
  · have absent : client.subscriptions.lookup key = none := by
      rw [AList.lookup, empty]
      rfl
    rw [if_pos empty, absent]
    rfl
  · rw [if_neg empty, lastWord_cons, lastWord_cons, lastWord_nil, Option.none_or]
    by_cases subscribed : (client.subscriptions.lookup key).isSome <;>
      simp [Envelope.interest, Envelope.tableCall, TableCall.interest, listed, subscribed,
        sound.named, MarketDataClient.helloEnvelope]

theorem interest_reconnectEnvelopes_other {clientId : ClientId} {client : MarketDataClient}
    (sound : ClientSound clientId client) {other : String} (key : String)
    (different : other ≠ clientId.asStr) :
    ∀ envelope ∈ client.reconnectEnvelopes, envelope.interest other key = none := by
  intro envelope member
  rw [MarketDataClient.reconnectEnvelopes] at member
  rcases List.mem_cons.mp member with rfl | subscription
  · rfl
  · split at subscription
    · exact absurd subscription List.not_mem_nil
    · rw [List.mem_singleton.mp subscription]
      simp [Envelope.interest, Envelope.tableCall, TableCall.interest, sound.named,
        Ne.symm different]

/-! ## The table after the envelopes -/

/-- A connection to the market-data endpoint, with what the gateway meets at each of its
envelopes. -/
structure MarketDataLink where
  peer : String
  outbound : EnvelopeTx
  worlds : Nat → GatewayWorld

/-- The inputs of the gateway as the envelopes of the connection arrive. -/
def MarketDataLink.deliver (link : MarketDataLink) (envelopes : List Envelope) :
    List (GatewayWorld × GatewayInput) :=
  envelopes.mapIdx fun index envelope =>
    (link.worlds index, .envelope .marketData link.peer link.outbound envelope)

/-- The state after the gateway processed some envelopes. -/
def MarketDataLink.process (config : ServerConfig) (link : MarketDataLink)
    (state : ServerActorState) (envelopes : List Envelope) : ServerActorState :=
  (gateway config).runFrom state (link.deliver envelopes)

theorem lastWord_deliver (link : MarketDataLink) (envelopes : List Envelope)
    (client key : String) :
    lastWord (fun input => input.2.interest client key) (link.deliver envelopes) =
      lastWord (Envelope.interest client key) envelopes := by
  have inputs : (link.deliver envelopes).map Prod.snd =
      envelopes.map (.envelope .marketData link.peer link.outbound) := by
    apply List.ext_getElem?
    intro index
    rw [MarketDataLink.deliver, List.getElem?_map, List.getElem?_mapIdx, List.getElem?_map,
      Option.map_map]
    rfl
  rw [← lastWord_map (GatewayInput.interest client key) Prod.snd, inputs, lastWord_map]
  rfl

section Gateway

variable (config : ServerConfig) (link : MarketDataLink) (state : ServerActorState)
variable (envelopes : List Envelope)

/-- Who is subscribed after some envelopes are told by the last of them, or else by the table
before them. -/
theorem subscribed_processed (client key : String) :
    decide (client ∈ subscribersOf
        (link.process config state envelopes).marketDataSubscriptions key) =
      (lastWord (Envelope.interest client key) envelopes).getD
        (decide (client ∈ subscribersOf state.marketDataSubscriptions key)) := by
  have follows := (gateway config).read_runFrom
    (fun state => decide (client ∈ subscribersOf state.marketDataSubscriptions key))
    (fun input => input.2.interest client key)
    (fun state input => interest_gatewayStep state input.1 input.2 client key)
    state (link.deliver envelopes)
  rwa [lastWord_deliver] at follows

theorem noEmptySet_processed (noEmpty : NoEmptySet state.marketDataSubscriptions) :
    NoEmptySet (link.process config state envelopes).marketDataSubscriptions := by
  have kept : ∀ state input, NoEmptySet state.marketDataSubscriptions →
      NoEmptySet ((gateway config).next state input).marketDataSubscriptions := by
    intro state input noEmpty
    exact noEmptySet_gatewayStep state input.1 input.2 noEmpty
  exact (gateway config).invariant_runFrom kept noEmpty (link.deliver envelopes)

end Gateway

/-- The state with a client's subscriptions removed. -/
def ServerActorState.without (state : ServerActorState) (clientId : ClientId) :
    ServerActorState :=
  (state.removeMarketDataClientSubscriptions clientId).1

theorem subscribersOf_without (state : ServerActorState) (clientId : ClientId)
    (key : String) :
    subscribersOf (state.without clientId).marketDataSubscriptions key =
      (subscribersOf state.marketDataSubscriptions key).erase clientId.asStr :=
  subscribersOf_remove clientId state.marketDataSubscriptions key

theorem noEmptySet_without (state : ServerActorState) (clientId : ClientId) :
    NoEmptySet (state.without clientId).marketDataSubscriptions :=
  noEmptySet_removeClientSubscriptions clientId state.marketDataSubscriptions

section Tables

variable (config : ServerConfig) (link : MarketDataLink) (state : ServerActorState)
variable {clientId : ClientId} {client : MarketDataClient} {sent : List Envelope}

/-- Without the client, everything it sent subscribes it to the instruments of its map. -/
theorem own_history (mirrored : Mirrored clientId client sent) (key : String) :
    clientId.asStr ∈ subscribersOf
        (link.process config (state.without clientId) sent).marketDataSubscriptions key ↔
      (client.subscriptions.lookup key).isSome := by
  have told := subscribed_processed config link (state.without clientId) sent clientId.asStr key
  rw [subscribersOf_without, decide_eq_false (Finset.notMem_erase _ _),
    ← mirrored.own key] at told
  rw [← told, decide_eq_true_iff]

/-- So do the reconnect envelopes alone. -/
theorem own_replay (sound : ClientSound clientId client) (key : String) :
    clientId.asStr ∈ subscribersOf
        (link.process config (state.without clientId)
          client.reconnectEnvelopes).marketDataSubscriptions key ↔
      (client.subscriptions.lookup key).isSome := by
  have told := subscribed_processed config link (state.without clientId)
    client.reconnectEnvelopes clientId.asStr key
  rw [subscribersOf_without, decide_eq_false (Finset.notMem_erase _ _),
    interest_reconnectEnvelopes sound] at told
  apply decide_eq_true_iff.symm.trans
  rw [told]
  by_cases subscribed : (client.subscriptions.lookup key).isSome <;> simp [subscribed]

/-- Envelopes that tell nothing about another client leave its subscriptions. -/
theorem others_processed {envelopes : List Envelope} {other key : String}
    (silent : ∀ envelope ∈ envelopes, envelope.interest other key = none) :
    other ∈ subscribersOf (link.process config state envelopes).marketDataSubscriptions key ↔
      other ∈ subscribersOf state.marketDataSubscriptions key := by
  have told := subscribed_processed config link state envelopes other key
  rw [lastWord_eq_none_iff.mpr silent, Option.getD_none] at told
  exact decide_eq_decide.mp told

/-- Where two tables have the same other subscribers, the reconnect envelopes on the one and
everything sent on the other lead to the same entries, once the client is removed from both. -/
theorem replayed_eq_lived (again : MarketDataLink) {dropped before : ServerActorState}
    (mirrored : Mirrored clientId client sent) {key : String}
    (same : (subscribersOf dropped.marketDataSubscriptions key).erase clientId.asStr =
      (subscribersOf before.marketDataSubscriptions key).erase clientId.asStr) :
    (again.process config (dropped.without clientId)
        client.reconnectEnvelopes).marketDataSubscriptions.lookup key =
      (link.process config (before.without clientId) sent).marketDataSubscriptions.lookup
        key := by
  apply lookup_eq_of_subscribersOf
  · exact noEmptySet_processed config again _ _ (noEmptySet_without dropped clientId)
  · exact noEmptySet_processed config link _ _ (noEmptySet_without before clientId)
  · ext other
    by_cases own : other = clientId.asStr
    · rw [own, own_replay config again dropped mirrored.sound,
        own_history config link before mirrored]
    · rw [others_processed config again _
          (interest_reconnectEnvelopes_other mirrored.sound key own),
        others_processed config link _ (mirrored.others other key own),
        subscribersOf_without, subscribersOf_without, same]

end Tables

/-- Envelopes of a client leave the other clients' subscriptions. -/
theorem others_kept (config : ServerConfig) (link : MarketDataLink) (state : ServerActorState)
    {clientId : ClientId} {envelopes : List Envelope} {key : String}
    (silent : ∀ other, other ≠ clientId.asStr → ∀ envelope ∈ envelopes,
      envelope.interest other key = none) :
    (subscribersOf (link.process config (state.without clientId)
        envelopes).marketDataSubscriptions key).erase clientId.asStr =
      (subscribersOf state.marketDataSubscriptions key).erase clientId.asStr := by
  ext other
  rw [Finset.mem_erase, Finset.mem_erase]
  apply and_congr_right
  intro different
  rw [others_processed config link _ (silent other different), subscribersOf_without,
    Finset.mem_erase, and_iff_right different]

/-- Every sequence of calls of a client, sent to a server that had no subscription of it,
leaves the table its reconnect envelopes alone make: from the table before the calls, and
from the table after them with the client removed.  The other clients' entries are those
before the calls. -/
theorem replay_reconstructs (config : ServerConfig) (clientId : ClientId)
    (calls : List (ClientWorld × ClientCall)) (state : ServerActorState)
    (link again : MarketDataLink) (key : String) :
    let replayed := (MarketDataClient.after clientId calls).reconnectEnvelopes
    let start := state.without clientId
    let lived := link.process config start (MarketDataClient.sentBy clientId calls)
    let restarted := again.process config start replayed
    let resumed := again.process config (lived.without clientId) replayed
    restarted.marketDataSubscriptions.lookup key = lived.marketDataSubscriptions.lookup key ∧
      resumed.marketDataSubscriptions.lookup key = lived.marketDataSubscriptions.lookup key ∧
      (subscribersOf lived.marketDataSubscriptions key).erase clientId.asStr =
        (subscribersOf state.marketDataSubscriptions key).erase clientId.asStr ∧
      (subscribersOf restarted.marketDataSubscriptions key).erase clientId.asStr =
        (subscribersOf state.marketDataSubscriptions key).erase clientId.asStr := by
  intro replayed start lived restarted resumed
  have mirrored := mirrored_after clientId calls
  have others : (subscribersOf lived.marketDataSubscriptions key).erase clientId.asStr =
      (subscribersOf state.marketDataSubscriptions key).erase clientId.asStr := by
    apply others_kept
    intro other different
    exact mirrored.others other key different
  refine ⟨?_, ?_, others, ?_⟩
  · exact replayed_eq_lived config link again mirrored rfl
  · exact replayed_eq_lived config link again mirrored others
  · apply others_kept
    intro other different
    exact interest_reconnectEnvelopes_other mirrored.sound key different

end CtpSystem
