import CtpSystem.Library.LastWord
import CtpSystem.Library.Ledger
import CtpSystem.MarketData.Dispatch

/-!
# The deltas of the subscription table

The instruments the three table operations return form a ledger of what the exchange
has subscribed.  Over any sequence of calls the ledger is effective, and what it leaves
held are the instruments of the table: those some client subscribed last.
-/

namespace CtpSystem

open Reactive

/-- The calls that change the table. -/
inductive TableCall where
  | subscribe (clientId : ClientId) (instruments : List InstrumentId)
  | unsubscribe (clientId : ClientId) (instruments : List InstrumentId)
  | remove (clientId : ClientId)
  deriving DecidableEq

namespace TableCall

/-- Perform a call; the instruments it returns are acquired by a subscription and
released by the other two. -/
def perform (state : ServerActorState) :
    TableCall → ServerActorState × List (LedgerEntry String)
  | .subscribe clientId instruments =>
      let (state, returned) := state.subscribeMarketData clientId instruments
      (state, returned.map fun instrument => .acquire instrument.asStr)
  | .unsubscribe clientId instruments =>
      let (state, returned) := state.unsubscribeMarketData clientId instruments
      (state, returned.map fun instrument => .release instrument.asStr)
  | .remove clientId =>
      let (state, returned) := state.removeMarketDataClientSubscriptions clientId
      (state, returned.map fun instrument => .release instrument.asStr)

/-- What a call tells about the interest of a client in an instrument. -/
def interest (client key : String) : TableCall → Option Bool
  | .subscribe clientId instruments =>
      if clientId.asStr = client ∧ ⟨key⟩ ∈ instruments then some true else none
  | .unsubscribe clientId instruments =>
      if clientId.asStr = client ∧ ⟨key⟩ ∈ instruments then some false else none
  | .remove clientId => if clientId.asStr = client then some false else none

end TableCall

/-- A server state under table calls. -/
def tableMachine : Machine ServerActorState TableCall (LedgerEntry String) where
  init := {}
  step := TableCall.perform

/-! ## Subscribers -/

/-- The clients subscribed to an instrument. -/
def subscribersOf (table : SubscriptionTable) (key : String) : Finset String :=
  (table.lookup key).getD ∅

theorem mem_iff_subscribed {table : SubscriptionTable} (noEmpty : NoEmptySet table)
    (key : String) : key ∈ table ↔ ∃ client, client ∈ subscribersOf table key := by
  rw [← not_iff_not, ← getD_eq_empty_iff noEmpty key, subscribersOf,
    Finset.eq_empty_iff_forall_notMem, not_exists]

/-- In a table without empty sets, the entry of an instrument is its subscribers, if any. -/
theorem lookup_eq_subscribersOf {table : SubscriptionTable} (noEmpty : NoEmptySet table)
    (key : String) :
    table.lookup key =
      if subscribersOf table key = ∅ then none else some (subscribersOf table key) := by
  cases found : table.lookup key with
  | none =>
      rw [subscribersOf, found]
      rfl
  | some clients =>
      have present : clients ≠ ∅ := by
        intro empty
        rw [empty] at found
        exact noEmpty key found
      rw [subscribersOf, found, Option.getD_some, if_neg present]

/-- Tables without empty sets that have the same subscribers have the same entries. -/
theorem lookup_eq_of_subscribersOf {table other : SubscriptionTable}
    (noEmpty : NoEmptySet table) (otherNoEmpty : NoEmptySet other) {key : String}
    (same : subscribersOf table key = subscribersOf other key) :
    table.lookup key = other.lookup key := by
  rw [lookup_eq_subscribersOf noEmpty, lookup_eq_subscribersOf otherNoEmpty, same]

theorem subscribersOf_insert (table : SubscriptionTable) (name key : String)
    (clients : Finset String) :
    subscribersOf (table.insert name clients) key =
      if key = name then clients else subscribersOf table key := by
  by_cases same : key = name
  · rw [if_pos same, same, subscribersOf, AList.lookup_insert]
    rfl
  · rw [if_neg same, subscribersOf, AList.lookup_insert_ne same]
    rfl

theorem subscribersOf_erase (table : SubscriptionTable) (name key : String) :
    subscribersOf (table.erase name) key =
      if key = name then ∅ else subscribersOf table key := by
  by_cases same : key = name
  · rw [if_pos same, same, subscribersOf, AList.lookup_erase]
    rfl
  · rw [if_neg same, subscribersOf, AList.lookup_erase_ne same]
    rfl

/-- A subscription adds the client to each of its instruments. -/
theorem subscribersOf_subscribe (clientId : ClientId) (table : SubscriptionTable)
    (instruments : List InstrumentId) (key : String) :
    subscribersOf (subscribeInstruments clientId table instruments).1 key =
      if ⟨key⟩ ∈ instruments then insert clientId.asStr (subscribersOf table key)
      else subscribersOf table key := by
  induction instruments generalizing table with
  | nil => rfl
  | cons instrument rest ih =>
      rcases instrument with ⟨name⟩
      rw [subscribeInstruments, ih, subscribersOf_insert]
      by_cases same : key = name
      · subst same
        by_cases again : ⟨key⟩ ∈ rest <;> simp [again, subscribersOf]
      · simp [same]

/-- An unsubscription takes the client from each of its instruments. -/
theorem subscribersOf_unsubscribe (clientId : ClientId) (table : SubscriptionTable)
    (instruments : List InstrumentId) (key : String) :
    subscribersOf (unsubscribeInstruments clientId table instruments).1 key =
      if ⟨key⟩ ∈ instruments then (subscribersOf table key).erase clientId.asStr
      else subscribersOf table key := by
  induction instruments generalizing table with
  | nil => rfl
  | cons instrument rest ih =>
      rcases instrument with ⟨name⟩
      have shrunk : ∀ table' : SubscriptionTable,
          subscribersOf table' key =
            (if key = name then (subscribersOf table key).erase clientId.asStr
              else subscribersOf table key) →
          subscribersOf (unsubscribeInstruments clientId table' rest).1 key =
            if ⟨key⟩ ∈ ⟨name⟩ :: rest then (subscribersOf table key).erase clientId.asStr
            else subscribersOf table key := by
        intro table' read
        rw [ih, read]
        by_cases same : key = name
        · subst same
          by_cases again : ⟨key⟩ ∈ rest <;> simp [again]
        · simp [same]
      simp only [unsubscribeInstruments]
      cases found : table.lookup name with
      | none =>
          apply shrunk
          by_cases same : key = name
          · rw [if_pos same, same, subscribersOf, found]
            rfl
          · rw [if_neg same]
      | some clients =>
          have held : subscribersOf table name = clients := by
            rw [subscribersOf, found]
            rfl
          simp only [Option.map_some]
          by_cases empty : clients.erase clientId.asStr = ∅
          · rw [if_pos empty]
            apply shrunk
            rw [subscribersOf_erase]
            by_cases same : key = name
            · rw [if_pos same, if_pos same, same, held, empty]
            · rw [if_neg same, if_neg same]
          · rw [if_neg empty]
            apply shrunk
            rw [subscribersOf_insert]
            by_cases same : key = name
            · rw [if_pos same, if_pos same, same, held]
            · rw [if_neg same, if_neg same]

/-- A removal takes the client from every instrument. -/
theorem subscribersOf_remove (clientId : ClientId) (table : SubscriptionTable)
    (key : String) :
    subscribersOf (removeClientSubscriptions clientId table).1 key =
      (subscribersOf table key).erase clientId.asStr := by
  rw [subscribersOf, lookup_removeClientSubscriptions, subscribersOf]
  cases table.lookup key with
  | none => rfl
  | some clients =>
      by_cases empty : clients.erase clientId.asStr = ∅ <;> simp [Option.filter, empty]

/-- Each call sets the interests it tells about and leaves the others. -/
theorem subscribersOf_perform (state : ServerActorState) (call : TableCall)
    (client key : String) :
    decide (client ∈ subscribersOf (call.perform state).1.marketDataSubscriptions key) =
      (call.interest client key).getD
        (decide (client ∈ subscribersOf state.marketDataSubscriptions key)) := by
  cases call with
  | subscribe clientId instruments =>
      simp only [TableCall.perform, ServerActorState.subscribeMarketData,
        subscribersOf_subscribe, TableCall.interest]
      by_cases named : ⟨key⟩ ∈ instruments
      · by_cases same : clientId.asStr = client
        · simp [named, same]
        · simp [named, same, Ne.symm same]
      · simp [named]
  | unsubscribe clientId instruments =>
      simp only [TableCall.perform, ServerActorState.unsubscribeMarketData,
        subscribersOf_unsubscribe, TableCall.interest]
      by_cases named : ⟨key⟩ ∈ instruments
      · by_cases same : clientId.asStr = client
        · simp [named, same]
        · simp [named, same, Ne.symm same]
      · simp [named]
  | remove clientId =>
      simp only [TableCall.perform, ServerActorState.removeMarketDataClientSubscriptions,
        subscribersOf_remove, TableCall.interest]
      by_cases same : clientId.asStr = client
      · simp [same]
      · simp [same, Ne.symm same]

/-! ## Returned instruments -/

theorem keySet_insert (table : SubscriptionTable) (name : String) (clients : Finset String) :
    keySet (table.insert name clients) = insert name (keySet table) := by
  ext key
  simp

theorem keySet_erase (table : SubscriptionTable) (name : String) :
    keySet (table.erase name) = (keySet table).erase name := by
  ext key
  simp

/-- A subscription returns, in order, the instruments it takes into the table. -/
theorem moves_subscribe (clientId : ClientId) {table : SubscriptionTable}
    (noEmpty : NoEmptySet table) (instruments : List InstrumentId) :
    Ledger.Moves
      ((subscribeInstruments clientId table instruments).2.map fun instrument =>
        .acquire instrument.asStr)
      (keySet table) (keySet (subscribeInstruments clientId table instruments).1) := by
  induction instruments generalizing table with
  | nil => exact Ledger.moves_nil _
  | cons instrument rest ih =>
      rcases instrument with ⟨name⟩
      have later := ih (noEmptySet_insert noEmpty name
        (Finset.insert_ne_empty clientId.asStr ((table.lookup name).getD ∅)))
      rw [keySet_insert] at later
      have empty := getD_eq_empty_iff noEmpty name
      simp only [subscribeInstruments]
      by_cases present : name ∈ table
      · rw [if_neg (fun both => empty.mp both.1 present)]
        rw [Finset.insert_eq_self.mpr (mem_keySet.mpr present)] at later
        exact later
      · rw [if_pos ⟨empty.mpr present, by simp [empty.mpr present]⟩, List.map_cons]
        exact Ledger.moves_acquire (fun member => present (mem_keySet.mp member)) later

/-- An unsubscription returns, in order, the instruments it takes out of the table. -/
theorem moves_unsubscribe (clientId : ClientId) (table : SubscriptionTable)
    (instruments : List InstrumentId) :
    Ledger.Moves
      ((unsubscribeInstruments clientId table instruments).2.map fun instrument =>
        .release instrument.asStr)
      (keySet table) (keySet (unsubscribeInstruments clientId table instruments).1) := by
  induction instruments generalizing table with
  | nil => exact Ledger.moves_nil _
  | cons instrument rest ih =>
      rcases instrument with ⟨name⟩
      simp only [unsubscribeInstruments]
      cases found : table.lookup name with
      | none => exact ih table
      | some clients =>
          have present : name ∈ keySet table :=
            mem_keySet.mpr (AList.lookup_isSome.mp (by rw [found, Option.isSome_some]))
          simp only [Option.map_some]
          by_cases empty : clients.erase clientId.asStr = ∅
          · rw [if_pos empty, List.map_cons]
            have later := ih (table.erase name)
            rw [keySet_erase] at later
            exact Ledger.moves_release present later
          · rw [if_neg empty]
            have later := ih (table.insert name (clients.erase clientId.asStr))
            rw [keySet_insert, Finset.insert_eq_self.mpr present] at later
            exact later

/-- A removal returns each instrument it takes out of the table once. -/
theorem moves_remove (clientId : ClientId) (table : SubscriptionTable) :
    Ledger.Moves
      ((removeClientSubscriptions clientId table).2.map fun instrument =>
        .release instrument.asStr)
      (keySet table) (keySet (removeClientSubscriptions clientId table).1) := by
  have returned : (removeClientSubscriptions clientId table).2.map
      (fun instrument => LedgerEntry.release instrument.asStr) =
        (emptyInstruments (removeClient clientId table)).map LedgerEntry.release := by
    simp [removeClientSubscriptions]
  have distinct : (emptyInstruments (removeClient clientId table)).Nodup :=
    (removeClient clientId table).keys_nodup.sublist (List.filter_sublist.map _)
  have held : ∀ key ∈ emptyInstruments (removeClient clientId table), key ∈ keySet table := by
    intro key member
    rw [mem_keySet, ← mem_removeClient, ← AList.lookup_isSome,
      mem_emptyInstruments.mp member, Option.isSome_some]
  have left : keySet (removeClientSubscriptions clientId table).1 =
      keySet table \ (emptyInstruments (removeClient clientId table)).toFinset := by
    ext key
    rw [Finset.mem_sdiff, mem_keySet, mem_keySet, List.mem_toFinset,
      mem_removeClientSubscriptions]
    simp [removeClientSubscriptions]
  rw [returned, left]
  exact Ledger.moves_releaseAll distinct held

/-- No operation leaves an empty set. -/
theorem noEmptySet_perform (state : ServerActorState) (call : TableCall)
    (noEmpty : NoEmptySet state.marketDataSubscriptions) :
    NoEmptySet (call.perform state).1.marketDataSubscriptions := by
  cases call with
  | subscribe clientId instruments => exact noEmptySet_subscribe clientId noEmpty instruments
  | unsubscribe clientId instruments =>
      exact noEmptySet_unsubscribe clientId noEmpty instruments
  | remove clientId => exact noEmptySet_removeClientSubscriptions clientId _

/-- A call that withdraws an interest in an instrument states none. -/
theorem TableCall.interest_ne_true {call : TableCall} {client key : String}
    (withdraws : call.interest client key = some false) (other : String) :
    call.interest other key ≠ some true := by
  cases call with
  | subscribe clientId instruments =>
      simp only [TableCall.interest] at withdraws
      split at withdraws <;> simp at withdraws
  | unsubscribe | remove =>
      simp only [TableCall.interest]
      split <;> simp

/-- An instrument leaves the table with the call that withdraws the interest of each of its
subscribers. -/
theorem TableCall.left_iff {state : ServerActorState}
    (noEmpty : NoEmptySet state.marketDataSubscriptions) (call : TableCall) {key : String}
    (present : key ∈ state.marketDataSubscriptions) :
    key ∉ (call.perform state).1.marketDataSubscriptions ↔
      ∀ client ∈ subscribersOf state.marketDataSubscriptions key,
        call.interest client key = some false := by
  have remaining := subscribersOf_perform state call
  rw [mem_iff_subscribed (noEmptySet_perform state call noEmpty), not_exists]
  constructor
  · intro gone client subscribed
    have after := remaining client key
    rw [decide_eq_false (gone client), decide_eq_true subscribed] at after
    cases asked : call.interest client key with
    | none => simp [asked] at after
    | some word => simpa [asked] using after.symm
  · intro withdrawn client subscribed
    rcases (mem_iff_subscribed noEmpty key).mp present with ⟨holder, held⟩
    have after := remaining client key
    rw [decide_eq_true subscribed] at after
    by_cases before : client ∈ subscribersOf state.marketDataSubscriptions key
    · rw [withdrawn client before] at after
      contradiction
    · rw [decide_eq_false before] at after
      apply TableCall.interest_ne_true (withdrawn holder held) client
      cases asked : call.interest client key with
      | none => simp [asked] at after
      | some word => simpa [asked] using after.symm

/-- The same where there may be no call at all. -/
theorem left_iff {state : ServerActorState}
    (noEmpty : NoEmptySet state.marketDataSubscriptions) (call : Option TableCall)
    {key : String} (present : key ∈ state.marketDataSubscriptions) :
    key ∉ call.elim state.marketDataSubscriptions
        (fun call => (call.perform state).1.marketDataSubscriptions) ↔
      ∀ client ∈ subscribersOf state.marketDataSubscriptions key,
        call.bind (TableCall.interest client key) = some false := by
  cases call with
  | some call => exact call.left_iff noEmpty present
  | none =>
      rcases (mem_iff_subscribed noEmpty key).mp present with ⟨holder, held⟩
      constructor
      · intro gone
        exact absurd present gone
      · intro withdrawn
        have word := withdrawn holder held
        contradiction

/-- What a call returns leads from the instruments of the table before it to those
after it. -/
theorem moves_perform (state : ServerActorState) (call : TableCall)
    (noEmpty : NoEmptySet state.marketDataSubscriptions) :
    Ledger.Moves (call.perform state).2 (keySet state.marketDataSubscriptions)
      (keySet (call.perform state).1.marketDataSubscriptions) := by
  cases call with
  | subscribe clientId instruments => exact moves_subscribe clientId noEmpty instruments
  | unsubscribe clientId instruments => exact moves_unsubscribe clientId _ instruments
  | remove clientId => exact moves_remove clientId _

/-! ## Every run -/

theorem moves_outputs (calls : List TableCall) {state : ServerActorState}
    (noEmpty : NoEmptySet state.marketDataSubscriptions) :
    Ledger.Moves (tableMachine.outputs state calls) (keySet state.marketDataSubscriptions)
      (keySet (tableMachine.runFrom state calls).marketDataSubscriptions) := by
  induction calls generalizing state with
  | nil => exact Ledger.moves_nil _
  | cons call rest ih =>
      exact Ledger.moves_append (moves_perform state call noEmpty)
        (ih (noEmptySet_perform state call noEmpty))

theorem noEmptySet_run (calls : List TableCall) :
    NoEmptySet (tableMachine.runFrom {} calls).marketDataSubscriptions := by
  apply tableMachine.invariant_runFrom noEmptySet_perform
  exact tableReady_empty.noEmpty

/-- A client is subscribed to an instrument exactly when the last call about the two
subscribed it. -/
theorem subscribed_iff_lastWord (calls : List TableCall) (client key : String) :
    client ∈ subscribersOf (tableMachine.runFrom {} calls).marketDataSubscriptions key ↔
      lastWord (TableCall.interest client key) calls = some true := by
  have follows := tableMachine.read_runFrom
    (fun state => decide (client ∈ subscribersOf state.marketDataSubscriptions key))
    (TableCall.interest client key)
    (fun state call => subscribersOf_perform state call client key) {} calls
  apply decide_eq_true_iff.symm.trans
  rw [follows]
  cases lastWord (TableCall.interest client key) calls with
  | none => simp [subscribersOf]
  | some word => simp

/-- Over every sequence of calls no set of the table is empty, every returned instrument
changes what the exchange has subscribed at that moment, and applying all of them leaves
the instruments of the table, which are those some client subscribed last. -/
theorem exchange_deltas_exact (calls : List TableCall) :
    NoEmptySet (tableMachine.runFrom {} calls).marketDataSubscriptions ∧
      Ledger.Effective (tableMachine.outputs {} calls) ∅ ∧
      Ledger.balance (tableMachine.outputs {} calls) ∅ =
        keySet (tableMachine.runFrom {} calls).marketDataSubscriptions ∧
      ∀ key, key ∈ keySet (tableMachine.runFrom {} calls).marketDataSubscriptions ↔
        ∃ client, lastWord (TableCall.interest client key) calls = some true := by
  have moves := moves_outputs calls tableReady_empty.noEmpty
  refine ⟨noEmptySet_run calls, moves.1, moves.2, ?_⟩
  intro key
  rw [mem_keySet, mem_iff_subscribed (noEmptySet_run calls)]
  apply exists_congr
  intro client
  exact subscribed_iff_lastWord calls client key

end CtpSystem
