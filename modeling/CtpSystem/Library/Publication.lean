import Mathlib.Data.List.Basic
import Mathlib.Tactic.Common

/-!
# Deferred publication

A primary value is changed at once; the change is announced later on a FIFO channel,
from which a replica applies it.  Changes may be announced in another order than they
were made.  The replica catches up with the primary as long as a change only overtakes
changes it commutes with.
-/

namespace Reactive

universe u v

/-- A primary value, its replica, and the changes between them: those not announced
yet, oldest first, and those in the channel. -/
structure Publication (ν : Type u) (δ : Type v) where
  primary : ν
  replica : ν
  pending : List δ
  channel : List δ

namespace Publication

variable {ν : Type u} {δ : Type v}

section Steps

variable (apply : δ → ν → ν)

/-- Apply changes in order. -/
def replay (changes : List δ) (value : ν) : ν :=
  changes.foldl (fun value change => apply change value) value

/-- Two changes whose order does not matter. -/
def Commutes (first second : δ) : Prop :=
  ∀ value, apply first (apply second value) = apply second (apply first value)

/-- Change the primary; the change is yet to be announced. -/
def commit (publication : Publication ν δ) (change : δ) : Publication ν δ :=
  { publication with
    primary := apply change publication.primary
    pending := publication.pending ++ [change] }

/-- Announce the pending change of the given number. -/
def announce (publication : Publication ν δ) (number : Nat) : Publication ν δ :=
  match publication.pending[number]? with
  | none => publication
  | some change =>
      { publication with
        pending := publication.pending.eraseIdx number
        channel := publication.channel ++ [change] }

/-- Apply the next change of the channel to the replica. -/
def consume (publication : Publication ν δ) : Publication ν δ :=
  match publication.channel with
  | [] => publication
  | change :: rest =>
      { publication with replica := apply change publication.replica, channel := rest }

/-- The replica, brought up to date, is the primary. -/
def Agrees (publication : Publication ν δ) : Prop :=
  publication.primary =
    replay apply (publication.channel ++ publication.pending) publication.replica

end Steps

variable {apply : δ → ν → ν}

@[simp] theorem replay_nil (value : ν) : replay apply [] value = value := rfl

@[simp] theorem replay_cons (change : δ) (rest : List δ) (value : ν) :
    replay apply (change :: rest) value = replay apply rest (apply change value) := rfl

theorem replay_append (first second : List δ) (value : ν) :
    replay apply (first ++ second) value = replay apply second (replay apply first value) :=
  List.foldl_append

/-- A change moves in front of changes it commutes with. -/
theorem apply_replay {change : δ} {earlier : List δ}
    (independent : ∀ other ∈ earlier, Commutes apply change other) (value : ν) :
    apply change (replay apply earlier value) = replay apply earlier (apply change value) := by
  induction earlier generalizing value with
  | nil => rfl
  | cons other rest ih =>
      rw [replay_cons, replay_cons,
        ih (fun next member => independent next (List.mem_cons_of_mem other member)),
        independent other List.mem_cons_self]

theorem agrees_commit {publication : Publication ν δ}
    (agrees : publication.Agrees apply) (change : δ) :
    (publication.commit apply change).Agrees apply := by
  simp only [Agrees, commit, ← List.append_assoc]
  rw [replay_append, ← agrees]
  rfl

/-- Announcing a change that overtakes only changes it commutes with loses nothing. -/
theorem agrees_announce {publication : Publication ν δ} (agrees : publication.Agrees apply)
    {number : Nat}
    (ordered : ∀ change, publication.pending[number]? = some change →
      ∀ earlier ∈ publication.pending.take number, Commutes apply change earlier) :
    (publication.announce number).Agrees apply := by
  rw [announce]
  split
  · exact agrees
  next change present =>
    have bound := (List.getElem?_eq_some_iff.mp present).1
    have split : publication.pending =
        publication.pending.take number ++ change :: publication.pending.drop (number + 1) := by
      rw [← (List.getElem?_eq_some_iff.mp present).2, List.getElem_cons_drop,
        List.take_append_drop]
    rw [Agrees] at agrees ⊢
    simp only
    rw [agrees, List.eraseIdx_eq_take_drop_succ]
    conv_lhs => rw [split]
    simp only [List.append_assoc, replay_append, replay_cons, replay_nil]
    rw [apply_replay (ordered change present)]

theorem agrees_consume {publication : Publication ν δ}
    (agrees : publication.Agrees apply) : (publication.consume apply).Agrees apply := by
  rw [consume]
  split
  · exact agrees
  next change rest waiting =>
    rw [Agrees, waiting] at agrees
    exact agrees

/-- With nothing left to announce or apply, the replica is the primary. -/
theorem replica_eq_primary {publication : Publication ν δ}
    (agrees : publication.Agrees apply) (announced : publication.pending = [])
    (consumed : publication.channel = []) : publication.replica = publication.primary := by
  rw [Agrees, announced, consumed] at agrees
  exact agrees.symm

end Publication

end Reactive
