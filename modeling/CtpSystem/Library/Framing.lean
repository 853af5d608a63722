import Mathlib.Data.List.Basic
import Mathlib.Data.List.Flatten
import Mathlib.Tactic.Common

/-!
# Self-delimiting frames

A framing writes each payload as a frame and reads one frame off the front of a stream.
What a reader gets from the start of a stream of frames, wherever that start is cut, are
the first payloads and nothing else.
-/

namespace Reactive

universe u v

/-- Frames over a stream of `β`s for those payloads that fit. -/
structure Framing (β : Type u) (γ : Type v) where
  frame : γ → List β
  read : List β → Option (γ × List β)
  fits : γ → Prop
  read_nil : read [] = none
  read_frame : ∀ payload rest, fits payload → read (frame payload ++ rest) = some (payload, rest)
  read_cut : ∀ payload bytes, fits payload → bytes <+: frame payload →
    bytes ≠ frame payload → read bytes = none

namespace Framing

variable {β : Type u} {γ : Type v} (framing : Framing β γ)

/-- The payloads read in so many attempts; a reader that finds no frame reads no more. -/
def reads : Nat → List β → List γ
  | 0, _ => []
  | count + 1, bytes =>
      match framing.read bytes with
      | none => []
      | some (payload, rest) => payload :: reads count rest

/-- The stream of a list of payloads. -/
def stream (payloads : List γ) : List β :=
  payloads.flatMap framing.frame

@[simp] theorem stream_nil : framing.stream [] = [] := rfl

@[simp] theorem stream_cons (payload : γ) (payloads : List γ) :
    framing.stream (payload :: payloads) = framing.frame payload ++ framing.stream payloads :=
  rfl

@[simp] theorem stream_append (earlier later : List γ) :
    framing.stream (earlier ++ later) = framing.stream earlier ++ framing.stream later :=
  List.flatMap_append

theorem reads_eq_nil {bytes : List β} (silent : framing.read bytes = none) (count : Nat) :
    framing.reads count bytes = [] := by
  cases count with
  | zero => rfl
  | succ count => simp only [reads, silent]

/-- A stream of frames followed by something no reader gets a frame from, cut anywhere,
reads as the first payloads. -/
theorem reads_within {payloads : List γ} {cut bytes : List β}
    (fits : ∀ payload ∈ payloads, framing.fits payload)
    (silent : ∀ start, start <+: cut → framing.read start = none)
    (within : bytes <+: framing.stream payloads ++ cut) (count : Nat) :
    framing.reads count bytes <+: payloads := by
  induction payloads generalizing bytes count with
  | nil =>
      have nothing := framing.reads_eq_nil (silent bytes within) count
      simp only [nothing, List.nil_prefix]
  | cons payload payloads ih =>
      have fitting := fits payload List.mem_cons_self
      rw [stream_cons, List.append_assoc] at within
      rcases List.prefix_or_prefix_of_prefix within (List.prefix_append _ _) with short | long
      · by_cases whole : bytes = framing.frame payload
        · cases count with
          | zero => exact List.nil_prefix
          | succ count =>
              have read := framing.read_frame payload [] fitting
              rw [List.append_nil, ← whole] at read
              simp only [reads, read, framing.reads_eq_nil framing.read_nil]
              exact ⟨payloads, rfl⟩
        · rw [framing.reads_eq_nil (framing.read_cut payload bytes fitting short whole)]
          exact List.nil_prefix
      · rcases long with ⟨rest, rfl⟩
        cases count with
        | zero => exact List.nil_prefix
        | succ count =>
            simp only [reads, framing.read_frame payload rest fitting,
              List.cons_prefix_cons, true_and]
            exact ih (fun other member => fits other (List.mem_cons_of_mem payload member))
              ((List.prefix_append_right_inj _).mp within) count

/-- Nothing is read from the start of a frame. -/
theorem silent_of_cut {payload : γ} {cut : List β} (fits : framing.fits payload)
    (within : cut <+: framing.frame payload) (short : cut ≠ framing.frame payload)
    (start : List β) (before : start <+: cut) : framing.read start = none := by
  apply framing.read_cut payload start fits (before.trans within)
  rintro rfl
  exact short (within.eq_of_length_le before.length_le)

/-- The payloads whose frames lie in so many of the first elements of the stream. -/
def completed : List γ → Nat → List γ
  | [], _ => []
  | payload :: payloads, cut =>
      if (framing.frame payload).length ≤ cut then
        payload :: completed payloads (cut - (framing.frame payload).length)
      else []

/-- Nothing is read from nothing. -/
theorem silent_of_nil (start : List β) (before : start <+: []) :
    framing.read start = none := by
  rw [List.prefix_nil.mp before, framing.read_nil]

end Framing

/-! ## Chunks -/

/-- Take so many elements off chunks, as long as there are enough: a chunk is used up before
the next one, and what is left of the last one stays. -/
def takeChunks {β : Type u} : Nat → List (List β) → Option (List β × List (List β))
  | 0, chunks => some ([], chunks)
  | _ + 1, [] => none
  | count + 1, chunk :: chunks =>
      if count + 1 ≤ chunk.length then
        some (chunk.take (count + 1), chunk.drop (count + 1) :: chunks)
      else
        (takeChunks (count + 1 - chunk.length) chunks).map fun taken =>
          (chunk ++ taken.1, taken.2)

/-- How a stream is cut into chunks does not matter to what is taken off it. -/
theorem takeChunks_flatten {β : Type u} (count : Nat) (chunks : List (List β)) :
    (takeChunks count chunks).map (fun taken => (taken.1, taken.2.flatten)) =
      if count ≤ chunks.flatten.length then
        some (chunks.flatten.take count, chunks.flatten.drop count)
      else none := by
  induction chunks generalizing count with
  | nil => cases count <;> simp [takeChunks]
  | cons chunk chunks ih =>
      cases count with
      | zero => simp [takeChunks]
      | succ count =>
          rw [takeChunks, List.flatten_cons, List.length_append]
          by_cases enough : count + 1 ≤ chunk.length
          · have within : count + 1 - chunk.length = 0 := Nat.sub_eq_zero_of_le enough
            rw [if_pos enough, if_pos (Nat.le_add_right_of_le enough), List.take_append,
              List.drop_append, within]
            simp
          · have short := Nat.le_of_not_le enough
            have split : count + 1 ≤ chunk.length + chunks.flatten.length ↔
                count + 1 - chunk.length ≤ chunks.flatten.length := by omega
            have later := congrArg (Option.map fun taken => (chunk ++ taken.1, taken.2))
              (ih (count + 1 - chunk.length))
            rw [Option.map_map] at later
            rw [if_neg enough, Option.map_map, List.take_append, List.drop_append,
              List.take_of_length_le short, List.drop_of_length_le short, List.nil_append]
            simp only [split]
            refine later.trans ?_
            split_ifs <;> rfl

theorem takeChunks_of_short {β : Type u} {count : Nat} {chunks : List (List β)}
    (short : chunks.flatten.length < count) : takeChunks count chunks = none := by
  have taken := takeChunks_flatten count chunks
  rwa [if_neg (Nat.not_le.mpr short), Option.map_eq_none_iff] at taken

theorem takeChunks_append {β : Type u} {chunks : List (List β)} {taken more : List β}
    (whole : chunks.flatten = taken ++ more) :
    ∃ rest, takeChunks taken.length chunks = some (taken, rest) ∧ rest.flatten = more := by
  have found := takeChunks_flatten taken.length chunks
  rw [whole, List.length_append, if_pos (Nat.le_add_right _ _), List.take_left, List.drop_left,
    Option.map_eq_some_iff] at found
  rcases found with ⟨⟨same, rest⟩, found, equal⟩
  cases equal
  exact ⟨rest, found, rfl⟩

/-! ## Streams side by side -/

/-- An ordered list ends with its entries of the greatest key. -/
theorem filter_append_of_sorted {γ : Type v} (entries : List (Nat × γ)) (bound : Nat)
    (sorted : entries.Pairwise (fun earlier later => earlier.1 ≤ later.1))
    (bounded : ∀ entry ∈ entries, entry.1 ≤ bound) :
    entries.filter (·.1 < bound) ++ entries.filter (·.1 = bound) = entries := by
  induction entries with
  | nil => rfl
  | cons entry entries ih =>
      rw [List.pairwise_cons] at sorted
      have later := ih sorted.2 fun other member => bounded other (List.mem_cons_of_mem _ member)
      rcases Nat.lt_or_eq_of_le (bounded entry List.mem_cons_self) with below | top
      · simpa [below, Nat.ne_of_lt below] using later
      · have low : entries.filter (·.1 < bound) = [] := by
          rw [List.filter_eq_nil_iff]
          intro other member
          have above := sorted.1 other member
          simp only [decide_eq_true_eq, Nat.not_lt]
          omega
        rw [low, List.nil_append] at later
        simp [top, low, later]

/-- A list ordered by a key is put together from its parts for each key. -/
theorem flatMap_filter_of_sorted {γ : Type v} (entries : List (Nat × γ)) (bound : Nat)
    (sorted : entries.Pairwise (fun earlier later => earlier.1 ≤ later.1))
    (bounded : ∀ entry ∈ entries, entry.1 < bound) :
    (List.range bound).flatMap (fun key => entries.filter (·.1 = key)) = entries := by
  induction bound generalizing entries with
  | zero =>
      cases entries with
      | nil => rfl
      | cons entry entries => exact absurd (bounded entry List.mem_cons_self) (Nat.not_lt_zero _)
  | succ bound ih =>
      have below : ∀ key ∈ List.range bound, entries.filter (·.1 = key) =
          (entries.filter (·.1 < bound)).filter (·.1 = key) := by
        intro key member
        have less := List.mem_range.mp member
        rw [List.filter_filter]
        apply List.filter_congr
        intro entry _
        by_cases same : entry.1 = key <;> simp [same, less]
      have low := ih (entries.filter (·.1 < bound)) (sorted.filter _) (by simp)
      rw [List.range_succ, List.flatMap_append, List.flatMap_congr below, low]
      simpa using filter_append_of_sorted entries bound sorted
        (fun entry member => Nat.le_of_lt_succ (bounded entry member))

end Reactive
