import Mathlib.Data.List.Basic

/-! # Framing a stream

A receiver appends what arrives to a buffer and splits off every frame that is whole. If
a frame that has ended stays ended whatever follows, the frames do not depend on how the
stream was cut into chunks.
-/

namespace DsBench

/-- Where the first frame of a buffer ends, if it has ended. -/
structure Framing (Symbol : Type u) where
  frameEnd : List Symbol → Option Nat
  positive : ∀ {buffer length}, frameEnd buffer = some length → 0 < length
  within : ∀ {buffer length}, frameEnd buffer = some length → length ≤ buffer.length
  stable : ∀ {buffer length} more, frameEnd buffer = some length →
    frameEnd (buffer ++ more) = some length

namespace Framing

variable {Symbol : Type u} (framing : Framing Symbol)

/-- Split off frames as long as there is one: the frames and what is left of the buffer. -/
def drain (buffer : List Symbol) : List (List Symbol) × List Symbol :=
  match _found : framing.frameEnd buffer with
  | none => ([], buffer)
  | some length =>
      let rest := drain (buffer.drop length)
      (buffer.take length :: rest.1, rest.2)
termination_by buffer.length
decreasing_by
  have positive := framing.positive _found
  have within := framing.within _found
  rw [List.length_drop]
  omega

def receiveChunk (state : List (List Symbol) × List Symbol) (chunk : List Symbol) :
    List (List Symbol) × List Symbol :=
  let drained := framing.drain (state.2 ++ chunk)
  (state.1 ++ drained.1, drained.2)

def receive (chunks : List (List Symbol)) : List (List Symbol) × List Symbol :=
  chunks.foldl framing.receiveChunk ([], [])

variable {framing} {buffer : List Symbol} {length : Nat}

theorem drain_of_none (ended : framing.frameEnd buffer = none) :
    framing.drain buffer = ([], buffer) := by
  rw [drain]
  split
  · rfl
  · rename_i found
    rw [ended] at found
    cases found

theorem drain_of_some (ended : framing.frameEnd buffer = some length) :
    framing.drain buffer =
      (buffer.take length :: (framing.drain (buffer.drop length)).1,
        (framing.drain (buffer.drop length)).2) := by
  rw [drain]
  split
  · rename_i found
    rw [ended] at found
    cases found
  · rename_i other found
    rw [ended] at found
    cases found
    rfl

theorem frameEnd_leftover (buffer : List Symbol) :
    framing.frameEnd (framing.drain buffer).2 = none := by
  induction buffer using drain.induct framing with
  | case1 buffer ended =>
      rw [drain_of_none ended]
      exact ended
  | case2 buffer length ended induction =>
      rw [drain_of_some ended]
      exact induction

theorem flatten_drain (buffer : List Symbol) :
    (framing.drain buffer).1.flatten ++ (framing.drain buffer).2 = buffer := by
  induction buffer using drain.induct framing with
  | case1 buffer ended =>
      rw [drain_of_none ended]
      rfl
  | case2 buffer length ended induction =>
      rw [drain_of_some ended, List.flatten_cons, List.append_assoc, induction,
        List.take_append_drop]

theorem forall_mem_drain {Whole : List Symbol → Prop}
    (whole : ∀ buffer length, framing.frameEnd buffer = some length →
      Whole (buffer.take length)) (buffer : List Symbol) :
    ∀ frame ∈ (framing.drain buffer).1, Whole frame := by
  induction buffer using drain.induct framing with
  | case1 buffer ended =>
      rw [drain_of_none ended]
      intro frame member
      cases member
  | case2 buffer length ended induction =>
      rw [drain_of_some ended]
      intro frame member
      rcases List.mem_cons.mp member with first | later
      · rw [first]
        exact whole buffer length ended
      · exact induction frame later

theorem drain_append (buffer more : List Symbol) :
    framing.drain (buffer ++ more) =
      framing.receiveChunk (framing.drain buffer) more := by
  rw [receiveChunk]
  induction buffer using drain.induct framing with
  | case1 buffer ended =>
      rw [drain_of_none ended]
      rfl
  | case2 buffer length ended induction =>
      have within := framing.within ended
      rw [drain_of_some ended, drain_of_some (framing.stable more ended),
        List.take_append_of_le_length within, List.drop_append_of_le_length within, induction]
      rfl

/-- The frames and the leftover are those of the stream in one piece. -/
theorem receive_eq_drain (chunks : List (List Symbol)) :
    framing.receive chunks = framing.drain chunks.flatten := by
  have empty : framing.drain [] = ([], []) := by
    apply drain_of_none
    cases found : framing.frameEnd [] with
    | none => rfl
    | some length =>
        have positive := framing.positive found
        have within := framing.within found
        rw [List.length_nil] at within
        omega
  have onwards : ∀ received,
      chunks.foldl framing.receiveChunk (framing.drain received) =
        framing.drain (received ++ chunks.flatten) := by
    induction chunks with
    | nil =>
        intro received
        rw [List.flatten_nil, List.append_nil]
        rfl
    | cons chunk chunks induction =>
        intro received
        rw [List.foldl_cons, ← drain_append, induction, List.append_assoc, List.flatten_cons]
  rw [receive, ← empty, onwards, List.nil_append]

end Framing

end DsBench
