import DsBench.Workloads.MultiFanoutWindow
import DsBench.Workloads.SseUtil

/-! # The receive loops of the subscribers

The subscribers of the multi-fanout, the mixed and the reads workload wait for chunks in
one way, and deal with a whole event each in its own. Instants and the wall clock are
nanoseconds.
-/

namespace DsBench.Workloads

structure Reading where
  instant : Nat
  wall : Nat

/-- What the wait for the next chunk comes to. The clock gives the reading for each of the
events that the chunk completes; `quiet` is how long ago the last event then was. -/
inductive Arrival where
  | chunk (bytes : Bytes) (clock : Nat → Reading)
  | ended
  | timedOut (quiet : Nat)

/-- A pass of a receive loop: the deadline as it is sampled at the loop's head, the instant
there, and what the wait comes to. -/
structure Pass where
  dl : Option Nat
  head : Nat
  arrival : Arrival

/-- When a loop ends at its head, and when it does after a wait without a chunk. -/
structure LoopRules where
  leaves : Pass → Bool
  givesUp : Nat → Bool

structure Chunk where
  dl : Option Nat
  bytes : Bytes
  clock : Nat → Reading

structure Received where
  dl : Option Nat
  reading : Reading
  frame : Bytes

def LoopRules.chunks (rules : LoopRules) : List Pass → List Chunk
  | [] => []
  | pass :: passes =>
      if rules.leaves pass then []
      else
        match pass.arrival with
        | .chunk bytes clock => ⟨pass.dl, bytes, clock⟩ :: rules.chunks passes
        | .ended => []
        | .timedOut quiet => if rules.givesUp quiet then [] else rules.chunks passes

/-- The events that the chunks complete after the bytes `buf`, in order. -/
def receivedAfter (buf : Bytes) : List Chunk → List Received
  | [] => []
  | chunk :: chunks =>
      let drained := eventFraming.drain (buf ++ chunk.bytes)
      drained.1.mapIdx (fun index frame => ⟨chunk.dl, chunk.clock index, frame⟩) ++
        receivedAfter drained.2 chunks

def LoopRules.received (rules : LoopRules) (passes : List Pass) : List Received :=
  receivedAfter [] (rules.chunks passes)

def LoopRules.bytes (rules : LoopRules) (passes : List Pass) : Bytes :=
  ((rules.chunks passes).map Chunk.bytes).flatten

/-- The head and the wait of the multi-fanout and of the mixed loop: two seconds past the
deadline, or too long without an event. -/
def subscriberRules (idle : Nat) : LoopRules where
  leaves pass := pass.dl.any fun deadline =>
    decide (deadline + MultiFanout.seconds 2 ≤ pass.head)
  givesUp quiet := decide (idle < quiet)

/-- The head and the wait of the reads loop: the deadline, or any wait without a chunk. -/
def readerRules (deadline : Nat) : LoopRules where
  leaves pass := decide (deadline ≤ pass.head)
  givesUp _ := true

/-! ## Events in a byte stream -/

theorem receivedAfter_frames {buf : Bytes} (ended : eventFraming.frameEnd buf = none)
    (chunks : List Chunk) :
    (receivedAfter buf chunks).map Received.frame =
      (eventFraming.drain (buf ++ (chunks.map Chunk.bytes).flatten)).1 := by
  induction chunks generalizing buf with
  | nil =>
      rw [receivedAfter, List.map_nil, List.map_nil, List.flatten_nil, List.append_nil,
        Framing.drain_of_none ended]
  | cons chunk chunks induction =>
      have leftover : eventFraming.frameEnd
          (eventFraming.drain (buf ++ chunk.bytes)).2 = none :=
        Framing.frameEnd_leftover _
      have here : ∀ frames : List Bytes, (frames.mapIdx fun index frame =>
          (⟨chunk.dl, chunk.clock index, frame⟩ : Received)).map Received.frame = frames := by
        intro frames
        apply List.ext_getElem?
        intro index
        cases found : frames[index]? <;> simp [found]
      have onwards : eventFraming.drain
          (buf ++ chunk.bytes ++ (chunks.map Chunk.bytes).flatten) =
            eventFraming.receiveChunk (eventFraming.drain (buf ++ chunk.bytes))
              (chunks.map Chunk.bytes).flatten :=
        Framing.drain_append _ _
      rw [List.map_cons, List.flatten_cons, ← List.append_assoc, onwards, receivedAfter,
        List.map_append, here, induction leftover, Framing.receiveChunk]

theorem LoopRules.received_frames (rules : LoopRules) (passes : List Pass) :
    (rules.received passes).map Received.frame =
      (eventFraming.drain (rules.bytes passes)).1 := by
  have nothing : eventFraming.frameEnd [] = none := rfl
  exact receivedAfter_frames nothing _

theorem blankLine_inside {body other rest after : Bytes}
    (same : body ++ (blankLine ++ rest) = other ++ (blankLine ++ after))
    (shorter : body.length < other.length) : blankLine <:+: other ++ [lineFeed] := by
  have early : body ++ blankLine <+: body ++ (blankLine ++ rest) := by
    rw [← List.append_assoc]
    exact List.prefix_append _ rest
  have late : other ++ [lineFeed] <+: body ++ (blankLine ++ rest) := by
    have shape : other ++ (blankLine ++ after) =
        (other ++ [lineFeed]) ++ ([lineFeed] ++ after) := by
      simp [blankLine]
    rw [same, shape]
    exact List.prefix_append _ _
  have nested : body ++ blankLine <+: other ++ [lineFeed] := by
    apply List.prefix_of_prefix_length_le early late
    simp only [List.length_append, blankLine, List.length_cons, List.length_nil]
    omega
  exact (List.suffix_append body blankLine).isInfix.trans nested.isInfix

theorem frameEnd_event {frame : Bytes} (whole : IsEvent frame) (rest : Bytes) :
    eventFraming.frameEnd (frame ++ rest) = some frame.length := by
  rcases whole with ⟨body, shape, first⟩
  have inside : blankLine <:+: frame ++ rest := by
    rw [shape]
    exact List.infix_append body blankLine rest
  cases found : findEventEnd (frame ++ rest) with
  | none => exact ((findEventEnd_none_iff _).mp found inside).elim
  | some idx =>
      rcases findEventEnd_some found with ⟨other, after, split, position, earliest⟩
      have same : body.length = other.length := by
        rw [shape, List.append_assoc] at split
        rcases Nat.lt_trichotomy body.length other.length with shorter | same | longer
        · exact (earliest (blankLine_inside split shorter)).elim
        · exact same
        · exact (first (blankLine_inside split.symm longer)).elim
      have length : idx + 2 = frame.length := by
        rw [position, shape, List.length_append, same]
        rfl
      exact Option.map_eq_some_iff.mpr ⟨idx, found, length⟩

theorem drain_events {frames : List Bytes} (whole : ∀ frame ∈ frames, IsEvent frame)
    {cut : Bytes} (unfinished : ¬ blankLine <:+: cut) :
    eventFraming.drain (frames.flatten ++ cut) = (frames, cut) := by
  induction frames with
  | nil =>
      rw [List.flatten_nil, List.nil_append]
      apply Framing.drain_of_none
      exact Option.map_eq_none_iff.mpr ((findEventEnd_none_iff cut).mpr unfinished)
  | cons frame frames induction =>
      have first := frameEnd_event (whole frame List.mem_cons_self) (frames.flatten ++ cut)
      have others := induction fun other member => whole other (List.mem_cons_of_mem _ member)
      rw [List.flatten_cons, List.append_assoc, Framing.drain_of_some first,
        List.take_left, List.drop_left, others]

theorem LoopRules.received_events {rules : LoopRules} {passes : List Pass}
    {frames : List Bytes} (whole : ∀ frame ∈ frames, IsEvent frame) {cut : Bytes}
    (unfinished : ¬ blankLine <:+: cut)
    (arrives : rules.bytes passes = frames.flatten ++ cut) :
    (rules.received passes).map Received.frame = frames := by
  rw [rules.received_frames, arrives, drain_events whole unfinished]

end DsBench.Workloads
