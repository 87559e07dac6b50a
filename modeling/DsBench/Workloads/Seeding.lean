import DsBench.Foundation.Crew
import Mathlib.Algebra.BigOperators.Ring.Finset
import Mathlib.Algebra.Order.BigOperators.Group.Finset

/-! # Seeding under a fleet

Every pod of the catch-up workload goes through the streams in turn: it probes how much a
stream holds and appends what it finds missing. The probe and the appends are single
steps at the server, and the pods' steps come in any order.
-/

namespace DsBench.Workloads.Seeding

structure SeedArgs where
  streams : Nat
  seedBytes : Nat
  recordBytes : Nat

/-- `usize::div_ceil`. -/
def divCeil (value unit : Nat) : Nat :=
  if 0 < value % unit then value / unit + 1 else value / unit

/-- How many records `ensure_seeded` appends after a probe of `currentBytes`. -/
def recordCount (args : SeedArgs) (currentBytes : Nat) : Nat :=
  if args.seedBytes = 0 then 0
  else if args.seedBytes ≤ currentBytes then 0
  else divCeil (args.seedBytes - currentBytes) (max args.recordBytes 1)

/-- The bytes the server holds of each stream, and the history of the seeding beside
them: the records planned and made so far, and whether a probe ever came while planned
records were still to be made. -/
structure Server where
  size : Nat → Nat
  planned : Nat → Nat
  made : Nat → Nat
  overlapped : Nat → Bool

namespace Server

def empty : Server := ⟨fun _ => 0, fun _ => 0, fun _ => 0, fun _ => false⟩

/-- A probe of a stream after which a pod plans `count` records. -/
def probed (server : Server) (stream count : Nat) : Server :=
  { server with
    planned := Function.update server.planned stream (server.planned stream + count)
    overlapped := Function.update server.overlapped stream
      (server.overlapped stream || decide (server.made stream < server.planned stream)) }

def appended (server : Server) (stream bytes : Nat) : Server :=
  { server with
    size := Function.update server.size stream (server.size stream + bytes)
    made := Function.update server.made stream (server.made stream + 1) }

end Server

/-- The stream a pod is at and the appends to it that it has still to make. With none
left it is about to probe. -/
structure Pod where
  stream : Nat
  outstanding : Nat
deriving DecidableEq, Repr

namespace Pod

/-- A pod that goes on to the next stream if nothing is left of this one. -/
def goOn (stream left : Nat) : Pod := if left = 0 then ⟨stream + 1, 0⟩ else ⟨stream, left⟩

def Begun (stream : Nat) (pod : Pod) : Prop :=
  stream < pod.stream ∨ pod.stream = stream ∧ 0 < pod.outstanding

def outstandingAt (stream : Nat) (pod : Pod) : Nat :=
  if pod.stream = stream then pod.outstanding else 0

@[simp] theorem goOn_begun (stream other left : Nat) :
    (goOn other left).Begun stream ↔ stream ≤ other := by
  rw [goOn, Begun]
  split <;> grind

@[simp] theorem goOn_outstandingAt (stream other left : Nat) :
    (goOn other left).outstandingAt stream = if other = stream then left else 0 := by
  rw [goOn, outstandingAt]
  split <;> grind

@[simp] theorem outstandingAt_own (pod : Pod) :
    pod.outstandingAt pod.stream = pod.outstanding := if_pos rfl

theorem outstandingAt_other {pod : Pod} {stream : Nat} (other : pod.stream ≠ stream) :
    pod.outstandingAt stream = 0 := if_neg other

end Pod

def request (args : SeedArgs) (server : Server) (pod : Pod) : Option (Server × Pod) :=
  if pod.stream < args.streams then
    match pod.outstanding with
    | 0 =>
        let count := recordCount args (server.size pod.stream)
        some (server.probed pod.stream count, .goOn pod.stream count)
    | left + 1 =>
        some (server.appended pod.stream args.recordBytes, .goOn pod.stream left)
  else none

def fleet (args : SeedArgs) (pods : Nat) : TransitionSystem (Server × (Fin pods → Pod)) :=
  crew (fun _ server pod (_ : Unit) => request args server pod) (.empty, fun _ => ⟨0, 0⟩)

/-! ## One request -/

section

variable {args : SeedArgs} {server : Server} {pod : Pod} {next : Server × Pod}

theorem request_cases (done : request args server pod = some next) :
    (pod.outstanding = 0 ∧
      next = (server.probed pod.stream (recordCount args (server.size pod.stream)),
        .goOn pod.stream (recordCount args (server.size pod.stream)))) ∨
    ∃ left, pod.outstanding = left + 1 ∧
      next = (server.appended pod.stream args.recordBytes, .goOn pod.stream left) := by
  rw [request] at done
  split at done
  · cases outstanding : pod.outstanding with
    | zero =>
        rw [outstanding] at done
        cases done
        exact .inl ⟨rfl, rfl⟩
    | succ left =>
        rw [outstanding] at done
        cases done
        exact .inr ⟨left, rfl, rfl⟩
  · cases done

theorem divCeil_bounds (value : Nat) {unit : Nat} (positive : 0 < unit) :
    value ≤ divCeil value unit * unit ∧ divCeil value unit * unit < value + unit := by
  have whole := Nat.div_add_mod value unit
  have small := Nat.mod_lt value positive
  rw [Nat.mul_comm] at whole
  rw [divCeil]
  split
  · rw [Nat.succ_mul]
    omega
  · omega

theorem recordCount_empty (seeds : 0 < args.seedBytes) (records : 1 ≤ args.recordBytes) :
    args.seedBytes ≤ recordCount args 0 * args.recordBytes ∧
      recordCount args 0 * args.recordBytes < args.seedBytes + args.recordBytes := by
  rw [recordCount, if_neg (by omega), if_neg (by omega), max_eq_left records, Nat.sub_zero]
  exact divCeil_bounds args.seedBytes records

theorem recordCount_enough {currentBytes : Nat} (enough : args.seedBytes ≤ currentBytes) :
    recordCount args currentBytes = 0 := by
  simp [recordCount, enough]

theorem recordCount_short {currentBytes : Nat} (records : 1 ≤ args.recordBytes)
    (short : currentBytes < args.seedBytes) : 0 < recordCount args currentBytes := by
  rw [recordCount, if_neg (by omega), if_neg (by omega), max_eq_left records]
  have bounds := divCeil_bounds (args.seedBytes - currentBytes) records
  apply Nat.pos_of_ne_zero
  intro none_planned
  rw [none_planned] at bounds
  omega

theorem request_conserves (stream : Nat) (done : request args server pod = some next) :
    ((next.1.made stream : ℤ) - next.1.planned stream) + next.2.outstandingAt stream =
      ((server.made stream : ℤ) - server.planned stream) + pod.outstandingAt stream := by
  rcases request_cases done with ⟨none_left, result⟩ | ⟨left, outstanding, result⟩
  · subst result
    by_cases own : pod.stream = stream
    · subst own
      simp [Server.probed, none_left]
      omega
    · have other : stream ≠ pod.stream := fun same => own same.symm
      simp [Server.probed, Pod.outstandingAt_other own, own, other]
  · subst result
    by_cases own : pod.stream = stream
    · subst own
      simp [Server.appended, outstanding]
      omega
    · have other : stream ≠ pod.stream := fun same => own same.symm
      simp [Server.appended, Pod.outstandingAt_other own, own, other]

end

/-! ## One stream's history -/

/-- The records planned for a stream are those of one pod as long as no probe came too
early, and more from then on. -/
structure History (args : SeedArgs) (stream : Nat) (server : Server) (begun : Prop) :
    Prop where
  sized : server.size stream = server.made stream * args.recordBytes
  untouched : ¬ begun → server.planned stream = 0
  alone : begun → server.overlapped stream = false →
    server.planned stream = recordCount args 0
  crowded : server.overlapped stream = true → recordCount args 0 < server.planned stream

namespace History

variable {args : SeedArgs} {server : Server} {stream : Nat} {begun : Prop}

/-- A probe that comes when everything planned is made plans the records of an empty
stream if it is the first, and none if not. One that comes earlier plans some. -/
theorem probed (seeds : 0 < args.seedBytes) (records : 1 ≤ args.recordBytes)
    (history : History args stream server begun)
    (le : server.made stream ≤ server.planned stream) :
    History args stream
      (server.probed stream (recordCount args (server.size stream))) True := by
  have bounds := recordCount_empty seeds records
  rcases Nat.lt_or_eq_of_le le with early | complete
  · have started : begun := by
      by_contra never
      rw [history.untouched never] at early
      omega
    have more : recordCount args 0 <
        server.planned stream + recordCount args (server.size stream) := by
      cases overlapped : server.overlapped stream with
      | true => exact Nat.lt_add_right _ (history.crowded overlapped)
      | false =>
          have planned := history.alone started overlapped
          have missing : (server.made stream + 1) * args.recordBytes ≤
              recordCount args 0 * args.recordBytes :=
            Nat.mul_le_mul_right _ (by omega)
          rw [Nat.succ_mul, ← history.sized] at missing
          have short : server.size stream < args.seedBytes := by omega
          have plans := recordCount_short records short
          omega
    refine ⟨history.sized, fun never => (never trivial).elim, ?_, ?_⟩
    · intro _ on_time
      simp [Server.probed, early] at on_time
    · intro _
      simpa [Server.probed] using more
  · have flag : (server.probed stream (recordCount args (server.size stream))).overlapped
        stream = server.overlapped stream := by
      simp [Server.probed, complete]
    have plan : (server.probed stream (recordCount args (server.size stream))).planned
        stream = server.planned stream + recordCount args (server.size stream) := by
      simp [Server.probed]
    refine ⟨history.sized, fun never => (never trivial).elim, ?_, ?_⟩
    · intro _ on_time
      rw [flag] at on_time
      rw [plan]
      by_cases started : begun
      · have planned := history.alone started on_time
        have enough : args.seedBytes ≤ server.size stream := by
          rw [history.sized, complete, planned]
          exact bounds.1
        rw [planned, recordCount_enough enough, Nat.add_zero]
      · have nothing := history.untouched started
        have empty : server.size stream = 0 := by
          rw [history.sized, complete, nothing, Nat.zero_mul]
        rw [nothing, empty, Nat.zero_add]
    · intro crowd
      rw [flag] at crowd
      rw [plan]
      exact Nat.lt_add_right _ (history.crowded crowd)

theorem appended (history : History args stream server begun) :
    History args stream (server.appended stream args.recordBytes) begun := by
  refine ⟨?_, history.untouched, history.alone, history.crowded⟩
  simp [Server.appended, history.sized, Nat.succ_mul]

theorem probed_other {other : Nat} (different : other ≠ stream) (count : Nat)
    (history : History args stream server begun) :
    History args stream (server.probed other count) begun := by
  have away : stream ≠ other := different.symm
  rcases history with ⟨sized, untouched, alone, crowded⟩
  exact ⟨sized, by simpa [Server.probed, away] using untouched,
    by simpa [Server.probed, away] using alone,
    by simpa [Server.probed, away] using crowded⟩

theorem appended_other {other : Nat} (different : other ≠ stream)
    (history : History args stream server begun) :
    History args stream (server.appended other args.recordBytes) begun := by
  have away : stream ≠ other := different.symm
  refine ⟨?_, history.untouched, history.alone, history.crowded⟩
  simpa [Server.appended, away] using history.sized

end History

/-! ## A fleet's run -/

section

variable {args : SeedArgs} {pods : Nat} {state : Server × (Fin pods → Pod)}

def account (stream : Nat) (state : Server × (Fin pods → Pod)) : ℤ :=
  total (fun server => (server.made stream : ℤ) - server.planned stream)
    (fun pod => (pod.outstandingAt stream : ℤ)) state

def SomeBegun (stream : Nat) (state : Server × (Fin pods → Pod)) : Prop :=
  ∃ pod, (state.2 pod).Begun stream

/-- What every state keeps of one stream: what is outstanding at the pods is what is
planned and not made, and the history is that of a stream with one planner as long as no
probe came too early. -/
structure Kept (args : SeedArgs) (stream : Nat) (state : Server × (Fin pods → Pod)) :
    Prop where
  counted : account stream state = 0
  history : History args stream state.1 (SomeBegun stream state)

theorem account_eq (stream : Nat) (state : Server × (Fin pods → Pod)) :
    account stream state = (state.1.made stream : ℤ) - state.1.planned stream +
      ((∑ pod, (state.2 pod).outstandingAt stream : Nat) : ℤ) := by
  rw [account, total, Nat.cast_sum]

theorem Kept.made_le {stream : Nat} (kept : Kept args stream state) :
    state.1.made stream ≤ state.1.planned stream := by
  have counted := kept.counted
  rw [account_eq] at counted
  omega

theorem someBegun_update (stream : Nat) (server : Server) (mover : Fin pods) (left : Nat) :
    SomeBegun stream (server, Function.update state.2 mover
        (.goOn (state.2 mover).stream left)) ↔
      SomeBegun stream state ∨ (state.2 mover).stream = stream := by
  constructor
  · intro begun
    rcases begun with ⟨pod, begun⟩
    dsimp only at begun
    by_cases own : pod = mover
    · subst own
      rw [Function.update_self, Pod.goOn_begun] at begun
      rcases Nat.lt_or_eq_of_le begun with past | here
      · exact .inl ⟨pod, .inl past⟩
      · exact .inr here.symm
    · rw [Function.update_of_ne own] at begun
      exact .inl ⟨pod, begun⟩
  · intro before
    rcases before with ⟨pod, begun⟩ | here
    · refine ⟨pod, ?_⟩
      dsimp only
      by_cases own : pod = mover
      · subst own
        rw [Function.update_self, Pod.goOn_begun]
        rcases begun with past | here
        · exact past.le
        · exact here.1.ge
      · rw [Function.update_of_ne own]
        exact begun
    · refine ⟨mover, ?_⟩
      dsimp only
      rw [Function.update_self, Pod.goOn_begun]
      exact here.ge

theorem fleet_kept (seeds : 0 < args.seedBytes) (records : 1 ≤ args.recordBytes)
    (stream : Nat) : (fleet args pods).Invariant (Kept args stream) where
  initially := by
    intro state initial
    cases initial
    refine ⟨by simp [account, total, Server.empty, Pod.outstandingAt], ?_⟩
    refine ⟨by simp [Server.empty], fun _ => rfl, ?_, ?_⟩
    · intro begun
      rcases begun with ⟨pod, past | planning⟩
      · exact (Nat.not_lt_zero _ past).elim
      · exact (Nat.lt_irrefl 0 planning.2).elim
    · intro crowd
      cases crowd
  preserved := by
    intro before after kept step
    have counted : account stream after = 0 := by
      rw [← kept.counted]
      exact crew_step_conserves (fun _ _ _ _ _ done => request_conserves stream done) step
    refine ⟨counted, ?_⟩
    have history := kept.history
    rcases crew_step_iff.mp step with ⟨mover, _, next, done, result⟩
    rw [← result]
    rcases request_cases done with ⟨_, probe⟩ | ⟨left, outstanding, append⟩
    · rw [probe, someBegun_update]
      by_cases own : (before.2 mover).stream = stream
      · rw [own, eq_true rfl, or_true]
        exact history.probed seeds records kept.made_le
      · rw [eq_false own, or_false]
        exact history.probed_other own _
    · rw [append, someBegun_update]
      by_cases own : (before.2 mover).stream = stream
      · have begun : SomeBegun stream before := ⟨mover, .inr ⟨own, by omega⟩⟩
        rw [own, eq_true rfl, or_true, ← eq_true begun]
        exact history.appended
      · rw [eq_false own, or_false]
        exact history.appended_other own

/-- Planned records are left to be made exactly while a pod has appends outstanding. -/
theorem made_lt_iff {stream : Nat} (counted : account stream state = 0) :
    state.1.made stream < state.1.planned stream ↔
      ∃ pod, 0 < (state.2 pod).outstandingAt stream := by
  rw [account_eq] at counted
  constructor
  · intro left
    by_contra nobody
    have none_left : ∑ pod, (state.2 pod).outstandingAt stream = 0 := by
      apply Finset.sum_eq_zero
      intro pod _
      apply Nat.eq_zero_of_not_pos
      intro some_left
      exact nobody ⟨pod, some_left⟩
    omega
  · intro somebody
    rcases somebody with ⟨pod, some_left⟩
    have positive : 0 < ∑ pod, (state.2 pod).outstandingAt stream :=
      Finset.sum_pos' (fun _ _ => Nat.zero_le _) ⟨pod, Finset.mem_univ pod, some_left⟩
    omega

theorem Kept.finished {stream : Nat} (kept : Kept args stream state)
    (inside : stream < args.streams)
    (finished : ∀ pod, args.streams ≤ (state.2 pod).stream) :
    state.1.made stream = state.1.planned stream := by
  apply Nat.le_antisymm kept.made_le
  apply Nat.le_of_not_lt
  intro left
  rcases (made_lt_iff kept.counted).mp left with ⟨pod, outstanding⟩
  have past : (state.2 pod).stream ≠ stream := by
    have beyond := finished pod
    omega
  rw [Pod.outstandingAt_other past] at outstanding
  exact Nat.lt_irrefl 0 outstanding

end

/-- When all pods are done a stream holds the seed and less than one record more exactly
when no pod probed it while another still had appends to it outstanding. Then it holds
what one pod alone would have put there. -/
theorem seeded_once_iff {args : SeedArgs} {pods : Nat} (some_pod : 0 < pods)
    (seeds : 0 < args.seedBytes) (records : 1 ≤ args.recordBytes)
    {state : Server × (Fin pods → Pod)} (reachable : (fleet args pods).Reachable state)
    (finished : ∀ pod, args.streams ≤ (state.2 pod).stream) {stream : Nat}
    (inside : stream < args.streams) :
    (args.seedBytes ≤ state.1.size stream ∧
        state.1.size stream < args.seedBytes + args.recordBytes ↔
      state.1.overlapped stream = false) ∧
    (state.1.overlapped stream = false →
      state.1.size stream = recordCount args 0 * args.recordBytes) := by
  have kept := (fleet_kept seeds records stream).of_reachable reachable
  have history := kept.history
  have begun : SomeBegun stream state :=
    ⟨⟨0, some_pod⟩, .inl (inside.trans_le (finished ⟨0, some_pod⟩))⟩
  have bounds := recordCount_empty seeds records
  have sized := history.sized
  rw [kept.finished inside finished] at sized
  have once : state.1.overlapped stream = false →
      state.1.size stream = recordCount args 0 * args.recordBytes := by
    intro on_time
    rw [sized, history.alone begun on_time]
  refine ⟨⟨?_, ?_⟩, once⟩
  · intro range
    cases crowd : state.1.overlapped stream with
    | false => rfl
    | true =>
        have more : (recordCount args 0 + 1) * args.recordBytes ≤
            state.1.planned stream * args.recordBytes :=
          Nat.mul_le_mul_right _ (history.crowded crowd)
        rw [Nat.succ_mul, ← sized] at more
        omega
  · intro on_time
    rw [once on_time]
    exact bounds

def threeBytes : SeedArgs := ⟨1, 3, 2⟩

/-- The second pod probes when the first is done and appends nothing. -/
theorem seeded_once_iff_in_turn :
    ∃ state, (fleet threeBytes 2).Reachable state ∧ state.1.size 0 = 4 := by
  have begun : (fleet threeBytes 2).Reachable (.empty, fun _ => ⟨0, 0⟩) := .initial rfl
  have probed := begun.step (crew_step_iff.mpr ⟨⟨0, Nat.two_pos⟩, (), _, rfl, rfl⟩)
  have half := probed.step (crew_step_iff.mpr ⟨⟨0, Nat.two_pos⟩, (), _, rfl, rfl⟩)
  have seeded := half.step (crew_step_iff.mpr ⟨⟨0, Nat.two_pos⟩, (), _, rfl, rfl⟩)
  have left := seeded.step (crew_step_iff.mpr ⟨⟨1, Nat.one_lt_two⟩, (), _, rfl, rfl⟩)
  have first : 0 < threeBytes.streams := Nat.one_pos
  have once := seeded_once_iff Nat.two_pos (Nat.succ_pos 2) Nat.one_lt_two.le left
    (by decide) first
  exact ⟨_, left, once.2 (by decide)⟩

def oneRecord : SeedArgs := ⟨1, 1, 1⟩

/-- Two pods that both probe the empty stream put two records there, one too many. -/
theorem two_pods_seed_twice :
    ∃ state, (fleet oneRecord 2).Reachable state ∧
      (∀ pod, oneRecord.streams ≤ (state.2 pod).stream) ∧
      ¬ state.1.size 0 < oneRecord.seedBytes + oneRecord.recordBytes := by
  have begun : (fleet oneRecord 2).Reachable (.empty, fun _ => ⟨0, 0⟩) := .initial rfl
  have first := begun.step (crew_step_iff.mpr ⟨⟨0, Nat.two_pos⟩, (), _, rfl, rfl⟩)
  have second := first.step (crew_step_iff.mpr ⟨⟨1, Nat.one_lt_two⟩, (), _, rfl, rfl⟩)
  have third := second.step (crew_step_iff.mpr ⟨⟨0, Nat.two_pos⟩, (), _, rfl, rfl⟩)
  have last := third.step (crew_step_iff.mpr ⟨⟨1, Nat.one_lt_two⟩, (), _, rfl, rfl⟩)
  exact ⟨_, last, by decide, by decide⟩

end DsBench.Workloads.Seeding
