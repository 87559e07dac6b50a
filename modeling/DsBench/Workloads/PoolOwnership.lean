import DsBench.Workloads.MultiStreamPool

/-! # Which keys a pool pod touches

A pod may be started by hand, with more shards than there are keys. The split then leaves
some slices empty, and a worker of such a pod still appends to the key where its slice
would begin.
-/

namespace DsBench.Workloads.MultiStreamPool

/-- What every pod of a pool run is started with: the arguments that matter for the split
and `DS_BENCH_SHARDS` as parsed. The binary takes machine words only. -/
structure PoolRun where
  streams : Nat
  connections : Nat
  shards : Option Nat
  pooled : 0 < connections
  streamsFit : streams < 2 ^ 64
  connectionsFit : connections < 2 ^ 64
  shardsFit : ∀ count, shards = some count → count < 2 ^ 64

namespace PoolRun

variable (run : PoolRun)

def domain : Nat := max run.streams 1

def shardCount : Nat := max (run.shards.getD 1) 1

/-- The pod's place among the shards: an instance past the last one counts as the last. -/
def place (inst : Option Nat) : Nat := min (inst.getD 0) (run.shardCount - 1)

/-- `[lo, hi)` of the pod. -/
def slice (inst : Option Nat) : Nat × Nat := podSlice inst run.shards run.domain

/-- The range and the phase that worker `w` of the pod is started with. -/
def worker (inst : Option Nat) (w : Nat) : (Nat × Nat) × Nat :=
  workerSlice (run.slice inst).1 (run.slice inst).2 (max run.connections 1) w

/-- Everything that worker `w` of the pod sends. -/
def sent (inst : Option Nat) (args : PoolArgs) (w : Nat) (passes : List Pass) :
    List Sent :=
  (poolWorker args (run.worker inst w).1.1 (run.worker inst w).1.2 (run.worker inst w).2
    passes).sent

/-- Every request of every worker of the pod is about a key of the pod's slice. -/
def StaysInside (inst : Option Nat) : Prop :=
  ∀ args w passes, w < run.connections → ∀ sent ∈ run.sent inst args w passes,
    (run.slice inst).1 ≤ sent.global ∧ sent.global < (run.slice inst).2

/-- No worker of one pod ever touches a key that a worker of the other one does. -/
def NeverShare (inst other : Option Nat) : Prop :=
  ∀ args otherArgs w v passes otherPasses, w < run.connections → v < run.connections →
    ∀ left ∈ run.sent inst args w passes, ∀ right ∈ run.sent other otherArgs v otherPasses,
      left.global ≠ right.global

end PoolRun

/-! ## A split never leaves its range -/

theorem wrap_le (value : Nat) : wrap value ≤ value := Nat.mod_le value _

theorem wrap_lt (value : Nat) : wrap value < 2 ^ 64 := Nat.mod_lt value (by decide)

theorem wrap_mul_div_lt {length parts i : Nat} (some_ : 0 < length) (bounded : i < parts) :
    wrap (i * length) / parts < length := by
  apply Nat.div_lt_of_lt_mul
  apply (wrap_le _).trans_lt
  exact Nat.mul_lt_mul_of_pos_right bounded some_

theorem splitRange_within {lo hi parts i : Nat} (inhabited : lo < hi) (small : hi < 2 ^ 64)
    (bounded : i < parts) (partsFit : parts < 2 ^ 64) :
    lo ≤ (splitRange lo hi parts i).1 ∧ (splitRange lo hi parts i).1 < hi ∧
      (splitRange lo hi parts i).2 ≤ hi := by
  have length : wrap (hi + 2 ^ 64 - lo) = hi - lo := by
    rw [wrap]
    omega
  have someParts : max parts 1 = parts := by omega
  have begins : wrap (i * (hi - lo)) / parts < hi - lo :=
    wrap_mul_div_lt (by omega) bounded
  have ends : wrap (wrap (i + 1) * (hi - lo)) / parts ≤ hi - lo := by
    apply Nat.div_le_of_le_mul
    apply (wrap_le _).trans
    rw [wrap_of_lt (by omega : i + 1 < 2 ^ 64)]
    exact Nat.mul_le_mul_right _ bounded
  simp only [splitRange, length, someParts]
  rw [wrap_of_lt (by omega : lo + wrap (i * (hi - lo)) / parts < 2 ^ 64),
    wrap_of_lt (by omega : lo + wrap (wrap (i + 1) * (hi - lo)) / parts < 2 ^ 64)]
  refine ⟨Nat.le_add_right lo _, ?_, ?_⟩
  · omega
  · omega

theorem poolWorker_touches (args : PoolArgs) (lo hi phase : Nat) (passes : List Pass) :
    ∀ sent ∈ (poolWorker args lo hi phase passes).sent,
      lo ≤ sent.global ∧ sent.global < lo + max (hi - lo) 1 := by
  have positive : 0 < max (hi - lo) 1 := by omega
  rcases PoolState.loop_roundRobin positive
    (PoolState.start_roundRobin lo (max (hi - lo) 1) phase) args passes with ⟨turns, round⟩
  exact round.inside

namespace PoolRun

variable {run : PoolRun}

/-! ## The slice of a pod -/

/-- Key `i · N / P`, the products taken as the machine takes them. -/
def bound (run : PoolRun) (i : Nat) : Nat := wrap (i * run.domain) / run.shardCount

theorem one_le_shardCount (run : PoolRun) : 1 ≤ run.shardCount :=
  Nat.le_max_right _ _

theorem domain_fits (run : PoolRun) : run.domain < 2 ^ 64 := by
  have streams := run.streamsFit
  rw [domain]
  omega

theorem shardCount_fits (run : PoolRun) : run.shardCount < 2 ^ 64 := by
  rw [shardCount]
  cases given : run.shards with
  | none => decide
  | some count =>
      have fits := run.shardsFit count given
      rw [Option.getD_some]
      omega

theorem place_lt (run : PoolRun) (inst : Option Nat) : run.place inst < run.shardCount := by
  have some_ := run.one_le_shardCount
  rw [place]
  omega

theorem bound_fits (run : PoolRun) (i : Nat) : run.bound i < 2 ^ 64 :=
  (Nat.div_le_self _ _).trans_lt (wrap_lt _)

theorem slice_eq (run : PoolRun) (inst : Option Nat) :
    run.slice inst = (run.bound (run.place inst), run.bound (run.place inst + 1)) := by
  have domainFits := run.domain_fits
  have placed := run.place_lt inst
  have shardsFit := run.shardCount_fits
  have some_ : max run.shardCount 1 = run.shardCount :=
    Nat.max_eq_left run.one_le_shardCount
  have length : wrap (run.domain + 2 ^ 64 - 0) = run.domain := by
    rw [wrap]
    omega
  have next : wrap (run.place inst + 1) = run.place inst + 1 := wrap_of_lt (by omega)
  change splitRange 0 run.domain run.shardCount (run.place inst) = _
  simp only [splitRange, length, some_, next, Nat.zero_add]
  change (wrap (run.bound (run.place inst)), wrap (run.bound (run.place inst + 1))) = _
  rw [wrap_of_lt (run.bound_fits _), wrap_of_lt (run.bound_fits _)]

/-- The pod's slice holds a key. -/
def HasKey (run : PoolRun) (inst : Option Nat) : Prop :=
  run.bound (run.place inst) < run.bound (run.place inst + 1)

instance (inst : Option Nat) : Decidable (run.HasKey inst) :=
  inferInstanceAs (Decidable (_ < _))

/-! ## What a worker touches -/

theorem staysInside_of_hasKey {inst : Option Nat} (hasKey : run.HasKey inst) :
    run.StaysInside inst := by
  intro args w passes working sent member
  have touched := poolWorker_touches args _ _ _ passes sent member
  have inhabited : (run.slice inst).1 < (run.slice inst).2 := by
    rw [slice_eq]
    exact hasKey
  have small : (run.slice inst).2 < 2 ^ 64 := by
    rw [slice_eq]
    exact run.bound_fits _
  have some_ : max run.connections 1 = run.connections := Nat.max_eq_left run.pooled
  have within := splitRange_within inhabited small working run.connectionsFit
  rw [worker, workerSlice, some_] at touched
  split at touched
  · dsimp only at touched
    omega
  · dsimp only at touched
    omega

theorem first_worker (run : PoolRun) (inst : Option Nat) :
    (run.worker inst 0).1.1 = (run.slice inst).1 ∧ (run.worker inst 0).2 = 0 := by
  have begins : (splitRange (run.slice inst).1 (run.slice inst).2
      (max run.connections 1) 0).1 = (run.slice inst).1 := by
    have fits : (run.slice inst).1 < 2 ^ 64 := by
      rw [slice_eq]
      exact run.bound_fits _
    simp only [splitRange, Nat.zero_mul]
    rw [wrap_of_lt (by decide : 0 < 2 ^ 64), Nat.zero_div, Nat.add_zero, wrap_of_lt fits]
  rw [worker, workerSlice]
  split
  · exact ⟨rfl, rfl⟩
  · exact ⟨begins, rfl⟩

def atOnce : PoolArgs := ⟨1, 0, 0, 20⟩

def accepted : Pass := ⟨0, 0, .ok 200, true, .ok 200, 1⟩

theorem first_append (run : PoolRun) (inst : Option Nat) :
    run.sent inst atOnce 0 [accepted] = [.append (run.slice inst).1] := by
  rcases run.first_worker inst with ⟨begins, phase⟩
  rw [sent, phase, begins]
  simp [poolWorker, PoolState.loop, PoolState.turn, PoolState.start, PoolState.send,
    PoolState.afterReply, PoolState.succeed, isSuccess, atOnce, accepted]

theorem hasKey_of_staysInside {inst : Option Nat} (inside : run.StaysInside inst) :
    run.HasKey inst := by
  have first : Sent.append (run.slice inst).1 ∈ run.sent inst atOnce 0 [accepted] := by
    rw [first_append]
    exact List.mem_singleton_self _
  have bounds := inside atOnce 0 [accepted] run.pooled _ first
  rw [slice_eq] at bounds
  rw [HasKey]
  exact bounds.1.trans_lt bounds.2

/-- A pod stays inside of its slice exactly if the slice holds a key. -/
theorem staysInside_iff (run : PoolRun) (inst : Option Nat) :
    run.StaysInside inst ↔ run.HasKey inst :=
  ⟨hasKey_of_staysInside, staysInside_of_hasKey⟩

/-! ## Two pods of one fleet -/

theorem bound_eq_cut (products : run.shardCount * run.domain < 2 ^ 64) {i : Nat}
    (bounded : i ≤ run.shardCount) : run.bound i = cut run.domain run.shardCount i := by
  have below : i * run.domain ≤ run.shardCount * run.domain :=
    Nat.mul_le_mul_right _ bounded
  rw [bound, wrap_of_lt (by omega), cut]

theorem worker_of_empty {inst : Option Nat}
    (empty : (run.slice inst).2 = (run.slice inst).1) (w : Nat) :
    run.worker inst w = (((run.slice inst).1, (run.slice inst).1), w) := by
  have own : (splitRange (run.slice inst).1 (run.slice inst).1 (max run.connections 1) w).1 =
      (splitRange (run.slice inst).1 (run.slice inst).1 (max run.connections 1) w).2 := by
    have length : wrap ((run.slice inst).1 + 2 ^ 64 - (run.slice inst).1) = 0 := by
      rw [Nat.add_sub_cancel_left, wrap, Nat.mod_self]
    simp only [splitRange, length, Nat.mul_zero]
  rw [worker, workerSlice, empty]
  exact if_pos own

theorem sent_within (products : run.shardCount * run.domain < 2 ^ 64) (inst : Option Nat)
    (args : PoolArgs) {w : Nat} (working : w < run.connections) (passes : List Pass) :
    ∀ sent ∈ run.sent inst args w passes,
      run.bound (run.place inst) ≤ sent.global ∧
        sent.global <
          max (run.bound (run.place inst + 1)) (run.bound (run.place inst) + 1) := by
  intro sent member
  by_cases hasKey : run.HasKey inst
  · have inside := staysInside_of_hasKey hasKey args w passes working sent member
    rw [slice_eq] at inside
    dsimp only at inside
    omega
  · have placed := run.place_lt inst
    have grows : run.bound (run.place inst) ≤ run.bound (run.place inst + 1) := by
      rw [bound_eq_cut products placed.le, bound_eq_cut products placed]
      exact cut_mono _ run.one_le_shardCount (Nat.le_succ _)
    rw [HasKey, not_lt] at hasKey
    have empty : (run.slice inst).2 = (run.slice inst).1 := by
      rw [slice_eq]
      exact le_antisymm hasKey grows
    have touched := poolWorker_touches args _ _ _ passes sent member
    rw [worker_of_empty empty, slice_eq] at touched
    dsimp only at touched
    omega

theorem sent_below (products : run.shardCount * run.domain < 2 ^ 64)
    {inst other : Option Nat}
    (below : run.bound (run.place inst) < run.bound (run.place other))
    (args : PoolArgs) {w : Nat} (working : w < run.connections) (passes : List Pass) :
    ∀ sent ∈ run.sent inst args w passes, sent.global < run.bound (run.place other) := by
  intro sent member
  have within := sent_within products inst args working passes sent member
  have placed := run.place_lt inst
  have otherPlaced := run.place_lt other
  have upTo : run.bound (run.place inst + 1) ≤ run.bound (run.place other) := by
    rw [bound_eq_cut products placed.le, bound_eq_cut products otherPlaced.le] at below
    have order : run.place inst < run.place other :=
      (cut_mono run.domain run.one_le_shardCount).reflect_lt below
    rw [bound_eq_cut products placed, bound_eq_cut products otherPlaced.le]
    exact cut_mono _ run.one_le_shardCount order
  omega

/-- Two pods never touch the same key exactly if their slices begin at different ones. -/
theorem neverShare_iff (products : run.shardCount * run.domain < 2 ^ 64)
    (inst other : Option Nat) :
    run.NeverShare inst other ↔
      run.bound (run.place inst) ≠ run.bound (run.place other) := by
  constructor
  · intro apart same
    apply apart atOnce atOnce 0 0 [accepted] [accepted] run.pooled run.pooled
      (.append (run.slice inst).1) _ (.append (run.slice other).1) _
    · rw [slice_eq, slice_eq]
      exact same
    · rw [first_append]
      exact List.mem_singleton_self _
    · rw [first_append]
      exact List.mem_singleton_self _
  · intro different args otherArgs w v passes otherPasses working otherWorking left leftSent
      right rightSent same
    rcases Nat.lt_or_gt_of_ne different with below | above
    · have bounded := sent_below products below args working passes left leftSent
      have begins := sent_within products other otherArgs otherWorking otherPasses right
        rightSent
      omega
    · have bounded := sent_below products above otherArgs otherWorking otherPasses right
        rightSent
      have begins := sent_within products inst args working passes left leftSent
      omega

theorem all_hasKey_iff (products : run.shardCount * run.domain < 2 ^ 64) :
    (∀ inst, run.HasKey inst) ↔ run.shardCount ≤ run.domain := by
  constructor
  · intro hasKey
    have grows : ∀ i, i ≤ run.shardCount → i ≤ cut run.domain run.shardCount i := by
      intro i bounded
      induction i with
      | zero => exact Nat.zero_le _
      | succ i induction =>
          have here := hasKey (some i)
          have placed : run.place (some i) = i := by
            rw [place, Option.getD_some]
            omega
          rw [HasKey, placed, bound_eq_cut products (by omega),
            bound_eq_cut products bounded] at here
          have earlier := induction (by omega)
          omega
    have whole := grows run.shardCount (le_refl _)
    rw [cut_parts _ run.one_le_shardCount] at whole
    exact whole
  · intro enough inst
    have placed := run.place_lt inst
    rw [HasKey, bound_eq_cut products placed.le, bound_eq_cut products placed]
    exact cut_lt_cut_succ run.one_le_shardCount enough _

/-- A pod's workers stay inside of its slice exactly if the slice holds a key. Where no
product overflows, two pods never append to the same stream exactly if their slices begin
at different keys, and a whole fleet keeps to its slices exactly if there are no more
shards than keys. -/
theorem pool_ownership_iff (run : PoolRun) :
    (∀ inst, run.StaysInside inst ↔ run.HasKey inst) ∧
    (run.shardCount * run.domain < 2 ^ 64 →
      (∀ inst other, run.NeverShare inst other ↔
        run.bound (run.place inst) ≠ run.bound (run.place other)) ∧
      ((∀ inst, run.StaysInside inst) ↔ run.shardCount ≤ run.domain)) := by
  refine ⟨run.staysInside_iff, ?_⟩
  intro products
  refine ⟨neverShare_iff products, ?_⟩
  rw [← all_hasKey_iff products]
  exact forall_congr' run.staysInside_iff

/-- Two shards for a single key, one connection each. -/
def twoShards : PoolRun where
  streams := 1
  connections := 1
  shards := some 2
  pooled := by decide
  streamsFit := by decide
  connectionsFit := by decide
  shardsFit := by
    intro count given
    cases given
    decide

theorem pool_ownership_of_twoShards :
    (∀ inst, twoShards.StaysInside inst ↔ twoShards.HasKey inst) ∧
    (∀ inst other, twoShards.NeverShare inst other ↔
      twoShards.bound (twoShards.place inst) ≠ twoShards.bound (twoShards.place other)) ∧
    ((∀ inst, twoShards.StaysInside inst) ↔ twoShards.shardCount ≤ twoShards.domain) := by
  have law := pool_ownership_iff twoShards
  exact ⟨law.1, law.2 (by decide)⟩

/-- The first of them has no key and appends to the one of the second. -/
theorem twoShards_share_a_key :
    twoShards.slice (some 0) = (0, 0) ∧ twoShards.slice (some 1) = (0, 1) ∧
      twoShards.sent (some 0) atOnce 0 [accepted] = [.append 0] ∧
      twoShards.sent (some 1) atOnce 0 [accepted] = [.append 0] ∧
      ¬ twoShards.StaysInside (some 0) ∧
      ¬ twoShards.NeverShare (some 0) (some 1) := by
  have first : twoShards.sent (some 0) atOnce 0 [accepted] = [.append 0] := by decide
  have second : twoShards.sent (some 1) atOnce 0 [accepted] = [.append 0] := by decide
  refine ⟨by decide, by decide, first, second, ?_, ?_⟩
  · intro inside
    have bounds := inside atOnce 0 [accepted] (by decide) (.append 0) (by rw [first]; simp)
    exact absurd bounds.2 (by decide)
  · intro apart
    apply apart atOnce atOnce 0 0 [accepted] [accepted] (by decide) (by decide) (.append 0)
      (by rw [first]; simp) (.append 0) (by rw [second]; simp)
    rfl

end PoolRun

end DsBench.Workloads.MultiStreamPool
