import DsBench.Workloads.PoolAccounting

/-! # A pool worker on its own

A pass of a pool worker is one step where the requests it sends are looked at, and many
where the counters it shares are. While the other workers rest, the many steps do what
the one step does.
-/

namespace DsBench.Workloads.PoolAccounting

open MultiStreamPool

section

variable (args : PoolArgs) (lo span : Nat)

def Moves (before after : Shared × Worker) : Prop :=
  ∃ input, workerStep args lo span before.1 before.2 input = some after

def Reaches : Shared × Worker → Shared × Worker → Prop :=
  Relation.ReflTransGen (Moves args lo span)

/-- The shared counters and the worker hold what a worker whose passes are single steps
has counted. -/
structure Mirrors (shared : Shared) (worker : Worker) (state : PoolState) : Prop where
  rr : worker.rr = state.rr
  okAll : shared.okAll = state.okAll
  ok : shared.ok = state.ok
  lazyCreates : shared.lazyCreates = state.lazyCreates
  bp : shared.bp = state.bp
  err : shared.err = state.err
  errors : shared.errors =
    state.errors.foldl (fun errors error => recordError error errors) []
  samples : worker.samples = state.latencies.map (sampleOf 0)

/-- The worker comes back to the head of its loop in step with `state`. -/
def ComesBackTo (before : Shared × Worker) (state : PoolState) : Prop :=
  ∃ shared worker, Reaches args lo span before (shared, worker) ∧
    worker.control = .head ∧ Mirrors shared worker state

variable {args lo span} {shared : Shared} {worker : Worker} {state : PoolState}

theorem ComesBackTo.of_move {before after : Shared × Worker} (input : Input)
    (moved : workerStep args lo span before.1 before.2 input = some after)
    (later : ComesBackTo args lo span after state) :
    ComesBackTo args lo span before state := by
  rcases later with ⟨shared, worker, reaches, atHead, mirrors⟩
  exact ⟨shared, worker, .head ⟨input, moved⟩ reaches, atHead, mirrors⟩

theorem comesBack_of_applied (mirrors : Mirrors shared worker state) :
    ComesBackTo args lo span (shared, { worker with control := .applying [] }) state := by
  refine .of_move (.go 0) rfl ⟨shared, _, .refl, rfl, ?_⟩
  exact ⟨mirrors.rr, mirrors.okAll, mirrors.ok, mirrors.lazyCreates, mirrors.bp,
    mirrors.err, mirrors.errors, mirrors.samples⟩

/-! ## What follows a reply -/

theorem sampleOf_elapsed (started elapsed : Nat) :
    sampleOf started (started + elapsed) = sampleOf 0 elapsed := by
  rw [sampleOf, sampleOf, Nat.add_sub_cancel_left, Nat.sub_zero]

theorem comesBack_succeed (mirrors : Mirrors shared worker state) (counting : Bool)
    (started elapsed : Nat) :
    ComesBackTo args lo span
      (shared, { worker with control := .applying (succeeded counting started) })
      (state.succeed args counting elapsed) := by
  cases counting with
  | false =>
      refine .of_move (.go 0) rfl (comesBack_of_applied ?_)
      exact { mirrors with okAll := congrArg (· + args.recsPerPost) mirrors.okAll }
  | true =>
      have counted : Mirrors
          { shared with
            okAll := shared.okAll + args.recsPerPost
            ok := shared.ok + args.recsPerPost }
          { worker with
            samples := worker.samples ++ [sampleOf started (started + elapsed)] }
          (state.succeed args true elapsed) :=
        { mirrors with
          okAll := congrArg (· + args.recsPerPost) mirrors.okAll
          ok := congrArg (· + args.recsPerPost) mirrors.ok
          samples := by simp [PoolState.succeed, mirrors.samples, sampleOf_elapsed] }
      have back : ComesBackTo args lo span _ _ := comesBack_of_applied counted
      exact .of_move (.go 0) rfl (.of_move (.go 0) rfl
        (.of_move (.go (started + elapsed)) rfl back))

theorem comesBack_fail (mirrors : Mirrors shared worker state) (counting : Bool)
    (error : Text) :
    ComesBackTo args lo span
      (shared, { worker with control := .applying (failed counting error) })
      (state.fail counting error) := by
  cases counting with
  | false => exact comesBack_of_applied mirrors
  | true =>
      have counted : Mirrors
          { shared with
            err := shared.err + 1
            errors := recordError error shared.errors }
          worker (state.fail true error) :=
        { mirrors with
          err := congrArg (· + 1) mirrors.err
          errors := by simp [PoolState.fail, mirrors.errors] }
      have back : ComesBackTo args lo span _ _ := comesBack_of_applied counted
      exact .of_move (.go 0) rfl (.of_move (.go 0) rfl back)

theorem comesBack_backedOff (mirrors : Mirrors shared worker state) (counting : Bool) :
    ComesBackTo args lo span
      (shared, { worker with control := .applying (backedOff counting) })
      { state with bp := if counting then state.bp + 1 else state.bp } := by
  cases counting with
  | false => exact comesBack_of_applied mirrors
  | true =>
      refine .of_move (.go 0) rfl (comesBack_of_applied ?_)
      exact { mirrors with bp := congrArg (· + 1) mirrors.bp }

/-! ## A pass -/

theorem Mirrors.observe (mirrors : Mirrors shared worker state) (event : Event) :
    Mirrors (shared.observe event) worker state := { mirrors with }

theorem Mirrors.send (mirrors : Mirrors shared worker state) (sent : Sent) :
    Mirrors shared worker (state.send sent) := { mirrors with }

theorem comesBack_afterRetry (mirrors : Mirrors shared worker state) (counting : Bool)
    (started : Nat) (pass : Pass) :
    ComesBackTo args lo span
      (shared, { worker with control := afterRetry counting started pass.retried })
      (state.afterRetry args counting pass) := by
  rw [afterRetry.eq_def, PoolState.afterRetry]
  cases pass.retried with
  | error message => exact comesBack_fail mirrors counting message
  | ok status =>
      dsimp only
      by_cases success : isSuccess status
      · rw [if_pos success, if_pos success]
        exact comesBack_succeed mirrors counting started pass.elapsed
      · rw [if_neg success, if_neg success]
        exact comesBack_fail mirrors counting _

theorem comesBack_createAndRetry (mirrors : Mirrors shared worker state) (global : Nat)
    (counting : Bool) (started : Nat) (pass : Pass) :
    ComesBackTo args lo span
      ({ shared with lazyCreates := shared.lazyCreates + 1 },
        { worker with control := .creating counting global started })
      (state.createAndRetry args global counting pass) := by
  have asked : Mirrors { shared with lazyCreates := shared.lazyCreates + 1 } worker
      ({ state with lazyCreates := state.lazyCreates + 1 } : PoolState) :=
    { mirrors with lazyCreates := congrArg (· + 1) mirrors.lazyCreates }
  rw [PoolState.createAndRetry]
  cases created : pass.created with
  | false =>
      have back : ComesBackTo args lo span _ _ :=
        comesBack_fail (asked.send (.create global)) counting "create_failed".toList
      exact .of_move (.created false) rfl back
  | true =>
      have observed := ((asked.send (.create global)).send (.retry global)).observe
        (.answered counting pass.retried)
      have back : ComesBackTo args lo span _ _ :=
        comesBack_afterRetry observed counting started pass
      exact .of_move (.created true) rfl (.of_move (.answer pass.retried) rfl back)

theorem comesBack_afterReply (mirrors : Mirrors shared worker state) (global : Nat)
    (counting : Bool) (started : Nat) (pass : Pass) :
    ComesBackTo args lo span
      ((afterAppend shared counting global started pass.answer).1,
        { worker with
          control := (afterAppend shared counting global started pass.answer).2 })
      (state.afterReply args global counting pass) := by
  rw [afterAppend.eq_def, PoolState.afterReply]
  cases pass.answer with
  | error message => exact comesBack_fail mirrors counting message
  | ok status =>
      dsimp only
      by_cases success : isSuccess status
      · rw [if_pos success, if_pos success]
        exact comesBack_succeed mirrors counting started pass.elapsed
      · rw [if_neg success, if_neg success]
        by_cases missing : status = 404
        · rw [if_pos missing, if_pos missing]
          exact comesBack_createAndRetry mirrors global counting started pass
        · rw [if_neg missing, if_neg missing]
          by_cases busy : isBackpressure status
          · rw [if_pos busy, if_pos busy]
            exact comesBack_backedOff mirrors counting
          · rw [if_neg busy, if_neg busy]
            exact comesBack_fail mirrors counting _

theorem comesBack_turn (mirrors : Mirrors shared worker state)
    (atHead : worker.control = .head) (pass : Pass)
    (inTime : pass.checked < args.deadline) :
    ComesBackTo args lo span (shared, worker) (state.turn args lo span pass) := by
  rw [PoolState.turn]
  by_cases idle : args.warmupEnd ≤ pass.now ∧ pass.now < args.measureStart
  · rw [if_pos idle]
    refine .of_move (.look pass.checked pass.now pass.now) ?_
      ⟨shared, worker, .refl, atHead, mirrors⟩
    simp only [workerStep, atHead, if_pos inTime, if_pos idle]
  · rw [if_neg idle]
    let counting := decide (args.measureStart ≤ pass.now)
    have begun : Mirrors (shared.observe (.issued counting))
        { worker with rr := (worker.rr + 1) % span }
        ({ state with rr := (state.rr + 1) % span } : PoolState) :=
      { mirrors with rr := by rw [mirrors.rr] }
    have asked := (begun.send (.append (lo + state.rr))).observe
      (.answered counting pass.answer)
    have back : ComesBackTo args lo span _ _ :=
      comesBack_afterReply asked (lo + state.rr) counting pass.now pass
    have waiting : ComesBackTo args lo span
        (shared.observe (.issued counting),
          { worker with
            control := .waiting counting (lo + state.rr) pass.now
            rr := (worker.rr + 1) % span }) _ :=
      .of_move (.answer pass.answer) rfl back
    refine .of_move (.look pass.checked pass.now pass.now) ?_ waiting
    simp only [workerStep, atHead, if_pos inTime, if_neg idle, mirrors.rr, counting]

theorem comesBack_loop (passes : List Pass) (mirrors : Mirrors shared worker state)
    (atHead : worker.control = .head) :
    ComesBackTo args lo span (shared, worker) (PoolState.loop args lo span state passes) := by
  induction passes generalizing shared worker state with
  | nil => exact ⟨shared, worker, .refl, atHead, mirrors⟩
  | cons pass passes induction =>
      rw [PoolState.loop]
      split
      · rename_i inTime
        rcases comesBack_turn mirrors atHead pass inTime with
          ⟨later, moved, reaches, backAtHead, stillMirrors⟩
        rcases induction stillMirrors backAtHead with
          ⟨last, stopped, reachesLast, lastAtHead, lastMirrors⟩
        exact ⟨last, stopped, reaches.trans reachesLast, lastAtHead, lastMirrors⟩
      · exact ⟨shared, worker, .refl, atHead, mirrors⟩

end

/-! ## A pool of one worker -/

/-- The only worker of a pool moves the whole pool. -/
theorem reachable_of_reaches {args : PoolArgs} {lo hi : Nat}
    {before after : Shared × Worker}
    (reachable : (runPool args lo hi 1).Reachable (before.1, fun _ => before.2))
    (reaches : Reaches args (workerSlice lo hi 1 0).1.1 (span lo hi 1 0) before after) :
    (runPool args lo hi 1).Reachable (after.1, fun _ => after.2) := by
  induction reaches with
  | refl => exact reachable
  | tail _ moved induction =>
      rename_i here next _
      apply induction.step
      rcases moved with ⟨input, moved⟩
      refine crew_step_iff.mpr ⟨0, input, next, moved, ?_⟩
      rw [Prod.mk.injEq]
      refine ⟨rfl, ?_⟩
      funext w
      rw [Subsingleton.elim w 0, Function.update_self]

/-- A pool of one worker can come to hold what the worker's loop over whole passes
counts, whatever the passes meet. -/
theorem solo_pool_mirrors (args : PoolArgs) (lo hi : Nat) (passes : List Pass) :
    ∃ state : Shared × (Fin 1 → Worker), (runPool args lo hi 1).Reachable state ∧
      Mirrors state.1 (state.2 0)
        (poolWorker args (workerSlice lo hi 1 0).1.1 (workerSlice lo hi 1 0).1.2
          (workerSlice lo hi 1 0).2 passes) := by
  have started : Mirrors .start (startWorker lo hi 1 0)
      (.start ((workerSlice lo hi 1 0).2 % span lo hi 1 0)) :=
    ⟨rfl, rfl, rfl, rfl, rfl, rfl, rfl, rfl⟩
  rcases comesBack_loop passes started rfl with ⟨shared, worker, reaches, -, mirrors⟩
  have start : (runPool args lo hi 1).Reachable
      (Shared.start, fun _ => startWorker lo hi 1 0) := by
    apply TransitionSystem.Reachable.initial
    change _ = _
    rw [Prod.mk.injEq]
    refine ⟨rfl, ?_⟩
    funext w
    rw [Subsingleton.elim w 0]
    rfl
  exact ⟨_, reachable_of_reaches start reaches, mirrors⟩

end DsBench.Workloads.PoolAccounting
