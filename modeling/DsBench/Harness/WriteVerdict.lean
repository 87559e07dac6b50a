import DsBench.Foundation.Tiling
import DsBench.Workloads.MultiStreamResult
import DsBench.Workloads.StreamSetup
import DsBench.Workloads.WriteAccuracy
import Mathlib.Algebra.BigOperators.Fin

/-! # The verdict on a fleet's write counts

`verify-write-accuracy` sums up what the pods of a run report, lets `verify-offsets` sum up
what the server holds, and compares the two.
-/

namespace DsBench.Harness.WriteVerdict

open Workloads MultiStreamPool PoolAccounting StreamSetup WriteAccuracy

/-! ## What the checker reads -/

/-- The whole number that `json.load` reads for a field, `default` where there is none.
Anything but a whole number is not summed up here. -/
def wholeOf (default : ℤ) : Option Json → Option ℤ
  | none => some default
  | some (.num (.int value)) => some value
  | some _ => none

structure PodReport where
  okTotalAllPhases : ℤ
  ok : ℤ
  otherErr : ℤ
  backpressure : ℤ
  lazyCreates : ℤ
  slice : Option (ℤ × ℤ)
deriving DecidableEq

/-- `j.get("counts", {}).get(key, 0)`. -/
def countOf (document : Json) (key : String) : Option ℤ :=
  match document.get "counts".toList with
  | none => some 0
  | some counts => wholeOf 0 (counts.get key.toList)

def sliceOf (document : Json) : Option (Option (ℤ × ℤ)) :=
  match document.get "pod_slice_lo".toList with
  | none => some none
  | some (.num (.int lo)) =>
      match document.get "pod_slice_hi".toList with
      | some (.num (.int hi)) => some (some (lo, hi))
      | _ => none
  | some _ => none

def readReport (text : Text) : Option PodReport := do
  let document ← loads text
  let okTotalAllPhases ← wholeOf 0 (document.get "ok_total_all_phases".toList)
  let ok ← countOf document "ok"
  let otherErr ← countOf document "other_err"
  let backpressure ← countOf document "backpressure"
  let lazyCreates ← wholeOf 0 (document.get "lazy_creates".toList)
  let slice ← sliceOf document
  pure ⟨okTotalAllPhases, ok, otherErr, backpressure, lazyCreates, slice⟩

structure ClientSummary where
  pods : Nat
  okTotalAllPhases : ℤ
  okMeasured : ℤ
  otherErr : ℤ
  backpressure : ℤ
  lazyCreates : ℤ
  slicesTileDomain : Bool
deriving DecidableEq

def pairLe (left right : ℤ × ℤ) : Bool :=
  left.1 < right.1 || (left.1 == right.1 && left.2 ≤ right.2)

/-- `tiled`, of the sorted slices. -/
def tiled (streams : ℤ) (slices : List (ℤ × ℤ)) : Bool := tilesDomain 0 streams slices

def summarizeReports (streams : ℤ) (reports : List PodReport) : ClientSummary :=
  let slices := (reports.filterMap PodReport.slice).mergeSort pairLe
  { pods := slices.length
    okTotalAllPhases := (reports.map PodReport.okTotalAllPhases).sum
    okMeasured := (reports.map PodReport.ok).sum
    otherErr := (reports.map PodReport.otherErr).sum
    backpressure := (reports.map PodReport.backpressure).sum
    lazyCreates := (reports.map PodReport.lazyCreates).sum
    slicesTileDomain := tiled streams slices }

def clientSummary (streams : ℤ) (files : List Text) : Option ClientSummary :=
  (files.mapM readReport).map (summarizeReports streams)

def checks (client : ClientSummary) (server : VerifyOffsetsResult) :
    List (String × Bool) :=
  [("server_records == client ok_total_all_phases",
      (server.totalRecords : ℤ) == client.okTotalAllPhases),
    ("pod slices tile the domain disjointly", client.slicesTileDomain),
    ("lazy_creates == 0 (setup owned all creation)", client.lazyCreates == 0),
    ("no missing streams (full key-space coverage)", server.streamsMissing == 0),
    ("offsets divide payload exactly (uniform appends)", server.bytesDivideExactly),
    ("no HEAD errors", server.headErrors == 0)]

def passes (client : ClientSummary) (server : VerifyOffsetsResult) : Bool :=
  (checks client server).all Prod.snd

structure Reports (fleet : MultiStreamPool.Fleet) (pod : Fin fleet.pods) (shared : Shared)
    (result : MultiStreamResult) : Prop where
  counts : result.counts = shared.counts
  okTotalAllPhases : result.okTotalAllPhases = shared.okAll
  lazyCreates : result.lazyCreates = shared.lazyCreates
  podSlice : (result.podSliceLo, result.podSliceHi) = fleet.slice pod

/-- An offset as the server writes it: the bytes, or an epoch, an underscore and the
bytes. -/
def offsetText (epoch : Option Text) (bytes : Nat) : Text :=
  match epoch with
  | none => decimal bytes
  | some epoch => epoch ++ '_' :: decimal bytes

/-- What a HEAD of stream `i` may be answered by a server that holds `stored`: the offset
of the stream, that there is no such stream, or nothing of use. -/
inductive Heads (payload : Nat) (stored : List Nat) (i : Nat) : Option HeadResponse → Prop
  | found (status : Nat) (value : HeaderValue) (epoch : Option Text) :
      isSuccess status → toStr value = some (offsetText epoch (payload * stored.count i)) →
      Heads payload stored i (some ⟨status, some value⟩)
  | missing (value : Option HeaderValue) : i ∉ stored →
      Heads payload stored i (some ⟨404, value⟩)
  | useless (response : Option HeadResponse) : headOne response = .error () →
      Heads payload stored i response

/-! ## One pod's result -/

def reportOf (result : MultiStreamResult) : PodReport where
  okTotalAllPhases := result.okTotalAllPhases
  ok := result.counts.ok
  otherErr := result.counts.otherErr
  backpressure := result.counts.backpressure
  lazyCreates := result.lazyCreates
  slice := some (result.podSliceLo, result.podSliceHi)

theorem get_counts (counts : Counts) {key : Text} {value : Json}
    (member : (key, some value) ∈ [("ok".toList, some (.ofU64 counts.ok)),
      ("backpressure".toList, some (.ofU64 counts.backpressure)),
      ("other_err".toList, some (.ofU64 counts.otherErr))]) :
    counts.toJson.get key = some value := by
  apply Members.get_ofFields _ member
  simp only [List.map_cons, List.map_nil]
  decide

/-- The checker reads a pod's printed result as it was meant. -/
theorem readReport_print (result : MultiStreamResult) :
    readReport result.print = some (reportOf result) := by
  have counts : result.toJson.get "counts".toList = some result.counts.toJson :=
    MultiStreamResult.get_field (by simp [MultiStreamResult.fields])
  have total : result.toJson.get "ok_total_all_phases".toList =
      some (.ofU64 result.okTotalAllPhases) :=
    MultiStreamResult.get_field (by simp [MultiStreamResult.fields])
  have lazies : result.toJson.get "lazy_creates".toList =
      some (.ofU64 result.lazyCreates) :=
    MultiStreamResult.get_field (by simp [MultiStreamResult.fields])
  have lower : result.toJson.get "pod_slice_lo".toList = some (.ofU64 result.podSliceLo) :=
    MultiStreamResult.get_field (by simp [MultiStreamResult.fields])
  have upper : result.toJson.get "pod_slice_hi".toList = some (.ofU64 result.podSliceHi) :=
    MultiStreamResult.get_field (by simp [MultiStreamResult.fields])
  have ok : result.counts.toJson.get "ok".toList = some (.ofU64 result.counts.ok) :=
    get_counts _ (by simp)
  have other : result.counts.toJson.get "other_err".toList =
      some (.ofU64 result.counts.otherErr) := get_counts _ (by simp)
  have bp : result.counts.toJson.get "backpressure".toList =
      some (.ofU64 result.counts.backpressure) := get_counts _ (by simp)
  simp only [readReport, MultiStreamResult.loads_print, Option.bind_eq_bind, Option.bind_some,
    countOf, sliceOf, counts, total, lazies, lower, upper, ok, other, bp, wholeOf, Json.ofU64]
  rfl

theorem clientSummary_prints (streams : ℤ) (results : List MultiStreamResult) :
    clientSummary streams (results.map MultiStreamResult.print) =
      some (summarizeReports streams (results.map reportOf)) := by
  have reads : readReport ∘ MultiStreamResult.print =
      fun result => pure (reportOf result) := funext readReport_print
  rw [clientSummary, List.mapM_map, reads, List.mapM_pure]
  rfl

/-! ## The slices -/

theorem pairLe_trans (a b c : ℤ × ℤ) : pairLe a b = true → pairLe b c = true →
    pairLe a c = true := by
  simp only [pairLe, Bool.or_eq_true, Bool.and_eq_true, decide_eq_true_eq, beq_iff_eq]
  omega

theorem pairLe_total (a b : ℤ × ℤ) : (pairLe a b || pairLe b a) = true := by
  simp only [pairLe, Bool.or_eq_true, Bool.and_eq_true, decide_eq_true_eq, beq_iff_eq]
  omega

theorem pairLe_antisymm (a b : ℤ × ℤ) (left : pairLe a b = true) (right : pairLe b a = true) :
    a = b := by
  simp only [pairLe, Bool.or_eq_true, Bool.and_eq_true, decide_eq_true_eq, beq_iff_eq]
    at left right
  apply Prod.ext
  · omega
  · omega

theorem mergeSort_eq {pairs sorted : List (ℤ × ℤ)} (same : pairs.Perm sorted)
    (ordered : sorted.Pairwise fun left right => pairLe left right = true) :
    pairs.mergeSort pairLe = sorted := by
  apply List.Perm.eq_of_pairwise (fun left right _ _ => pairLe_antisymm left right)
  · exact List.pairwise_mergeSort pairLe_trans pairLe_total pairs
  · exact ordered
  · exact (List.mergeSort_perm pairs pairLe).trans same

section

variable {fleet : MultiStreamPool.Fleet}

def sliceInt (fleet : MultiStreamPool.Fleet) (pod : Nat) : ℤ × ℤ :=
  ((fleet.slice pod).1, (fleet.slice pod).2)

theorem slices_in_order (sized : fleet.Sized) :
    ((List.range fleet.pods).map (sliceInt fleet)).Pairwise
        (fun left right => pairLe left right = true) ∧
      tiled fleet.streams ((List.range fleet.pods).map (sliceInt fleet)) = true := by
  have partition := MultiStreamPool.Fleet.slices_partition sized
  have some_pods := sized.pods
  have ascending : ∀ pod other, pod < other → other < fleet.pods →
      (fleet.slice pod).2 ≤ (fleet.slice other).1 := by
    intro pod other before
    induction other, before using Nat.le_induction with
    | base =>
        intro member
        rw [partition.contiguous pod member]
    | succ other _ induction =>
        intro member
        have here := induction (by omega)
        have filled := partition.nonempty other (by omega)
        have next := partition.contiguous other member
        omega
  constructor
  · rw [List.pairwise_map]
    apply List.Pairwise.imp_of_mem _ List.pairwise_lt_range
    intro pod other _ member before
    rw [List.mem_range] at member
    have far := ascending pod other before member
    have filled := partition.nonempty pod (by omega)
    rw [pairLe, Bool.or_eq_true]
    left
    apply decide_eq_true
    simp only [sliceInt]
    omega
  · rw [tiled, tilesDomain_iff]
    have tiles : Tiles (sliceInt fleet (0 + (fleet.pods - 1))).2 (sliceInt fleet 0).1
        ((List.range' 0 (fleet.pods - 1 + 1)).map (sliceInt fleet)) := by
      apply tiles_of_contiguous
      intro pod member
      have next := partition.contiguous pod (by omega)
      simp only [sliceInt, Nat.zero_add, next]
    rw [Nat.zero_add, show fleet.pods - 1 + 1 = fleet.pods by omega] at tiles
    simp only [sliceInt, partition.first, partition.last] at tiles
    rw [List.range_eq_range']
    exact tiles

theorem tiled_iff (sized : fleet.Sized) {present : List (Fin fleet.pods)}
    (once : present.Nodup) :
    tiled fleet.streams
        ((present.map fun pod : Fin fleet.pods => sliceInt fleet pod.val).mergeSort pairLe) =
      true ↔ ∀ pod, pod ∈ present := by
  have partition := MultiStreamPool.Fleet.slices_partition sized
  constructor
  · intro accepted pod
    rw [tiled, tilesDomain_iff] at accepted
    have filled := partition.nonempty pod pod.isLt
    have inside := (partition.covers (fleet.slice pod).1).mpr
      ⟨pod, pod.isLt, le_rfl, filled⟩
    have below : ((fleet.slice pod).1 : ℤ) < fleet.streams := by omega
    rcases accepted.covers (Int.natCast_nonneg _) below with ⟨range, member, contains⟩
    rw [List.mem_mergeSort, List.mem_map] at member
    rcases member with ⟨other, listed, same⟩
    rw [← same] at contains
    by_cases equal : pod = other
    · rwa [equal]
    · exfalso
      simp only [InRange, sliceInt] at contains
      apply partition.disjoint pod other pod.isLt other.isLt
        (fun same => equal (Fin.ext same)) (fleet.slice pod).1
      omega
  · intro all
    have same : present.Perm (List.finRange fleet.pods) := by
      rw [List.perm_ext_iff_of_nodup once (List.nodup_finRange _)]
      intro pod
      simp [all pod]
    have sorted := slices_in_order sized
    have mapped : (List.finRange fleet.pods).map (fun pod => sliceInt fleet pod.val) =
        (List.range fleet.pods).map (sliceInt fleet) := by
      rw [← List.map_coe_finRange_eq_range, List.map_map]
      rfl
    rw [mergeSort_eq ((same.map _).trans (.of_eq mapped)) sorted.1]
    exact sorted.2

end

/-! ## The offsets -/

theorem afterLast_offsetText (epoch : Option Text) (bytes : Nat) :
    afterLast '_' (offsetText epoch bytes) = decimal bytes := by
  have noMark : '_' ∉ decimal bytes := by
    intro member
    cases isDigit_of_mem_decimal member
  cases epoch with
  | none => exact afterLast_of_notMem noMark
  | some epoch => exact afterLast_append noMark epoch

theorem headOne_found {status : Nat} (success : isSuccess status) {value : HeaderValue}
    {epoch : Option Text} {bytes : Nat} (text : toStr value = some (offsetText epoch bytes))
    (fits : bytes < 2 ^ 64) :
    headOne (some ⟨status, some value⟩) = .ok (some bytes) := by
  simp only [headOne, if_pos success, Option.bind_some, text, afterLast_offsetText,
    trim_decimal, parseU64_decimal, if_pos fits]

theorem Heads.result {payload : Nat} {stored : List Nat} {i : Nat}
    {response : Option HeadResponse} (heads : Heads payload stored i response)
    (fits : payload * stored.count i < 2 ^ 64) :
    headOne response = .ok (some (payload * stored.count i)) ∨
      headOne response = .ok none ∨ headOne response = .error () := by
  cases heads with
  | found status value epoch success text => exact .inl (headOne_found success text fits)
  | missing value absent => exact .inr (.inl rfl)
  | useless response fails => exact .inr (.inr fails)

theorem sum_counts {keys : List Nat} {upper : Nat} (below : ∀ key ∈ keys, key < upper) :
    ((List.range upper).map fun key => keys.count key).sum = keys.length := by
  have whole : ∑ key ∈ Finset.range upper, Multiset.count key (keys : Multiset Nat) =
      Multiset.card (keys : Multiset Nat) := by
    apply Multiset.sum_count_eq_card
    intro key member
    rw [Finset.mem_range]
    exact below key member
  simpa [Finset.sum, Multiset.range] using whole

/-- All streams were found. -/
def AllFound (streams : Nat) (reply : Nat → Option HeadResponse) : Prop :=
  ∀ i, i < streams → (foundBytes (headOne (reply i))).isSome = true

section

variable {streams payload : Nat} {stored : List Nat} {reply : Nat → Option HeadResponse}

theorem allFound_iff :
    (tally ((List.range streams).map fun i => headOne (reply i))).missing = 0 ∧
        (tally ((List.range streams).map fun i => headOne (reply i))).errors = 0 ↔
      AllFound streams reply := by
  have found_iff : ∀ result : Except Unit (Option Nat),
      (foundBytes result).isSome = true ↔
        ¬ isMissing result = true ∧ ¬ isFailed result = true := by
    intro result
    cases result with
    | error failure => simp [foundBytes, isFailed]
    | ok offset => cases offset <;> simp [foundBytes, isMissing, isFailed]
  simp only [tally, List.countP_eq_zero, List.forall_mem_map, List.mem_range, AllFound,
    found_iff]
  exact (forall₂_and).symm

theorem totalBytes_of_allFound (found : AllFound streams reply)
    (below : ∀ key ∈ stored, key < streams)
    (heads : ∀ i, i < streams → Heads payload stored i (reply i))
    (fits : payload * stored.length < 2 ^ 64) :
    (tally ((List.range streams).map fun i => headOne (reply i))).totalBytes =
      payload * stored.length := by
  have offset : ∀ i ∈ List.range streams,
      foundBytes (headOne (reply i)) = some (payload * stored.count i) := by
    intro i member
    rw [List.mem_range] at member
    have small : payload * stored.count i ≤ payload * stored.length :=
      Nat.mul_le_mul_left _ List.count_le_length
    have present := found i member
    rcases (heads i member).result (by omega) with same | same | same
    · rw [same]
      rfl
    · rw [same] at present
      cases present
    · rw [same] at present
      cases present
  have offsets : ((List.range streams).map fun i => headOne (reply i)).filterMap foundBytes =
      (List.range streams).map fun i => payload * stored.count i := by
    rw [List.filterMap_map, ← List.filterMap_eq_map]
    apply List.filterMap_congr
    exact offset
  have scaled : ((List.range streams).map fun i => payload * stored.count i).sum =
      payload * stored.length := by
    rw [List.sum_map_mul_left, sum_counts below]
  simp only [tally, offsets, scaled, Nat.mod_eq_of_lt fits]

end

/-! ## The verdict -/

theorem sum_present {pods : Nat} {present : List (Fin pods)} (once : present.Nodup)
    (all : ∀ pod, pod ∈ present) (amount : Fin pods → ℤ) :
    (present.map amount).sum = ∑ pod, amount pod := by
  have same : present.Perm (List.finRange pods) := by
    rw [List.perm_ext_iff_of_nodup once (List.nodup_finRange _)]
    intro pod
    simp [all pod]
  rw [(same.map amount).sum_eq, Fin.sum_univ_def]

section

variable {fleet : MultiStreamPool.Fleet} {args : Fin fleet.pods → PoolArgs}
  {state : FleetState fleet}

/-- The pods together report what the server acknowledged. -/
theorem reported_eq_acknowledged (single : ∀ pod, (args pod).recsPerPost = 1)
    (reachable : (cluster fleet args).Reachable state) (finished : Finished state) :
    ∑ pod, (state.1.pods pod).okAll = state.1.ledger.acknowledged.length := by
  rw [acknowledged_eq reachable]
  apply Finset.sum_congr rfl
  intro pod _
  have joined : Joined (podState state pod) := fun w => finished (pod, w)
  have accounts := (pool_accounts_balance (args pod) _ _ _ _
    (podState_reachable reachable pod) joined).2.2.2.2
  rw [single pod, Nat.one_mul] at accounts
  exact accounts

/-- What `verify-offsets` reports where it finds every stream. -/
theorem verified_records {payload concurrency : Nat} {reply : Nat → Option HeadResponse}
    (sized : fleet.Sized) (reachable : (cluster fleet args).Reachable state)
    (positive : 0 < payload) (fits : payload * state.1.ledger.stored.length < 2 ^ 64)
    (heads : ∀ i, i < fleet.streams →
      Heads payload state.1.ledger.stored i (reply i))
    (found : AllFound fleet.streams reply) :
    let server := verifyOffsetsResult ⟨fleet.streams, payload, concurrency⟩
      (tally ((List.range fleet.streams).map fun i => headOne (reply i)))
    server.totalRecords = state.1.ledger.stored.length ∧
      server.bytesDivideExactly = true := by
  have bytes := totalBytes_of_allFound found (stored_lt sized reachable) heads fits
  have divisor : max payload 1 = payload := by omega
  simp only [verifyOffsetsResult, bytes, divisor]
  exact ⟨Nat.mul_div_cancel_left _ positive, by simp⟩

/-- A run of the fleet that is over, and what the check of it finds: the answers to the
HEADs, the result of each pod, and the pods whose result files are there. -/
structure Checked (fleet : MultiStreamPool.Fleet) (args : Fin fleet.pods → PoolArgs) where
  state : FleetState fleet
  reachable : (cluster fleet args).Reachable state
  finished : Finished state
  payload : Nat
  concurrency : Nat
  positive : 0 < payload
  fits : payload * state.1.ledger.stored.length < 2 ^ 64
  reply : Nat → Option HeadResponse
  heads : ∀ i, i < fleet.streams → Heads payload state.1.ledger.stored i (reply i)
  counts : HeadCounts
  verified : ∃ run, (headLoop ⟨fleet.streams, payload, concurrency⟩ reply).system.Reachable
    run ∧ run.control = .returned (.ok counts)
  result : Fin fleet.pods → MultiStreamResult
  reports : ∀ pod, Reports fleet pod (state.1.pods pod) (result pod)
  present : List (Fin fleet.pods)
  once : present.Nodup

namespace Checked

variable (checked : Checked fleet args)

def files : List Text := (checked.present.map checked.result).map MultiStreamResult.print

/-- What `verify-offsets` prints. -/
def server : VerifyOffsetsResult :=
  verifyOffsetsResult ⟨fleet.streams, checked.payload, checked.concurrency⟩ checked.counts

def client : ClientSummary :=
  summarizeReports fleet.streams ((checked.present.map checked.result).map reportOf)

theorem clientSummary_files :
    clientSummary fleet.streams checked.files = some checked.client :=
  clientSummary_prints _ _

theorem counts_eq : checked.counts =
    tally ((List.range fleet.streams).map fun i => headOne (checked.reply i)) := by
  rcases checked.verified with ⟨run, reachable, returned⟩
  exact counts_of_returned reachable returned

theorem client_slices (sized : fleet.Sized) :
    checked.client.slicesTileDomain = true ↔ ∀ pod, pod ∈ checked.present := by
  rw [← tiled_iff sized checked.once]
  have slices : ((checked.present.map checked.result).map reportOf).filterMap
      PodReport.slice = checked.present.map fun pod => sliceInt fleet pod.val := by
    rw [List.map_map, List.filterMap_map, ← List.filterMap_eq_map]
    apply List.filterMap_congr
    intro pod _
    have slice := (checked.reports pod).podSlice
    simp only [Function.comp_apply, reportOf, sliceInt, ← slice]
  simp only [client, summarizeReports, slices]

theorem client_total (single : ∀ pod, (args pod).recsPerPost = 1)
    (all : ∀ pod, pod ∈ checked.present) :
    checked.client.okTotalAllPhases = checked.state.1.ledger.acknowledged.length := by
  have same : ((checked.present.map checked.result).map reportOf).map
      PodReport.okTotalAllPhases =
        checked.present.map fun pod => ((checked.state.1.pods pod).okAll : ℤ) := by
    rw [List.map_map, List.map_map]
    apply List.map_congr_left
    intro pod _
    simp only [Function.comp_apply, reportOf, (checked.reports pod).okTotalAllPhases]
  rw [← reported_eq_acknowledged single checked.reachable checked.finished]
  simp only [client, summarizeReports, same]
  rw [sum_present checked.once all]
  push_cast
  rfl

theorem client_lazies (all : ∀ pod, pod ∈ checked.present) :
    checked.client.lazyCreates = 0 ↔
      ∀ pod, (checked.state.1.pods pod).lazyCreates = 0 := by
  have same : ((checked.present.map checked.result).map reportOf).map
      PodReport.lazyCreates =
        checked.present.map fun pod => ((checked.state.1.pods pod).lazyCreates : ℤ) := by
    rw [List.map_map, List.map_map]
    apply List.map_congr_left
    intro pod _
    simp only [Function.comp_apply, reportOf, (checked.reports pod).lazyCreates]
  simp only [client, summarizeReports, same]
  rw [sum_present checked.once all, ← Nat.cast_sum, Int.natCast_eq_zero,
    Finset.sum_eq_zero_iff]
  simp

end Checked

/-- Of a fleet with no more pods than streams whose appends carry one record each, the check
passes exactly when no pod's result is missing, no stream had to be created in the loop, every
stream is found, and as many appends are stored without an acknowledgement as are acknowledged
without being stored. Where no result is missing and every stream is found, the difference it
prints is the difference of these two. -/
theorem verdict_passes_iff (sized : fleet.Sized)
    (single : ∀ pod, (args pod).recsPerPost = 1) (checked : Checked fleet args) :
    clientSummary fleet.streams checked.files = some checked.client ∧
    ((∀ pod, pod ∈ checked.present) → AllFound fleet.streams checked.reply →
      (checked.server.totalRecords : ℤ) - checked.client.okTotalAllPhases =
        checked.state.1.ledger.doubtful.length - checked.state.1.ledger.owed.length) ∧
    (passes checked.client checked.server = true ↔
      (∀ pod, pod ∈ checked.present) ∧
      (∀ pod, (checked.state.1.pods pod).lazyCreates = 0) ∧
      AllFound fleet.streams checked.reply ∧
      checked.state.1.ledger.doubtful.length = checked.state.1.ledger.owed.length) := by
  have balanced := (ledger_balanced checked.reachable checked.finished).length_eq
  rw [List.length_append, List.length_append] at balanced
  have records : AllFound fleet.streams checked.reply →
      checked.server.totalRecords = checked.state.1.ledger.stored.length ∧
        checked.server.bytesDivideExactly = true := by
    intro found
    rw [Checked.server, checked.counts_eq]
    exact verified_records sized checked.reachable checked.positive checked.fits
      checked.heads found
  have found_iff : checked.server.streamsMissing = 0 ∧ checked.server.headErrors = 0 ↔
      AllFound fleet.streams checked.reply := by
    rw [Checked.server, checked.counts_eq]
    exact allFound_iff
  refine ⟨checked.clientSummary_files, ?_, ?_⟩
  · intro all found
    rw [(records found).1, checked.client_total single all]
    omega
  · simp only [passes, checks, List.all_cons, List.all_nil, Bool.and_true, Bool.and_eq_true,
      beq_iff_eq, checked.client_slices sized]
    constructor
    · rintro ⟨equal, all, lazies, missing, _, failed⟩
      have found := found_iff.mp ⟨missing, failed⟩
      rw [(records found).1, checked.client_total single all] at equal
      exact ⟨all, (checked.client_lazies all).mp lazies, found, by omega⟩
    · rintro ⟨all, lazies, found, even⟩
      have none_failed := found_iff.mpr found
      refine ⟨?_, all, (checked.client_lazies all).mpr lazies, none_failed.1,
        (records found).2, none_failed.2⟩
      rw [(records found).1, checked.client_total single all]
      omega

end

/-! ## Two pods -/

def pair : MultiStreamPool.Fleet := ⟨2, 2, 1⟩

theorem pair_sized : pair.Sized := by
  refine ⟨by decide, by decide, by decide, by decide, ?_⟩
  intro pod member
  have within : pod = 0 ∨ pod = 1 := by
    have bound : pod < 2 := member
    omega
  rcases within with first | second
  · rw [first]
    decide +kernel
  · rw [second]
    decide +kernel

def firstWorker : ClientIndex pair := (⟨0, by decide⟩, ⟨0, Nat.one_pos⟩)

def secondWorker : ClientIndex pair := (⟨1, by decide⟩, ⟨0, Nat.one_pos⟩)

theorem eq_worker (index : ClientIndex pair) : index = firstWorker ∨ index = secondWorker := by
  rcases index with ⟨⟨pod, pods⟩, ⟨w, workers⟩⟩
  have alone : w = 0 := Nat.lt_one_iff.mp workers
  subst alone
  have within : pod = 0 ∨ pod = 1 := by
    have bound : pod < 2 := pods
    omega
  rcases within with first | second
  · subst first
    exact .inl rfl
  · subst second
    exact .inr rfl

theorem eq_pod (pod : Fin pair.pods) : pod = firstWorker.1 ∨ pod = secondWorker.1 := by
  rcases eq_worker (pod, ⟨0, Nat.one_pos⟩) with first | second
  · exact .inl (congrArg Prod.fst first)
  · exact .inr (congrArg Prod.fst second)

def untilTen (_ : Fin pair.pods) : PoolArgs := ⟨1, 0, 0, 10⟩

/-- Of two appends of the first pod both are acknowledged, and one is stored. That of the
second pod is stored, and its answer is lost. -/
def lossMasked : List (ClientIndex pair × Happening) :=
  [(firstWorker, .work (.look 0 0 0)), (secondWorker, .work (.look 0 0 0)),
    (firstWorker, .work (.answer (.ok 200))), (secondWorker, .stores),
    (secondWorker, .work (.answer (.error []))), (firstWorker, .work (.go 5)),
    (firstWorker, .work (.go 5)), (firstWorker, .work (.go 5)), (firstWorker, .work (.go 5)),
    (firstWorker, .work (.look 6 6 6)), (firstWorker, .stores),
    (firstWorker, .work (.answer (.ok 200))), (firstWorker, .work (.go 7)),
    (firstWorker, .work (.go 7)), (firstWorker, .work (.go 7)), (firstWorker, .work (.go 7)),
    (firstWorker, .work (.look 12 12 12)), (firstWorker, .work (.go 12)),
    (secondWorker, .work (.go 5)), (secondWorker, .work (.go 5)),
    (secondWorker, .work (.go 5)), (secondWorker, .work (.look 12 12 12)),
    (secondWorker, .work (.go 12))]

def afterwards : Option (FleetState pair) :=
  TransitionSystem.perform (fun _ _ => true) (crewAct (clientAct pair untilTen))
    (beginning pair) lossMasked

def zero : decimals := ⟨0, decimals.zero_mem⟩

/-- What a pod with the slice that came to the state `shared` prints. -/
def resultOf (slice : Nat × Nat) (shared : Shared) : MultiStreamResult where
  model := .pool
  apiStyle := .durable
  target := []
  bucket := []
  basin := []
  streams := 2
  durationSecs := 10
  payloadBytes := 256
  ratePerStream := 0
  elapsedSecs := zero
  counts := shared.counts
  errors := shared.errors
  aggregateOpsPerSec := zero
  perStreamOpsPerSecMean := zero
  latencyMs := ⟨0, zero, zero, zero, zero, zero, zero⟩
  measureStartUnixMs := 0
  measureEndUnixMs := 10000
  okTotalAllPhases := shared.okAll
  lazyCreates := shared.lazyCreates
  podSliceLo := slice.1
  podSliceHi := slice.2

def oneRecord (_ : Nat) : Option HeadResponse := some ⟨200, some [50, 53, 54]⟩

theorem verified_oneRecord :
    ∃ run, (headLoop ⟨pair.streams, 256, 2⟩ oneRecord).system.Reachable run ∧
      run.control = .returned (.ok ⟨2, 0, 0, 0, 512⟩) := by
  have head : ∀ i, headOne (oneRecord i) = .ok (some 256) := by
    intro i
    show headOne (oneRecord 0) = _
    decide +kernel
  have absorbs : ∀ counts i, (headLoop ⟨pair.streams, 256, 2⟩ oneRecord).absorb counts
      ((headLoop ⟨pair.streams, 256, 2⟩ oneRecord).outcome i) =
        .ok (counts.add (.ok (some 256))) :=
    fun counts i => congrArg (fun result => Except.ok (HeadCounts.add counts result)) (head i)
  have begun : (headLoop ⟨pair.streams, 256, 2⟩ oneRecord).system.Reachable
    ⟨.filling, 0, [], [], ⟨0, 0, 0, 0, 0⟩, [], []⟩ := .initial rfl
  have one := begun.step (.push _ rfl (by decide) (by decide))
  have two := one.step (.push _ rfl (by decide) (by decide))
  have filled := two.step (.filled _ rfl (by decide))
  have second := filled.step (.complete _ 1 (by decide))
  have first := second.step (.complete _ 0 (by decide))
  have joined := first.step (.join _ 1 _ rfl (by decide) (absorbs _ 1))
  have both := joined.step (.join _ 0 _ rfl (by decide) (absorbs _ 0))
  have finished := both.step (.finish _ rfl (by decide))
  exact ⟨_, finished, rfl⟩

/-- A record that was lost is made up for by one whose answer was. -/
theorem verdict_passes_of_lossMasked :
    ∃ checked : Checked pair untilTen,
      checked.state.1.ledger.stored = [1, 0] ∧
        checked.state.1.ledger.acknowledged = [0, 0] ∧
        passes checked.client checked.server = true := by
  have run : afterwards.map (fun state =>
      ([(state.2 firstWorker).worker.control, (state.2 secondWorker).worker.control],
        [state.1.ledger.stored, state.1.ledger.acknowledged, state.1.ledger.doubtful,
          state.1.ledger.owed],
        [(state.1.pods firstWorker.1).lazyCreates,
          (state.1.pods secondWorker.1).lazyCreates])) =
          some ([.finished, .finished], [[1, 0], [0, 0], [1], [0]], [0, 0]) := by
    decide +kernel
  rw [Option.map_eq_some_iff] at run
  rcases run with ⟨state, performed, facts⟩
  simp only [Prod.mk.injEq, List.cons.injEq, and_true] at facts
  rcases facts with ⟨⟨firstEnds, secondEnds⟩, ⟨stored, acknowledged, doubtful, owed⟩,
    firstLazies, secondLazies⟩
  have reachable : (cluster pair untilTen).Reachable state :=
    TransitionSystem.reachable_of_perform (.initial rfl) performed
  have finished : Finished state := by
    intro index
    rcases eq_worker index with first | second
    · rw [first]
      exact firstEnds
    · rw [second]
      exact secondEnds
  have text : toStr [50, 53, 54] = some (offsetText none 256) := by decide +kernel
  let checked : Checked pair untilTen :=
    { state := state
      reachable := reachable
      finished := finished
      payload := 256
      concurrency := 2
      positive := by decide
      fits := by
        rw [stored]
        decide
      reply := oneRecord
      heads := by
        intro i member
        have within : i = 0 ∨ i = 1 := by
          have bound : i < 2 := member
          omega
        rw [stored]
        rcases within with first | second
        · rw [first]
          exact .found 200 _ none (by decide) text
        · rw [second]
          exact .found 200 _ none (by decide) text
      counts := ⟨2, 0, 0, 0, 512⟩
      verified := verified_oneRecord
      result := fun pod => resultOf (pair.slice pod) (state.1.pods pod)
      reports := fun pod => ⟨rfl, rfl, rfl, rfl⟩
      present := [secondWorker.1, firstWorker.1]
      once := by decide }
  have verdict := (verdict_passes_iff pair_sized (fun _ => rfl) checked).2.2
  refine ⟨checked, stored, acknowledged, verdict.mpr ⟨?_, ?_, ?_, ?_⟩⟩
  · intro pod
    rcases eq_pod pod with first | second
    · rw [first]
      exact .tail _ (.head _)
    · rw [second]
      exact .head _
  · intro pod
    rcases eq_pod pod with first | second
    · rw [first]
      exact firstLazies
    · rw [second]
      exact secondLazies
  · intro i _
    show (foundBytes (headOne (oneRecord 0))).isSome = true
    decide +kernel
  · show state.1.ledger.doubtful.length = state.1.ledger.owed.length
    rw [doubtful, owed]
    rfl

end DsBench.Harness.WriteVerdict
