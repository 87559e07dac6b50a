import DsBench.Fleet.ProducerOwnership
import DsBench.Harness.Plateau
import Mathlib.Data.Finset.Prod

/-! # The cardinality of a legacy fleet

Without connections per pod a write cell runs one writer per stream, and each pod
drives streams of its own. The walker hands every pod the same number of them.
-/

namespace DsBench.Harness

open Fleet

/-- The streams of each pod of a legacy fleet, rounded up. -/
def perpod (streamCount pods : Nat) : Nat := (streamCount + pods - 1) / pods

/-- The `--streams` value that `measure_pods` hands to every pod. -/
def streamsArg (streamCount pods connsPerPod : Nat) : Nat :=
  if 0 < connsPerPod then streamCount else perpod streamCount pods

def legacyFleetStreams (pods streams : Nat) : Finset Text :=
  (Finset.range pods ×ˢ Finset.range streams).image fun writer =>
    MultiStream.streamName (podEnvironment writer.1) writer.2

theorem card_legacyFleetStreams (pods streams : Nat) :
    (legacyFleetStreams pods streams).card = pods * streams := by
  rw [legacyFleetStreams, Finset.card_image_of_injective, Finset.card_product,
    Finset.card_range, Finset.card_range]
  intro writer other equal
  have same := MultiStream.streamName_injective equal
  exact Prod.ext same.1 same.2

theorem pods_mul_perpod_iff {streamCount pods : Nat} (positive : 0 < pods) :
    pods * perpod streamCount pods = streamCount ↔ pods ∣ streamCount := by
  constructor
  · intro exact_
    exact ⟨perpod streamCount pods, exact_.symm⟩
  · intro divides
    rcases divides with ⟨share, total⟩
    have rounded : streamCount + pods - 1 = pods - 1 + pods * share := by omega
    rw [perpod, rounded, Nat.add_mul_div_left _ _ positive,
      Nat.div_eq_of_lt (by omega : pods - 1 < pods), Nat.zero_add, ← total]

/-- A legacy fleet on a rung of the capped ladder drives the labelled number of streams
exactly if the rung divides it. -/
theorem legacy_cardinality_iff (streamCount : Nat) (ladder : List Nat) (pods : Nat)
    (rung : pods ∈ capLadder ladder streamCount) :
    (legacyFleetStreams pods (streamsArg streamCount pods 0)).card = streamCount ↔
      pods ∣ streamCount := by
  have positive : 0 < pods := ((capLadder_capped ladder streamCount).2 pods rung).1
  rw [card_legacyFleetStreams, streamsArg, if_neg (Nat.lt_irrefl 0),
    pods_mul_perpod_iff positive]

theorem legacy_cardinality_of_two_pods :
    (legacyFleetStreams 2 (streamsArg 3 2 0)).card = 3 ↔ 2 ∣ 3 :=
  legacy_cardinality_iff 3 [1, 2, 4] 2 (by decide)

/-- Two pods for three streams drive four. -/
theorem two_pods_drive_four_streams :
    2 ∈ capLadder [1, 2, 4] 3 ∧
      (legacyFleetStreams 2 (streamsArg 3 2 0)).card = 4 := by
  refine ⟨by decide, ?_⟩
  rw [card_legacyFleetStreams]
  decide

end DsBench.Harness
