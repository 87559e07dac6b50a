import DsBench.Foundation.Decimal
import DsBench.Foundation.ProducerSession

/-! # Producer ownership across a fleet

Which stream and which producer id each writer task appends with. Every pod of a
fleet runs the same command; only `DS_BENCH_INSTANCE` tells the pods apart.
-/

namespace DsBench.Fleet

/-- The workloads that append through an idempotent producer session, with the
arguments that name or count their writers. -/
inductive Workload where
  | append (stream : Text) (connections : Nat)
  | multiStream (streams : Nat)
  | sustained (streams : Nat)
  | mixed (streams writersPerStream : Nat)
deriving DecidableEq, Repr

structure ProducerKey where
  stream : Text
  producerId : Text
deriving DecidableEq, Repr

/-- The pod's instance, `"0"` when the variable is unset or empty. -/
def instanceOf (environment : Option Text) : Text :=
  match environment with
  | none => ['0']
  | some name => if name = [] then ['0'] else name

/-- `DS_BENCH_INSTANCE` in pod number `pod` of an indexed Job. -/
def podEnvironment (pod : Nat) : Option Text := some (decimal pod)

@[simp] theorem instanceOf_podEnvironment (pod : Nat) :
    instanceOf (podEnvironment pod) = decimal pod := by
  simp [instanceOf, podEnvironment]

namespace Append

def producerId (environment : Option Text) (idx : Nat) : Text :=
  "bench-append-".toList ++ (instanceOf environment ++ '-' :: decimal idx)

end Append

namespace MultiStream

def instancePrefix (environment : Option Text) : Text :=
  'i' :: (instanceOf environment ++ ['-'])

def streamName (environment : Option Text) (idx : Nat) : Text :=
  instancePrefix environment ++ 's' :: padded 8 idx

def producerId (idx : Nat) : Text := "bench-".toList ++ decimal idx

end MultiStream

namespace Sustained

def streamName (idx : Nat) : Text := "sustained-".toList ++ padded 8 idx

def producerId (idx : Nat) : Text := "bench-sustained-".toList ++ decimal idx

end Sustained

namespace Mixed

def streamName (idx : Nat) : Text := 's' :: padded 6 idx

def producerId (writerIdx : Nat) : Text := "mixed-w".toList ++ decimal writerIdx

end Mixed

namespace Workload

def writers : Workload → Nat
  | .append _ connections => connections
  | .multiStream streams => streams
  | .sustained streams => streams
  | .mixed streams writersPerStream => writersPerStream * streams

def producerKey (environment : Option Text) (idx : Nat) : Workload → ProducerKey
  | .append stream _ => ⟨stream, Append.producerId environment idx⟩
  | .multiStream _ =>
      ⟨MultiStream.streamName environment idx, MultiStream.producerId idx⟩
  | .sustained _ => ⟨Sustained.streamName idx, Sustained.producerId idx⟩
  | .mixed streams _ => ⟨Mixed.streamName (idx % streams), Mixed.producerId idx⟩

/-- The workloads whose names carry the pod. -/
def PodNamespaced : Workload → Prop
  | .append _ _ => True
  | .multiStream _ => True
  | .sustained _ => False
  | .mixed _ _ => False

end Workload

abbrev WriterTask (workload : Workload) (pods : Nat) := Fin pods × Fin workload.writers

def taskKey (workload : Workload) (pods : Nat) (task : WriterTask workload pods) :
    ProducerKey :=
  workload.producerKey (podEnvironment task.1) task.2

/-! ## What the names tell apart -/

theorem Append.producerId_injective {pod otherPod idx otherIdx : Nat}
    (equal : Append.producerId (podEnvironment pod) idx =
      Append.producerId (podEnvironment otherPod) otherIdx) :
    pod = otherPod ∧ idx = otherIdx := by
  unfold Append.producerId at equal
  have numbered := List.append_cancel_left equal
  rw [instanceOf_podEnvironment, instanceOf_podEnvironment] at numbered
  have split := digits_append_inj (fun _ => isDigit_of_mem_decimal)
    (fun _ => isDigit_of_mem_decimal) (by simp) (by simp) numbered
  rcases split with ⟨samePod, rest⟩
  exact ⟨decimal_injective samePod, decimal_injective (List.cons.inj rest).2⟩

theorem MultiStream.streamName_injective {pod otherPod idx otherIdx : Nat}
    (equal : MultiStream.streamName (podEnvironment pod) idx =
      MultiStream.streamName (podEnvironment otherPod) otherIdx) :
    pod = otherPod ∧ idx = otherIdx := by
  simp only [MultiStream.streamName, MultiStream.instancePrefix,
    instanceOf_podEnvironment, List.cons_append, List.append_assoc] at equal
  have split := digits_append_inj (fun _ => isDigit_of_mem_decimal)
    (fun _ => isDigit_of_mem_decimal) (by simp) (by simp) (List.cons.inj equal).2
  rcases split with ⟨samePod, rest⟩
  have sameDigits := (List.cons.inj (List.cons.inj rest).2).2
  exact ⟨decimal_injective samePod, padded_injective 8 sameDigits⟩

theorem Sustained.producerId_injective : Function.Injective Sustained.producerId := by
  intro idx otherIdx equal
  exact decimal_injective (List.append_cancel_left equal)

theorem Mixed.producerId_injective : Function.Injective Mixed.producerId := by
  intro idx otherIdx equal
  exact decimal_injective (List.append_cancel_left equal)

theorem Workload.producerKey_injective (workload : Workload) (pod : Nat) :
    Function.Injective fun idx => workload.producerKey (podEnvironment pod) idx := by
  intro idx otherIdx equal
  cases workload with
  | append stream connections =>
      exact (Append.producerId_injective (ProducerKey.mk.inj equal).2).2
  | multiStream streams =>
      exact (MultiStream.streamName_injective (ProducerKey.mk.inj equal).1).2
  | sustained streams =>
      exact Sustained.producerId_injective (ProducerKey.mk.inj equal).2
  | mixed streams writersPerStream =>
      exact Mixed.producerId_injective (ProducerKey.mk.inj equal).2

theorem Workload.pod_eq_of_producerKey_eq {workload : Workload}
    (namespaced : workload.PodNamespaced) {pod otherPod idx otherIdx : Nat}
    (equal : workload.producerKey (podEnvironment pod) idx =
      workload.producerKey (podEnvironment otherPod) otherIdx) : pod = otherPod := by
  cases workload with
  | append stream connections =>
      exact (Append.producerId_injective (ProducerKey.mk.inj equal).2).1
  | multiStream streams =>
      exact (MultiStream.streamName_injective (ProducerKey.mk.inj equal).1).1
  | sustained streams => exact namespaced.elim
  | mixed streams writersPerStream => exact namespaced.elim

theorem Workload.producerKey_same_in_every_pod {workload : Workload}
    (shared : ¬ workload.PodNamespaced) (pod otherPod idx : Nat) :
    workload.producerKey (podEnvironment pod) idx =
      workload.producerKey (podEnvironment otherPod) idx := by
  cases workload with
  | append stream connections => exact absurd trivial shared
  | multiStream streams => exact absurd trivial shared
  | sustained streams => rfl
  | mixed streams writersPerStream => rfl

/-! ## Ownership -/

theorem taskKey_injective_iff (workload : Workload) (pods : Nat) :
    Function.Injective (taskKey workload pods) ↔
      workload.PodNamespaced ∨ pods ≤ 1 ∨ workload.writers = 0 := by
  constructor
  · intro injective
    by_contra shared
    rw [not_or, not_or] at shared
    rcases shared with ⟨notNamespaced, manyPods, someWriters⟩
    -- The first writers of the first two pods use one key.
    have equal := @injective (⟨0, by omega⟩, ⟨0, by omega⟩) (⟨1, by omega⟩, ⟨0, by omega⟩)
      (workload.producerKey_same_in_every_pod notNamespaced 0 1 0)
    simp at equal
  · intro condition task otherTask equal
    rcases task with ⟨pod, idx⟩
    rcases otherTask with ⟨otherPod, otherIdx⟩
    have samePod : pod = otherPod := by
      rcases condition with namespaced | single | none
      · exact Fin.ext (Workload.pod_eq_of_producerKey_eq namespaced equal)
      · exact Fin.ext (by omega)
      · exact absurd idx.isLt (by omega)
    subst samePod
    have sameIdx := workload.producerKey_injective pod equal
    rw [Prod.mk.injEq]
    exact ⟨rfl, Fin.ext sameIdx⟩

/-- No two writer tasks of the fleet share a session and no task's appends are ever
answered differently because of another's, exactly when the workload names its
producers by pod, or the fleet has no second pod or no writer. -/
theorem fleet_owns_producers_iff (workload : Workload) (pods : Nat) :
    (Function.Injective (taskKey workload pods) ∧ Undisturbed (taskKey workload pods)) ↔
      workload.PodNamespaced ∨ pods ≤ 1 ∨ workload.writers = 0 := by
  rw [undisturbed_iff_injective, and_self, taskKey_injective_iff]

def sustainedWriter (pod : Fin 2) : WriterTask (.sustained 1) 2 := (pod, ⟨0, by decide⟩)

/-- Both pods append to `sustained-00000000` as `bench-sustained-0`, and the second
pod's first append is taken for a retry of the first pod's. -/
theorem sustained_pods_share_a_producer :
    taskKey (.sustained 1) 2 (sustainedWriter 0) =
      taskKey (.sustained 1) 2 (sustainedWriter 1) ∧
    (answers (taskKey (.sustained 1) 2) (fun _ => Session.empty)
      [⟨sustainedWriter 0, 0⟩, ⟨sustainedWriter 1, 0⟩]).map Prod.snd =
        [.appended, .duplicate] ∧
    ¬ ∀ (workload : Workload) (pods : Nat), Function.Injective (taskKey workload pods) := by
  refine ⟨rfl, by decide, fun always => ?_⟩
  have same := @always (.sustained 1) 2 (sustainedWriter 0) (sustainedWriter 1) rfl
  exact absurd same (by decide)

end DsBench.Fleet
