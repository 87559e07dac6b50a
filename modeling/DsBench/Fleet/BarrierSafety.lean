import DsBench.Fleet.Barrier
import Mathlib.Data.Finset.Image
import Mathlib.Data.Fintype.Card

/-! # Safety of the start barrier

The invariant has three strands. Every ready marker, stored or in flight, belongs to
a pod that wrote its own. A listing never counts more markers than there are, so a
full listing means every pod is ready. And every copy of a go time, wherever it is,
is a copy of the one the leader published.
-/

namespace DsBench.Fleet.Barrier

/-! ## Markers and clocks -/

theorem listReady_le_card (markers : Finset Text) : listReady markers ≤ markers.card :=
  Finset.card_filter_le _ _

theorem listReady_mono {fewer more : Finset Text} (subset : fewer ⊆ more) :
    listReady fewer ≤ listReady more :=
  Finset.card_le_card (Finset.filter_subset_filter _ subset)

theorem millis_add (nanos wait : Nat) :
    millis (nanos + wait * 1000000) = millis nanos + wait := by
  unfold millis
  omega

theorem millis_mono {before after : Nat} (earlier : before ≤ after) :
    millis before ≤ millis after :=
  Nat.div_le_div_right earlier

theorem clientReadsGo_goText (pod : Pod) (goMs : Nat) :
    (goMs < 2 ^ 64 ∧ clientReadsGo pod (goText goMs) =
        .sleeping goMs pod.clock (pod.clock + (goMs - millis pod.clock) * 1000000) ∧
      millis pod.clock < goMs) ∨
    (goMs < 2 ^ 64 ∧ clientReadsGo pod (goText goMs) =
        .returned (.go goMs pod.clock) pod.clock ∧ goMs ≤ millis pod.clock) ∨
    (2 ^ 64 ≤ goMs ∧ clientReadsGo pod (goText goMs) =
        .returned .unparseable pod.clock) := by
  rw [clientReadsGo]
  rw [goText, trim_decimal_newline, parseU64_decimal]
  by_cases fits : goMs < 2 ^ 64
  · simp only [if_pos fits]
    by_cases ahead : millis pod.clock < goMs
    · exact .inl ⟨fits, by rw [if_pos (by omega)], ahead⟩
    · exact .inr (.inl ⟨fits, by rw [if_neg (by omega)], by omega⟩)
  · simp only [if_neg fits]
    exact .inr (.inr ⟨by omega, trivial⟩)

/-! ## The invariant -/

def LeaderPhase.published : LeaderPhase → Option Nat
  | .released goMs => some goMs
  | _ => none

def CopyOf (published : Option Nat) (text : Text) : Prop :=
  ∃ goMs, published = some goMs ∧ text = goText goMs

/-- Everything a pod knows about the go time came from the leader. -/
structure PodSafe (published : Option Nat) (pod : Pod) : Prop where
  goFile : ∀ text, pod.goFile = some text → CopyOf published text
  fetched : ∀ text, pod.relay = .fetched text → CopyOf published text
  sleeping : ∀ startMs readAt wake, pod.client = .sleeping startMs readAt wake →
    published = some startMs ∧ startMs ≤ millis wake
  released : ∀ startMs readAt instant,
    pod.client = .returned (.go startMs readAt) instant →
    published = some startMs ∧ (millis readAt < startMs → startMs ≤ millis instant)
  unparseable : ∀ instant, pod.client = .returned .unparseable instant →
    ∃ goMs, published = some goMs ∧ 2 ^ 64 ≤ goMs
  relaying : pod.relay ≠ .awaitingReady → pod.readyFile = true

def Backed {pods : Nat} (state : State pods) (name : Text) : Prop :=
  ∃ index : Fin pods, name = readyName index ∧ (state.pod index).readyFile = true

structure Safe {pods : Nat} (state : State pods) : Prop where
  podSafe : ∀ index, PodSafe state.leader.phase.published (state.pod index)
  unlaunched : state.leader.phase = .resetting →
    (∀ index, (state.pod index).beforeLaunch) ∧ state.markersInFlight = [] ∧
      state.goInFlight = none
  markers : state.leader.phase ≠ .resetting → ∀ name ∈ state.markers, Backed state name
  inFlight : ∀ name ∈ state.markersInFlight, Backed state name
  listed : ∀ n, state.leader.phase = .listed n → n ≤ listReady state.markers
  allReady : (state.leader.phase = .releasing ∨
      ∃ goMs, state.leader.phase = .released goMs) →
    state.leader.timedOut = false → ∀ index, (state.pod index).readyFile = true
  goInFlight : ∀ text, state.goInFlight = some text →
    CopyOf state.leader.phase.published text
  goObject : state.leader.phase ≠ .resetting → ∀ text, state.goObject = some text →
    CopyOf state.leader.phase.published text
  clockInRange : state.leader.clock < clockLimit
  goFits : ∀ goMs, state.leader.phase.published = some goMs → goMs < 2 ^ 64

theorem all_ready_of_markers {pods : Nat} {state : State pods}
    (backed : ∀ name ∈ state.markers, Backed state name)
    (enough : pods ≤ listReady state.markers) (index : Fin pods) :
    (state.pod index).readyFile = true := by
  let ready := Finset.univ.filter fun index => (state.pod index).readyFile = true
  have subset : state.markers ⊆ ready.image fun index : Fin pods => readyName index := by
    intro name member
    rcases backed name member with ⟨owner, named, written⟩
    exact Finset.mem_image.mpr ⟨owner, by simp [ready, written], named.symm⟩
  have counted : pods ≤ ready.card :=
    calc
      pods ≤ listReady state.markers := enough
      _ ≤ state.markers.card := listReady_le_card _
      _ ≤ (ready.image fun index : Fin pods => readyName index).card :=
        Finset.card_le_card subset
      _ ≤ ready.card := Finset.card_image_le
  have everyPod : ready = Finset.univ := by
    apply Finset.eq_univ_of_card
    have atMost := Finset.card_le_univ ready
    rw [Fintype.card_fin] at atMost ⊢
    omega
  have member : index ∈ ready := everyPod ▸ Finset.mem_univ index
  exact (Finset.mem_filter.mp member).2

/-! ## Steps of one pod -/

variable {setup : Setup}

theorem State.setPod_pod {pods : Nat} (state : State pods) (index other : Fin pods)
    (pod : Pod) :
    (state.setPod index pod).pod other = if other = index then pod else state.pod other := by
  simp [State.setPod, Function.update_apply]

theorem Backed.setPod {pods : Nat} {state : State pods} {index : Fin pods} {pod : Pod}
    (kept : (state.pod index).readyFile = true → pod.readyFile = true) {name : Text}
    (backed : Backed state name) : Backed (state.setPod index pod) name := by
  rcases backed with ⟨owner, named, written⟩
  refine ⟨owner, named, ?_⟩
  rw [State.setPod_pod]
  split
  · rename_i own
    exact kept (own ▸ written)
  · exact written

theorem Safe.setPod {pods : Nat} {state : State pods} (safe : Safe state)
    {index : Fin pods} {pod : Pod}
    (podSafe : PodSafe state.leader.phase.published pod)
    (kept : (state.pod index).readyFile = true → pod.readyFile = true)
    (launched : state.leader.phase = .resetting → pod.beforeLaunch) :
    Safe (state.setPod index pod) where
  podSafe other := by
    rw [State.setPod_pod]
    split
    · exact podSafe
    · exact safe.podSafe other
  unlaunched resetting := by
    rcases safe.unlaunched resetting with ⟨before, noMarkers, noGo⟩
    refine ⟨fun other => ?_, noMarkers, noGo⟩
    rw [State.setPod_pod]
    split
    · exact launched resetting
    · exact before other
  markers reset name member := (safe.markers reset name member).setPod kept
  inFlight name member := (safe.inFlight name member).setPod kept
  listed := safe.listed
  allReady released inTime other := by
    rw [State.setPod_pod]
    split
    · exact kept (safe.allReady released inTime index)
    · exact safe.allReady released inTime other
  goInFlight := safe.goInFlight
  goObject := safe.goObject
  clockInRange := safe.clockInRange
  goFits := safe.goFits

theorem Safe.launched {pods : Nat} {state : State pods} (safe : Safe state)
    (index : Fin pods) (past : ¬ (state.pod index).beforeLaunch) :
    state.leader.phase ≠ .resetting := fun resetting =>
  past ((safe.unlaunched resetting).1 index)

theorem PodSafe.setClient {published : Option Nat} {pod : Pod}
    (podSafe : PodSafe published pod) {client : ClientPhase}
    (sleeping : ∀ startMs readAt wake, client = .sleeping startMs readAt wake →
      published = some startMs ∧ startMs ≤ millis wake)
    (released : ∀ startMs readAt instant, client = .returned (.go startMs readAt) instant →
      published = some startMs ∧ (millis readAt < startMs → startMs ≤ millis instant))
    (unparseable : ∀ instant, client = .returned .unparseable instant →
      ∃ goMs, published = some goMs ∧ 2 ^ 64 ≤ goMs) :
    PodSafe published { pod with client := client } :=
  ⟨podSafe.goFile, podSafe.fetched, sleeping, released, unparseable, podSafe.relaying⟩

theorem PodSafe.setRelay {published : Option Nat} {pod : Pod}
    (podSafe : PodSafe published pod) {relay : RelayPhase}
    (fetched : ∀ text, relay = .fetched text → CopyOf published text)
    (written : pod.readyFile = true) :
    PodSafe published { pod with relay := relay } :=
  ⟨podSafe.goFile, fetched, podSafe.sleeping, podSafe.released, podSafe.unparseable,
    fun _ => written⟩

theorem PodSafe.readGo {published : Option Nat} {pod : Pod}
    (podSafe : PodSafe published pod) {content : Text} (copy : CopyOf published content) :
    PodSafe published { pod with client := clientReadsGo pod content } := by
  rcases copy with ⟨goMs, known, rfl⟩
  rcases clientReadsGo_goText pod goMs with
    ⟨fits, asleep, ahead⟩ | ⟨fits, back, passed⟩ | ⟨large, back⟩
  · rw [asleep]
    refine podSafe.setClient ?_ (by simp) (by simp)
    intro startMs readAt wake equal
    cases equal
    refine ⟨known, ?_⟩
    rw [millis_add]
    omega
  · rw [back]
    refine podSafe.setClient (by simp) ?_ (by simp)
    intro startMs readAt instant equal
    cases equal
    exact ⟨known, fun _ => passed⟩
  · rw [back]
    apply podSafe.setClient (by simp) (by simp)
    intro instant equal
    cases equal
    exact ⟨goMs, known, large⟩

/-! ## Steps of the leader and the store -/

theorem Safe.setLeader {pods : Nat} {state : State pods} (safe : Safe state)
    {leader : Leader} (started : state.leader.phase ≠ .resetting)
    (samePublished : leader.phase.published = state.leader.phase.published)
    (stillStarted : leader.phase ≠ .resetting)
    (listed : ∀ n, leader.phase = .listed n → n ≤ listReady state.markers)
    (allReady : (leader.phase = .releasing ∨ ∃ goMs, leader.phase = .released goMs) →
      leader.timedOut = false → ∀ index, (state.pod index).readyFile = true)
    (sameClock : leader.clock = state.leader.clock) :
    Safe { state with leader := leader } where
  podSafe index := by
    rw [samePublished]
    exact safe.podSafe index
  unlaunched resetting := absurd resetting stillStarted
  markers _ := safe.markers started
  inFlight := safe.inFlight
  listed := listed
  allReady := allReady
  goInFlight := by
    rw [samePublished]
    exact safe.goInFlight
  goObject _ := by
    rw [samePublished]
    exact safe.goObject started
  clockInRange := by
    rw [sameClock]
    exact safe.clockInRange
  goFits := by
    rw [samePublished]
    exact safe.goFits

theorem Safe.setMarkers {pods : Nat} {state : State pods} (safe : Safe state)
    {name : Text} (started : state.leader.phase ≠ .resetting)
    (backed : Backed state name) {markersInFlight : List Text}
    (fewer : ∀ other ∈ markersInFlight, other ∈ state.markersInFlight) :
    Safe { state with
      markers := insert name state.markers
      markersInFlight := markersInFlight } where
  podSafe := safe.podSafe
  unlaunched resetting := absurd resetting started
  markers _ other member := by
    rcases Finset.mem_insert.mp member with fresh | earlier
    · rw [fresh]
      exact backed
    · exact safe.markers started other earlier
  inFlight other member := safe.inFlight other (fewer other member)
  listed n listed := (safe.listed n listed).trans
    (listReady_mono (Finset.subset_insert _ _))
  allReady := safe.allReady
  goInFlight := safe.goInFlight
  goObject := safe.goObject
  clockInRange := safe.clockInRange
  goFits := safe.goFits

theorem Safe.sendMarker {pods : Nat} {state : State pods} (safe : Safe state)
    {name : Text} (started : state.leader.phase ≠ .resetting)
    (backed : Backed state name) :
    Safe { state with markersInFlight := name :: state.markersInFlight } where
  podSafe := safe.podSafe
  unlaunched resetting := absurd resetting started
  markers := safe.markers
  inFlight other member := by
    rcases List.mem_cons.mp member with fresh | earlier
    · rw [fresh]
      exact backed
    · exact safe.inFlight other earlier
  listed := safe.listed
  allReady := safe.allReady
  goInFlight := safe.goInFlight
  goObject := safe.goObject
  clockInRange := safe.clockInRange
  goFits := safe.goFits

theorem Safe.started_of_inFlight {pods : Nat} {state : State pods} (safe : Safe state)
    {name : Text} (inFlight : name ∈ state.markersInFlight) :
    state.leader.phase ≠ .resetting := by
  intro resetting
  rw [(safe.unlaunched resetting).2.1] at inFlight
  cases inFlight

theorem PodSafe.publish {pod : Pod} (podSafe : PodSafe none pod)
    (published : Option Nat) : PodSafe published pod where
  goFile text found := by
    rcases podSafe.goFile text found with ⟨_, never, _⟩
    cases never
  fetched text found := by
    rcases podSafe.fetched text found with ⟨_, never, _⟩
    cases never
  sleeping startMs readAt wake asleep :=
    absurd (podSafe.sleeping startMs readAt wake asleep).1 (by simp)
  released startMs readAt instant back :=
    absurd (podSafe.released startMs readAt instant back).1 (by simp)
  unparseable instant back := by
    rcases podSafe.unparseable instant back with ⟨_, never, _⟩
    cases never
  relaying := podSafe.relaying

theorem Safe.publishes {state : State setup.pods} (safe : Safe state) {goMs : Nat}
    (releasing : state.leader.phase = .releasing)
    (chosen : goMs = (secs state.leader.clock + setup.headroomSecs) * 1000) :
    Safe { state.setLeader (.released goMs) with goInFlight := some (goText goMs) } where
  podSafe index := by
    have before := safe.podSafe index
    rw [releasing] at before
    exact before.publish _
  unlaunched resetting := by cases resetting
  markers _ := safe.markers (by simp [releasing])
  inFlight := safe.inFlight
  listed n listed := by cases listed
  allReady _ := safe.allReady (.inl releasing)
  goInFlight text sent := ⟨goMs, rfl, (Option.some.inj sent).symm⟩
  goObject _ text stored := by
    rcases safe.goObject (by simp [releasing]) text stored with ⟨_, never, _⟩
    rw [releasing] at never
    cases never
  clockInRange := safe.clockInRange
  goFits := by
    intro _ equal
    cases equal
    have clock := safe.clockInRange
    have headroom := setup.headroomFits
    rw [clockLimit] at clock
    rw [secs] at chosen
    omega

theorem Safe.resets {state : State setup.pods} (safe : Safe state)
    (resetting : state.leader.phase = .resetting) (deadline : Nat) :
    Safe { state with
      leader := { state.leader with phase := .counting, deadline := deadline }
      markers := ∅
      goObject := none } where
  podSafe index := by
    have before := safe.podSafe index
    rw [resetting] at before
    exact before
  unlaunched impossible := by cases impossible
  markers _ name member := absurd member (Finset.notMem_empty name)
  inFlight name member := absurd member (by simp [(safe.unlaunched resetting).2.1])
  listed n listed := by cases listed
  allReady ended := by
    rcases ended with ended | ⟨_, ended⟩ <;> cases ended
  goInFlight text sent := by
    rw [(safe.unlaunched resetting).2.2] at sent
    cases sent
  goObject _ text stored := by cases stored
  clockInRange := safe.clockInRange
  goFits _ never := by cases never

theorem Safe.goLands {pods : Nat} {state : State pods} (safe : Safe state) {text : Text}
    (inFlight : state.goInFlight = some text) :
    Safe { state with goObject := some text, goInFlight := none } where
  podSafe := safe.podSafe
  unlaunched resetting := by
    rcases safe.unlaunched resetting with ⟨before, noMarkers, -⟩
    exact ⟨before, noMarkers, rfl⟩
  markers := safe.markers
  inFlight := safe.inFlight
  listed := safe.listed
  allReady := safe.allReady
  goInFlight other sent := by cases sent
  goObject _ other stored := by
    cases stored
    exact safe.goInFlight text inFlight
  clockInRange := safe.clockInRange
  goFits := safe.goFits

/-! ## Every step keeps the barrier safe -/

theorem Safe.step {before after : State setup.pods} (safe : Safe before)
    (step : Step setup before after) : Safe after := by
  -- A step of a pod that has left its launch state cannot fall before the reset.
  have past : ∀ (index : Fin setup.pods) {pod : Pod},
      ¬ (before.pod index).beforeLaunch →
      before.leader.phase = .resetting → pod.beforeLaunch :=
    fun _ _ past resetting => absurd resetting (safe.launched _ past)
  cases step with
  | leaderTick elapsed inRange =>
      exact ⟨safe.podSafe, safe.unlaunched, safe.markers, safe.inFlight, safe.listed,
        safe.allReady, safe.goInFlight, safe.goObject, inRange, safe.goFits⟩
  | leaderResets resetting => exact safe.resets resetting _
  | leaderLists counting =>
      refine safe.setLeader (by simp [counting]) (by rw [counting]; rfl) (by simp) ?_
        (by simp) rfl
      intro n equal
      cases equal
      exact le_refl _
  | leaderListFails counting =>
      refine safe.setLeader (by simp [counting]) (by rw [counting]; rfl) (by simp) ?_
        (by simp) rfl
      intro n equal
      cases equal
      exact Nat.zero_le _
  | leaderHasAll n listed all =>
      have started : before.leader.phase ≠ .resetting := by simp [listed]
      exact safe.setLeader started (by rw [listed]; rfl) (by simp) (by simp)
        (fun _ _ => all_ready_of_markers (safe.markers started)
          (all.trans (safe.listed n listed))) rfl
  | leaderTimesOut n listed some late =>
      exact safe.setLeader (by simp [listed]) (by rw [listed]; rfl) (by simp) (by simp)
        (by simp) rfl
  | leaderPauses n listed some inTime =>
      exact safe.setLeader (by simp [listed]) (by rw [listed]; rfl) (by simp) (by simp)
        (by simp) rfl
  | leaderResumes wake pausing due =>
      exact safe.setLeader (by simp [pausing]) (by rw [pausing]; rfl) (by simp) (by simp)
        (by simp) rfl
  | leaderPublishes goMs releasing chosen => exact safe.publishes releasing chosen
  | goLands text inFlight => exact safe.goLands inFlight
  | goLost =>
      exact ⟨safe.podSafe,
        fun resetting =>
          ⟨(safe.unlaunched resetting).1, (safe.unlaunched resetting).2.1, rfl⟩,
        safe.markers, safe.inFlight, safe.listed, safe.allReady, by simp, safe.goObject,
        safe.clockInRange, safe.goFits⟩
  | markerLands name inFlight =>
      exact safe.setMarkers (safe.started_of_inFlight inFlight)
        (safe.inFlight name inFlight) (fun _ => List.mem_of_mem_erase)
  | markerLost name =>
      exact ⟨safe.podSafe,
        fun resetting => ⟨(safe.unlaunched resetting).1,
          by simp [(safe.unlaunched resetting).2.1], (safe.unlaunched resetting).2.2⟩,
        safe.markers,
        fun other member => safe.inFlight other (List.mem_of_mem_erase member),
        safe.listed, safe.allReady, safe.goInFlight, safe.goObject, safe.clockInRange,
        safe.goFits⟩
  | podTick index elapsed =>
      have podSafe := safe.podSafe index
      exact safe.setPod ⟨podSafe.goFile, podSafe.fetched, podSafe.sleeping,
        podSafe.released, podSafe.unparseable, podSafe.relaying⟩ id
        fun resetting => (safe.unlaunched resetting).1 index
  | podLaunches index applied notLaunched =>
      exact safe.setPod ((safe.podSafe index).setClient (by simp) (by simp) (by simp)) id
        fun resetting => absurd resetting applied
  | clientReady index settingUp =>
      have podSafe := safe.podSafe index
      exact safe.setPod ⟨podSafe.goFile, podSafe.fetched, by simp, by simp, by simp,
        fun _ => rfl⟩ (fun _ => rfl) (past index (by simp [Pod.beforeLaunch, settingUp]))
  | clientCannotMark index settingUp =>
      exact safe.setPod ((safe.podSafe index).setClient (by simp) (by simp) (by simp)) id
        (past index (by simp [Pod.beforeLaunch, settingUp]))
  | clientReads index deadline content polling arrived =>
      have podSafe := safe.podSafe index
      exact safe.setPod (podSafe.readGo (podSafe.goFile content arrived)) id
        (past index (by simp [Pod.beforeLaunch, polling]))
  | clientTimesOut index deadline polling missing late =>
      exact safe.setPod ((safe.podSafe index).setClient (by simp) (by simp) (by simp)) id
        (past index (by simp [Pod.beforeLaunch, polling]))
  | clientNaps index deadline polling missing inTime =>
      exact safe.setPod ((safe.podSafe index).setClient (by simp) (by simp) (by simp)) id
        (past index (by simp [Pod.beforeLaunch, polling]))
  | clientPolls index deadline wake napping due =>
      exact safe.setPod ((safe.podSafe index).setClient (by simp) (by simp) (by simp)) id
        (past index (by simp [Pod.beforeLaunch, napping]))
  | clientWakes index startMs readAt wake sleeping due =>
      rcases (safe.podSafe index).sleeping startMs readAt wake sleeping with
        ⟨known, reached⟩
      refine safe.setPod ((safe.podSafe index).setClient (by simp) ?_ (by simp)) id
        (past index (by simp [Pod.beforeLaunch, sleeping]))
      intro _ _ _ equal
      cases equal
      exact ⟨known, fun _ => reached.trans (millis_mono due)⟩
  | relayStarts index awaiting written =>
      exact safe.setPod ((safe.podSafe index).setRelay (by simp) written) id
        (past index (by simp [Pod.beforeLaunch, written]))
  | relayUploads index tries uploading left =>
      have written := (safe.podSafe index).relaying (by simp [uploading])
      have polling : PodSafe _ { before.pod index with relay := .polling } :=
        (safe.podSafe index).setRelay (by simp) written
      have moved : Safe (before.setPod index _) := safe.setPod polling id
        (past index (by simp [Pod.beforeLaunch, uploading]))
      exact moved.setMarkers (safe.launched index
          (by simp [Pod.beforeLaunch, uploading]))
        ⟨index, rfl, by simp [State.setPod_pod, written]⟩ (fun _ member => member)
  | relayUploadFails index tries uploading left =>
      have written := (safe.podSafe index).relaying (by simp [uploading])
      have retrying : PodSafe _ { before.pod index with relay := .uploading (tries + 1) } :=
        (safe.podSafe index).setRelay (by simp) written
      have moved : Safe (before.setPod index _) := safe.setPod retrying id
        (past index (by simp [Pod.beforeLaunch, uploading]))
      exact moved.sendMarker (safe.launched index
          (by simp [Pod.beforeLaunch, uploading]))
        ⟨index, rfl, by simp [State.setPod_pod, written]⟩
  | relayGivesUp index tries uploading spent =>
      have written := (safe.podSafe index).relaying (by simp [uploading])
      exact safe.setPod ((safe.podSafe index).setRelay (by simp) written) id
        (past index (by simp [Pod.beforeLaunch, uploading]))
  | relayFetches index content polling published nonempty =>
      have written := (safe.podSafe index).relaying (by simp [polling])
      have launched := safe.launched index
        (by simp [Pod.beforeLaunch, polling])
      refine safe.setPod ((safe.podSafe index).setRelay ?_ written) id
        (past index (by simp [Pod.beforeLaunch, polling]))
      intro text equal
      cases equal
      exact safe.goObject launched content published
  | relayMoves index goTmp fetched =>
      have podSafe := safe.podSafe index
      have written := podSafe.relaying (by simp [fetched])
      refine safe.setPod ⟨?_, by simp, podSafe.sleeping, podSafe.released,
        podSafe.unparseable, fun _ => written⟩ id
        (past index (by simp [Pod.beforeLaunch, fetched]))
      intro text equal
      cases equal
      exact podSafe.fetched goTmp fetched

theorem safe_invariant (setup : Setup) : (barrierSystem setup).Invariant Safe where
  initially := by
    intro state initial
    rcases initial with ⟨resetting, inTime, inRange, before, noMarkers, noGo⟩
    exact {
      podSafe := fun index => by
        rcases before index with ⟨notLaunched, awaiting, noReady, noGoFile⟩
        exact ⟨by simp [noGoFile], by simp [awaiting], by simp [notLaunched],
          by simp [notLaunched], by simp [notLaunched], by simp [awaiting]⟩
      unlaunched := fun _ => ⟨before, noMarkers, noGo⟩
      markers := fun started => absurd resetting started
      inFlight := by simp [noMarkers]
      listed := by simp [resetting]
      allReady := by simp [resetting]
      goInFlight := by simp [noGo]
      goObject := fun started => absurd resetting started
      clockInRange := inRange
      goFits := by simp [resetting, LeaderPhase.published] }
  preserved _ _ safe step := safe.step step

/-! ## The barrier holds -/

/-- No timeout has fired and every client could write its marker. -/
def Orderly {pods : Nat} (state : State pods) : Prop :=
  state.leader.timedOut = false ∧ ∀ index instant,
    (state.pod index).client ≠ .returned .timedOut instant ∧
    (state.pod index).client ≠ .returned .noMarker instant

theorem LeaderPhase.eq_released {phase : LeaderPhase} {goMs : Nat}
    (published : phase.published = some goMs) : phase = .released goMs := by
  cases phase <;> simp_all [LeaderPhase.published]

/-- In an orderly run a client comes back only through the go time the leader published,
and not before its own clock shows it. -/
theorem Safe.release_of_returned {pods : Nat} {state : State pods} (safe : Safe state)
    (orderly : Orderly state) {index : Fin pods} {release : Release}
    {instant : Nat} (returned : (state.pod index).client = .returned release instant) :
    ∃ goMs readAt, state.leader.phase = .released goMs ∧ release = .go goMs readAt ∧
      (millis readAt < goMs → goMs ≤ millis instant) := by
  have podSafe := safe.podSafe index
  cases release with
  | go startMs readAt =>
      rcases podSafe.released _ _ _ returned with ⟨known, reached⟩
      exact ⟨startMs, readAt, LeaderPhase.eq_released known, rfl, reached⟩
  | unparseable =>
      rcases podSafe.unparseable instant returned with ⟨goMs, known, large⟩
      exact absurd (safe.goFits goMs known) (by omega)
  | timedOut => exact absurd returned (orderly.2 index instant).1
  | noMarker => exact absurd returned (orderly.2 index instant).2

/-- In every reachable orderly state, once any client has returned every pod has
written ready, and a client that read the go time before its clock reached it
returned only once it had. -/
theorem barrier_safe (setup : Setup) (state : State setup.pods)
    (reachable : (barrierSystem setup).Reachable state)
    (orderly : Orderly state) (index : Fin setup.pods) (release : Release)
    (instant : Nat)
    (returned : (state.pod index).client = .returned release instant) :
    (∀ other, (state.pod other).readyFile = true) ∧
    ∃ goMs readAt, state.leader.phase = .released goMs ∧ release = .go goMs readAt ∧
      (millis readAt < goMs → goMs ≤ millis instant) := by
  have safe := (safe_invariant setup).of_reachable reachable
  rcases safe.release_of_returned orderly returned with
    ⟨goMs, readAt, released, through, reached⟩
  exact ⟨safe.allReady (.inr ⟨goMs, released⟩) orderly.1, goMs, readAt, released,
    through, reached⟩

def pairSetup : Setup := ⟨2, 2000000000, 5, 900, 3600000000000, by decide⟩

def firstPod : Fin pairSetup.pods := ⟨0, by decide⟩

def secondPod : Fin pairSetup.pods := ⟨1, by decide⟩

theorem eq_pod (index : Fin pairSetup.pods) : index = firstPod ∨ index = secondPod := by
  have bound : index.val < 2 := index.isLt
  rw [Fin.ext_iff, Fin.ext_iff, firstPod, secondPod]
  dsimp only
  omega

theorem ne_pod : secondPod ≠ firstPod := by decide

def pairState (leader : Leader) (first second : Pod) (markers : Finset Text)
    (go : Option Text) (markersInFlight : List Text) (goInFlight : Option Text) :
    State pairSetup.pods where
  leader := leader
  pod index := if index = firstPod then first else second
  markers := markers
  goObject := go
  markersInFlight := markersInFlight
  goInFlight := goInFlight

def unlaunched : Pod := ⟨0, .notLaunched, .awaitingReady, false, none⟩

def waiting (relay : RelayPhase) : Pod := ⟨0, .polling 3600000000000, relay, true, none⟩

theorem reaches {before after : State pairSetup.pods} {leader : Leader} {first second : Pod}
    {markers : Finset Text} {go : Option Text} {markersInFlight : List Text}
    {goInFlight : Option Text} (reached : (barrierSystem pairSetup).Reachable before)
    (step : Step pairSetup before after)
    (same : after.leader = leader ∧ after.pod firstPod = first ∧
      after.pod secondPod = second ∧ after.markers = markers ∧ after.goObject = go ∧
      after.markersInFlight = markersInFlight ∧ after.goInFlight = goInFlight) :
    (barrierSystem pairSetup).Reachable
      (pairState leader first second markers go markersInFlight goInFlight) := by
  have reachedAfter : (barrierSystem pairSetup).Reachable after := reached.step step
  rcases after with ⟨_, pod, _, _, _, _⟩
  rcases same with ⟨rfl, rfl, rfl, rfl, rfl, rfl, rfl⟩
  rw [pairState]
  convert reachedAfter using 2
  funext index
  rcases eq_pod index with same | same
  · rw [same, if_pos rfl]
  · rw [same, if_neg ne_pod]

theorem first_reports :
    (barrierSystem pairSetup).Reachable (pairState ⟨0, .counting, 900, false⟩
      (waiting .polling) unlaunched {readyName 0} none [] none) := by
  have start : (barrierSystem pairSetup).Reachable (pairState ⟨0, .resetting, 0, false⟩
      unlaunched unlaunched {readyName 0} (some (goText 1)) [] none) := by
    refine .initial ⟨rfl, rfl, by decide, ?_, rfl, rfl⟩
    intro index
    rcases eq_pod index with same | same
    · rw [same]
      exact ⟨rfl, rfl, rfl, rfl⟩
    · rw [same]
      exact ⟨rfl, rfl, rfl, rfl⟩
  have reset : (barrierSystem pairSetup).Reachable (pairState ⟨0, .counting, 900, false⟩
      unlaunched unlaunched ∅ none [] none) :=
    reaches start (.leaderResets _ rfl) ⟨rfl, rfl, rfl, rfl, rfl, rfl, rfl⟩
  have launched : (barrierSystem pairSetup).Reachable (pairState ⟨0, .counting, 900, false⟩
      { unlaunched with client := .settingUp } unlaunched ∅ none [] none) :=
    reaches reset (.podLaunches _ firstPod nofun rfl) ⟨rfl, rfl, rfl, rfl, rfl, rfl, rfl⟩
  have ready : (barrierSystem pairSetup).Reachable (pairState ⟨0, .counting, 900, false⟩
      (waiting .awaitingReady) unlaunched ∅ none [] none) :=
    reaches launched (.clientReady _ firstPod rfl) ⟨rfl, rfl, rfl, rfl, rfl, rfl, rfl⟩
  have relayed : (barrierSystem pairSetup).Reachable (pairState ⟨0, .counting, 900, false⟩
      (waiting (.uploading 0)) unlaunched ∅ none [] none) :=
    reaches ready (.relayStarts _ firstPod rfl rfl) ⟨rfl, rfl, rfl, rfl, rfl, rfl, rfl⟩
  exact reaches relayed (.relayUploads _ firstPod 0 rfl (by decide))
    ⟨rfl, rfl, rfl, rfl, rfl, rfl, rfl⟩

/-- The upload of the second pod's marker is reported as failed and lands all the same. -/
theorem second_reports :
    (barrierSystem pairSetup).Reachable (pairState ⟨0, .counting, 900, false⟩
      (waiting .polling) (waiting (.uploading 1)) {readyName 1, readyName 0} none [] none) := by
  have launched : (barrierSystem pairSetup).Reachable (pairState ⟨0, .counting, 900, false⟩
      (waiting .polling) { unlaunched with client := .settingUp } {readyName 0} none [] none) :=
    reaches first_reports (.podLaunches _ secondPod nofun rfl)
      ⟨rfl, rfl, rfl, rfl, rfl, rfl, rfl⟩
  have ready : (barrierSystem pairSetup).Reachable (pairState ⟨0, .counting, 900, false⟩
      (waiting .polling) (waiting .awaitingReady) {readyName 0} none [] none) :=
    reaches launched (.clientReady _ secondPod rfl) ⟨rfl, rfl, rfl, rfl, rfl, rfl, rfl⟩
  have relayed : (barrierSystem pairSetup).Reachable (pairState ⟨0, .counting, 900, false⟩
      (waiting .polling) (waiting (.uploading 0)) {readyName 0} none [] none) :=
    reaches ready (.relayStarts _ secondPod rfl rfl) ⟨rfl, rfl, rfl, rfl, rfl, rfl, rfl⟩
  have failed : (barrierSystem pairSetup).Reachable (pairState ⟨0, .counting, 900, false⟩
      (waiting .polling) (waiting (.uploading 1)) {readyName 0} none [readyName 1] none) :=
    reaches relayed (.relayUploadFails _ secondPod 0 rfl (by decide))
      ⟨rfl, rfl, rfl, rfl, rfl, rfl, rfl⟩
  exact reaches failed (.markerLands _ (readyName 1) (List.mem_singleton_self _))
    ⟨rfl, rfl, rfl, rfl, rfl, List.erase_cons_head (readyName 1) [], rfl⟩

theorem pair_released :
    (barrierSystem pairSetup).Reachable (pairState ⟨0, .released 5000, 900, false⟩
      (waiting .polling) (waiting (.uploading 1)) {readyName 1, readyName 0}
      (some (goText 5000)) [] none) := by
  have listed : (barrierSystem pairSetup).Reachable (pairState ⟨0, .listed 2, 900, false⟩
      (waiting .polling) (waiting (.uploading 1)) {readyName 1, readyName 0} none [] none) :=
    reaches second_reports (.leaderLists _ rfl) ⟨by decide, rfl, rfl, rfl, rfl, rfl, rfl⟩
  have releasing : (barrierSystem pairSetup).Reachable (pairState ⟨0, .releasing, 900, false⟩
      (waiting .polling) (waiting (.uploading 1)) {readyName 1, readyName 0} none [] none) :=
    reaches listed (.leaderHasAll _ 2 rfl (by decide)) ⟨rfl, rfl, rfl, rfl, rfl, rfl, rfl⟩
  have published : (barrierSystem pairSetup).Reachable (pairState
      ⟨0, .released 5000, 900, false⟩ (waiting .polling) (waiting (.uploading 1))
      {readyName 1, readyName 0} none [] (some (goText 5000))) :=
    reaches releasing (.leaderPublishes _ 5000 rfl rfl) ⟨rfl, rfl, rfl, rfl, rfl, rfl, rfl⟩
  exact reaches published (.goLands _ _ rfl) ⟨rfl, rfl, rfl, rfl, rfl, rfl, rfl⟩

def started : Pod :=
  ⟨5000000000, .returned (.go 5000 0) 5000000000, .done, true, some (goText 5000)⟩

theorem first_starts :
    (barrierSystem pairSetup).Reachable (pairState ⟨0, .released 5000, 900, false⟩
      started (waiting (.uploading 1)) {readyName 1, readyName 0}
      (some (goText 5000)) [] none) := by
  have fetched : (barrierSystem pairSetup).Reachable (pairState
      ⟨0, .released 5000, 900, false⟩ (waiting (.fetched (goText 5000)))
      (waiting (.uploading 1)) {readyName 1, readyName 0} (some (goText 5000)) [] none) :=
    reaches pair_released (.relayFetches _ firstPod _ rfl rfl (by decide))
      ⟨rfl, rfl, rfl, rfl, rfl, rfl, rfl⟩
  have moved : (barrierSystem pairSetup).Reachable (pairState
      ⟨0, .released 5000, 900, false⟩ { waiting .done with goFile := some (goText 5000) }
      (waiting (.uploading 1)) {readyName 1, readyName 0} (some (goText 5000)) [] none) :=
    reaches fetched (.relayMoves _ firstPod _ rfl) ⟨rfl, rfl, rfl, rfl, rfl, rfl, rfl⟩
  have asleep : (barrierSystem pairSetup).Reachable (pairState
      ⟨0, .released 5000, 900, false⟩
      ⟨0, .sleeping 5000 0 5000000000, .done, true, some (goText 5000)⟩
      (waiting (.uploading 1)) {readyName 1, readyName 0} (some (goText 5000)) [] none) :=
    reaches moved (.clientReads _ firstPod _ _ rfl rfl)
      ⟨rfl, by decide, rfl, rfl, rfl, rfl, rfl⟩
  have due : (barrierSystem pairSetup).Reachable (pairState
      ⟨0, .released 5000, 900, false⟩
      ⟨5000000000, .sleeping 5000 0 5000000000, .done, true, some (goText 5000)⟩
      (waiting (.uploading 1)) {readyName 1, readyName 0} (some (goText 5000)) [] none) :=
    reaches asleep (.podTick _ firstPod 5000000000) ⟨rfl, rfl, rfl, rfl, rfl, rfl, rfl⟩
  exact reaches due (.clientWakes _ firstPod 5000 0 5000000000 rfl (le_refl _))
    ⟨rfl, rfl, rfl, rfl, rfl, rfl, rfl⟩

theorem pair_starts_on_time :
    ∃ state : State pairSetup.pods, (barrierSystem pairSetup).Reachable state ∧
      (state.pod firstPod).client = .returned (.go 5000 0) 5000000000 ∧
      (∀ other, (state.pod other).readyFile = true) := by
  refine ⟨_, first_starts, rfl, (barrier_safe pairSetup _ first_starts ⟨rfl, ?_⟩ firstPod
    (.go 5000 0) 5000000000 rfl).1⟩
  intro index instant
  rcases eq_pod index with same | same
  · rw [same]
    exact ⟨nofun, nofun⟩
  · rw [same]
    exact ⟨nofun, nofun⟩

end DsBench.Fleet.Barrier
