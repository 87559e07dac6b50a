import DsBench.Foundation.ShellText
import DsBench.Foundation.TransitionSystem
import Mathlib.Algebra.Order.BigOperators.Group.List
import Mathlib.Tactic.Ring

/-! # The teardown watchdog

A watchdog runs beside a campaign and deletes its clusters at a deadline, or earlier what
is left of them once the campaign says that it is done. Meanwhile the cloud does as it
likes: others create and delete clusters, and a listing or a deletion may fail.
-/

namespace DsBench.Watchdog

/-! ## Clusters -/

structure Cluster where
  name : Text
  zone : Text
  named : IsWord name
  placed : IsWord zone
deriving DecidableEq

/-- A line of `gcloud container clusters list --format='value(name,zone)'`. -/
def Cluster.line (cluster : Cluster) : Text := cluster.name ++ '\t' :: cluster.zone

/-- What `gcloud container clusters delete` is given. -/
def Cluster.address (cluster : Cluster) : Text × Text := (cluster.name, cluster.zone)

theorem readPair_line (cluster : Cluster) : readPair cluster.line = cluster.address :=
  readPair_join cluster.named cluster.placed rfl

/-! ## The watchdog -/

/-- The environment of the script, and when it was started. `filter` says which lines
`grep -E "$CLUSTER_FILTER"` lets through. -/
structure Args where
  filter : Text → Bool
  start : Nat
  deadlineSecs : Nat
  pollSecs : Nat

def Args.deadline (args : Args) : Nat := args.start + args.deadlineSecs

def Args.matching (args : Args) (cluster : Cluster) : Bool := args.filter cluster.line

structure Listing where
  answered : Bool
  clusters : List Cluster

/-- `_matching`. A listing that fails prints nothing. -/
def Listing.lines (args : Args) (listing : Listing) : List Text :=
  if listing.answered then (listing.clusters.map Cluster.line).filter args.filter else []

/-- Where the script is. `late` says that it is in the loop after the deadline. -/
inductive Control where
  | heading
  | polling
  | checking
  | listing (late : Bool)
  | deleting (late : Bool) (queue : List Text)
  | verifying (late : Bool)
  | sleeping (late : Bool)
  | exited
deriving DecidableEq

/-- `reconciling` is how many more deletions of a cluster the cloud turns down; only a
steady cloud goes by it. What was deleted and listed is nothing the script keeps. -/
structure State where
  control : Control
  now : Nat
  clusters : List Cluster
  marked : Bool
  reconciling : Text × Text → Nat
  sawMarker : Bool
  deletes : List (Text × Text)
  listings : List Listing

/-- What happens next: the script goes on by itself, lists the clusters, tries to delete
one, or sleeps; or somebody else acts. -/
inductive Action where
  | go
  | list (answered : Bool)
  | delete (works : Bool)
  | sleep
  | create (cluster : Cluster)
  | remove (address : Text × Text)
  | mark (present : Bool)
deriving DecidableEq

def without (clusters : List Cluster) (address : Text × Text) : List Cluster :=
  clusters.filter fun cluster => cluster.address ≠ address

def heed (lines : List Text) : Control → Control
  | .checking => if lines = [] then .exited else .listing false
  | .listing late => .deleting late lines
  | .verifying late => if lines = [] then .exited else .sleeping late
  | control => control

/-- A step of the script or of its surroundings. -/
def step (args : Args) (state : State) : Action → Option State
  | .go =>
      match state.control with
      | .heading =>
          if state.now < args.deadline then some { state with control := .polling }
          else some { state with control := .listing true }
      | .polling =>
          if state.marked then some { state with control := .checking, sawMarker := true }
          else some { state with control := .sleeping false }
      | .deleting late [] => some { state with control := .verifying late }
      | _ => none
  | .list answered =>
      let listing : Listing := ⟨answered, state.clusters⟩
      let next : State := { state with
        control := heed (listing.lines args) state.control
        listings := state.listings ++ [listing] }
      match state.control with
      | .checking => some next
      | .listing _ => some next
      | .verifying _ => some next
      | _ => none
  | .delete works =>
      match state.control with
      | .deleting late (line :: queue) =>
          let address := readPair line
          let tried : State := { state with
            control := .deleting late queue, deletes := state.deletes ++ [address] }
          if works then
            if address ∈ state.clusters.map Cluster.address then
              some { tried with clusters := without state.clusters address }
            else none
          else
            some { tried with
              reconciling := Function.update state.reconciling address
                (state.reconciling address - 1) }
      | _ => none
  | .sleep =>
      match state.control with
      | .sleeping late =>
          some { state with
            control := if late then .listing true else .heading
            now := state.now + args.pollSecs }
      | _ => none
  | .create cluster => some { state with clusters := cluster :: state.clusters }
  | .remove address => some { state with clusters := without state.clusters address }
  | .mark present => some { state with marked := present }

def act (args : Args) (state : State) (action : Action × Nat) : Option State :=
  (step args state action.1).map fun next => { next with now := next.now + action.2 }

def Initial (args : Args) (state : State) : Prop :=
  state.control = .heading ∧ args.start ≤ state.now ∧ state.sawMarker = false ∧
    state.deletes = [] ∧ state.listings = []

def watchdog (args : Args) : TransitionSystem State :=
  .ofActions (Initial args) (fun _ _ => true) (act args)

/-- In a steady cloud every listing is answered, a deletion works unless the cluster is
reconciling or gone, and nobody else acts. -/
def steadily (state : State) : Action × Nat → Bool
  | (.list answered, _) => answered
  | (.delete works, _) =>
      match state.control with
      | .deleting _ (line :: _) =>
          works == decide (readPair line ∈ state.clusters.map Cluster.address ∧
            state.reconciling (readPair line) = 0)
      | _ => false
  | (.create _, _) => false
  | (.remove _, _) => false
  | (.mark _, _) => false
  | _ => true

def steadyWatchdog (args : Args) : TransitionSystem State :=
  .ofActions (Initial args) steadily (act args)

/-! ## What a step can be -/

def State.asked (state : State) (answered : Bool) (control : Control) : State :=
  { state with control, listings := state.listings ++ [⟨answered, state.clusters⟩] }

def State.tried (state : State) (late : Bool) (address : Text × Text) (queue : List Text) :
    State :=
  { state with control := .deleting late queue, deletes := state.deletes ++ [address] }

inductive Moves (args : Args) (state : State) : Action → State → Prop where
  | poll : state.control = .heading → state.now < args.deadline →
      Moves args state .go { state with control := .polling }
  | overdue : state.control = .heading → args.deadline ≤ state.now →
      Moves args state .go { state with control := .listing true }
  | marked : state.control = .polling →
      Moves args state .go { state with control := .checking, sawMarker := true }
  | unmarked : state.control = .polling →
      Moves args state .go { state with control := .sleeping false }
  | swept (late : Bool) : state.control = .deleting late [] →
      Moves args state .go { state with control := .verifying late }
  | checkedClear (answered : Bool) : state.control = .checking →
      Listing.lines args ⟨answered, state.clusters⟩ = [] →
      Moves args state (.list answered) (state.asked answered .exited)
  | checkedLeft (answered : Bool) : state.control = .checking →
      Listing.lines args ⟨answered, state.clusters⟩ ≠ [] →
      Moves args state (.list answered) (state.asked answered (.listing false))
  | listed (answered late : Bool) : state.control = .listing late →
      Moves args state (.list answered) (state.asked answered
        (.deleting late (Listing.lines args ⟨answered, state.clusters⟩)))
  | verifiedClear (answered late : Bool) : state.control = .verifying late →
      Listing.lines args ⟨answered, state.clusters⟩ = [] →
      Moves args state (.list answered) (state.asked answered .exited)
  | verifiedLeft (answered late : Bool) : state.control = .verifying late →
      Listing.lines args ⟨answered, state.clusters⟩ ≠ [] →
      Moves args state (.list answered) (state.asked answered (.sleeping late))
  | deleted (late : Bool) (line : Text) (queue : List Text) :
      state.control = .deleting late (line :: queue) →
      readPair line ∈ state.clusters.map Cluster.address →
      Moves args state (.delete true)
        { state.tried late (readPair line) queue with
          clusters := without state.clusters (readPair line) }
  | refused (late : Bool) (line : Text) (queue : List Text) :
      state.control = .deleting late (line :: queue) →
      Moves args state (.delete false)
        { state.tried late (readPair line) queue with
          reconciling := Function.update state.reconciling (readPair line)
            (state.reconciling (readPair line) - 1) }
  | woke (late : Bool) : state.control = .sleeping late →
      Moves args state .sleep { state with
        control := if late then .listing true else .heading
        now := state.now + args.pollSecs }
  | created (cluster : Cluster) : Moves args state (.create cluster)
      { state with clusters := cluster :: state.clusters }
  | removed (address : Text × Text) : Moves args state (.remove address)
      { state with clusters := without state.clusters address }
  | touched (present : Bool) : Moves args state (.mark present)
      { state with marked := present }

theorem step_moves {args : Args} {state next : State} {action : Action}
    (stepped : step args state action = some next) : Moves args state action next := by
  rcases state with ⟨control, now, clusters, marked, reconciling, sawMarker, deletes,
    listings⟩
  cases action with
  | go =>
      cases control with
      | heading =>
          simp only [step] at stepped
          split at stepped
          · rename_i early
            cases stepped
            exact .poll rfl early
          · rename_i late
            cases stepped
            exact .overdue rfl (Nat.le_of_not_lt late)
      | polling =>
          simp only [step] at stepped
          split at stepped
          · cases stepped
            exact .marked rfl
          · cases stepped
            exact .unmarked rfl
      | deleting late queue =>
          cases queue with
          | nil =>
              cases stepped
              exact .swept late rfl
          | cons line queue => cases stepped
      | _ => cases stepped
  | list answered =>
      cases control with
      | checking =>
          simp only [step, heed] at stepped
          split at stepped
          · rename_i clear
            cases stepped
            exact .checkedClear answered rfl clear
          · rename_i left
            cases stepped
            exact .checkedLeft answered rfl left
      | listing late =>
          cases stepped
          exact .listed answered late rfl
      | verifying late =>
          simp only [step, heed] at stepped
          split at stepped
          · rename_i clear
            cases stepped
            exact .verifiedClear answered late rfl clear
          · rename_i left
            cases stepped
            exact .verifiedLeft answered late rfl left
      | _ => cases stepped
  | delete works =>
      cases control with
      | deleting late queue =>
          cases queue with
          | nil => cases stepped
          | cons line queue =>
              cases works with
              | true =>
                  simp only [step, if_true, Option.ite_none_right_eq_some] at stepped
                  rcases stepped with ⟨there, same⟩
                  cases same
                  exact .deleted late line queue rfl there
              | false =>
                  cases stepped
                  exact .refused late line queue rfl
      | _ => cases stepped
  | sleep =>
      cases control with
      | sleeping late =>
          cases stepped
          exact .woke late rfl
      | _ => cases stepped
  | create cluster =>
      cases stepped
      exact .created cluster
  | remove address =>
      cases stepped
      exact .removed address
  | mark present =>
      cases stepped
      exact .touched present

theorem act_moves {args : Args} {state next : State} {action : Action × Nat}
    (acted : act args state action = some next) :
    ∃ moved, Moves args state action.1 moved ∧
      next = { moved with now := moved.now + action.2 } := by
  rw [act, Option.map_eq_some_iff] at acted
  rcases acted with ⟨moved, stepped, same⟩
  exact ⟨moved, step_moves stepped, same.symm⟩

/-! ## What it may delete -/

def State.Armed (args : Args) (state : State) : Prop :=
  state.sawMarker = true ∨ args.deadline ≤ state.now

def State.Listed (args : Args) (state : State) (cluster : Cluster) : Prop :=
  args.matching cluster = true ∧
    ∃ listing ∈ state.listings, listing.answered = true ∧ cluster ∈ listing.clusters

def Control.acts : Control → Bool
  | .heading => false
  | .polling => false
  | .sleeping false => false
  | _ => true

structure Safe (args : Args) (state : State) : Prop where
  queue : ∀ late queue, state.control = .deleting late queue → ∀ line ∈ queue,
    ∃ cluster, cluster.line = line ∧ state.Listed args cluster
  deletes : ∀ address ∈ state.deletes,
    ∃ cluster, cluster.address = address ∧ state.Listed args cluster
  armed : state.control.acts = true → state.Armed args
  called : state.deletes ≠ [] → state.Armed args
  clear : state.control = .exited →
    ∃ listing, state.listings.getLast? = some listing ∧ listing.lines args = []

theorem mem_lines {args : Args} {listing : Listing} {line : Text}
    (member : line ∈ listing.lines args) : listing.answered = true ∧
      ∃ cluster ∈ listing.clusters, cluster.line = line ∧ args.matching cluster = true := by
  rw [Listing.lines] at member
  split at member
  · rename_i answered
    rcases List.mem_filter.mp member with ⟨printed, passes⟩
    rcases List.mem_map.mp printed with ⟨cluster, listed, same⟩
    refine ⟨answered, cluster, listed, same, ?_⟩
    rw [Args.matching, same]
    exact passes
  · cases member

section

variable {args : Args} {state next : State}

theorem Safe.initially (initial : Initial args state) : Safe args state := by
  rcases initial with ⟨control, _, _, deletes, _⟩
  refine ⟨?_, ?_, ?_, ?_, ?_⟩
  · intro late queue same
    rw [control] at same
    cases same
  · intro address member
    rw [deletes] at member
    cases member
  · intro acts
    rw [control] at acts
    cases acts
  · intro some_
    exact absurd deletes some_
  · intro same
    rw [control] at same
    cases same

variable {action : Action}

theorem Moves.listings (moves : Moves args state action next) :
    state.listings <+: next.listings := by
  cases moves <;> first
    | exact List.prefix_refl _
    | exact List.prefix_append _ _

theorem Moves.keeps_listed (moves : Moves args state action next) {cluster : Cluster}
    (listed : state.Listed args cluster) : next.Listed args cluster := by
  rcases listed with ⟨passes, listing, member, rest⟩
  exact ⟨passes, listing, moves.listings.subset member, rest⟩

theorem Moves.armed (moves : Moves args state action next) (armed : state.Armed args) :
    next.Armed args := by
  cases moves with
  | marked => exact .inl rfl
  | woke late =>
      rcases armed with saw | over_
      · exact .inl saw
      · exact .inr (Nat.le_add_right_of_le over_)
  | _ => exact armed

theorem Moves.queue (moves : Moves args state action next) {late : Bool}
    {queue : List Text} (deleting : next.control = .deleting late queue) :
    (∃ earlier, state.control = .deleting late earlier ∧ queue <:+ earlier) ∨
      ∃ answered, queue = Listing.lines args ⟨answered, state.clusters⟩ ∧
        ⟨answered, state.clusters⟩ ∈ next.listings := by
  cases moves with
  | listed answered late control =>
      cases deleting
      exact .inr ⟨answered, rfl, List.mem_append_right _ List.mem_cons_self⟩
  | deleted late line queue control there =>
      cases deleting
      exact .inl ⟨_, control, List.suffix_cons _ _⟩
  | refused late line queue control =>
      cases deleting
      exact .inl ⟨_, control, List.suffix_cons _ _⟩
  | woke late control =>
      dsimp only at deleting
      split at deleting <;> cases deleting
  | created cluster => exact .inl ⟨queue, deleting, List.suffix_refl _⟩
  | removed address => exact .inl ⟨queue, deleting, List.suffix_refl _⟩
  | touched present => exact .inl ⟨queue, deleting, List.suffix_refl _⟩
  | _ => cases deleting

theorem Moves.deletes (moves : Moves args state action next) {address : Text × Text}
    (member : address ∈ next.deletes) : address ∈ state.deletes ∨
      ∃ late line queue, state.control = .deleting late (line :: queue) ∧
        readPair line = address := by
  cases moves with
  | deleted late line queue control there =>
      rcases List.mem_append.mp member with old | new
      · exact .inl old
      · exact .inr ⟨late, line, queue, control, (List.mem_singleton.mp new).symm⟩
  | refused late line queue control =>
      rcases List.mem_append.mp member with old | new
      · exact .inl old
      · exact .inr ⟨late, line, queue, control, (List.mem_singleton.mp new).symm⟩
  | _ => exact .inl member

theorem Moves.acts (moves : Moves args state action next)
    (acts : next.control.acts = true) : state.control.acts = true ∨ next.Armed args := by
  cases moves with
  | overdue control late => exact .inr (.inr late)
  | marked control => exact .inr (.inl rfl)
  | created cluster => exact .inl acts
  | removed address => exact .inl acts
  | touched present => exact .inl acts
  | poll control early => cases acts
  | unmarked control => cases acts
  | woke late control =>
      cases late with
      | true =>
          rw [control]
          exact .inl rfl
      | false => cases acts
  | swept late control =>
      rw [control]
      exact .inl rfl
  | checkedClear answered control clear =>
      rw [control]
      exact .inl rfl
  | checkedLeft answered control left =>
      rw [control]
      exact .inl rfl
  | listed answered late control =>
      rw [control]
      exact .inl rfl
  | verifiedClear answered late control clear =>
      rw [control]
      exact .inl rfl
  | verifiedLeft answered late control left =>
      rw [control]
      exact .inl rfl
  | deleted late line queue control there =>
      rw [control]
      exact .inl rfl
  | refused late line queue control =>
      rw [control]
      exact .inl rfl

theorem Moves.clear (moves : Moves args state action next)
    (exited : next.control = .exited) :
    (state.control = .exited ∧ next.listings = state.listings) ∨
      ∃ listing, next.listings.getLast? = some listing ∧ listing.lines args = [] := by
  cases moves with
  | checkedClear answered control clear =>
      exact .inr ⟨_, List.getLast?_concat, clear⟩
  | verifiedClear answered late control clear =>
      exact .inr ⟨_, List.getLast?_concat, clear⟩
  | created cluster => exact .inl ⟨exited, rfl⟩
  | removed address => exact .inl ⟨exited, rfl⟩
  | touched present => exact .inl ⟨exited, rfl⟩
  | woke late control =>
      dsimp only at exited
      split at exited <;> cases exited
  | _ => cases exited

theorem Safe.moves (safe : Safe args state) (moves : Moves args state action next) :
    Safe args next where
  queue := by
    intro late queue deleting line member
    rcases moves.queue deleting with ⟨earlier, control, part⟩ | ⟨answered, same, asked⟩
    · rcases safe.queue late earlier control line (part.subset member) with
        ⟨cluster, printed, listed⟩
      exact ⟨cluster, printed, moves.keeps_listed listed⟩
    · rw [same] at member
      rcases mem_lines member with ⟨heard, cluster, there, printed, passes⟩
      exact ⟨cluster, printed, passes, _, asked, heard, there⟩
  deletes := by
    intro address member
    rcases moves.deletes member with old | ⟨late, line, queue, control, same⟩
    · rcases safe.deletes address old with ⟨cluster, addressed, listed⟩
      exact ⟨cluster, addressed, moves.keeps_listed listed⟩
    · rcases safe.queue late _ control line List.mem_cons_self with
        ⟨cluster, printed, listed⟩
      refine ⟨cluster, ?_, moves.keeps_listed listed⟩
      rw [← same, ← printed, readPair_line]
  armed := by
    intro acts
    rcases moves.acts acts with before | armed
    · exact moves.armed (safe.armed before)
    · exact armed
  called := by
    intro some_
    rcases List.exists_mem_of_ne_nil _ some_ with ⟨address, member⟩
    rcases moves.deletes member with old | ⟨late, line, queue, control, _⟩
    · exact moves.armed (safe.called (List.ne_nil_of_mem old))
    · apply moves.armed (safe.armed _)
      rw [control]
      rfl
  clear := by
    intro exited
    rcases moves.clear exited with ⟨control, same⟩ | ended
    · rw [same]
      exact safe.clear control
    · exact ended

theorem Safe.later (safe : Safe args state) (elapsed : Nat) :
    Safe args { state with now := state.now + elapsed } where
  queue := safe.queue
  deletes := safe.deletes
  armed acts := (safe.armed acts).imp_right fun late => Nat.le_add_right_of_le late
  called some_ := (safe.called some_).imp_right fun late => Nat.le_add_right_of_le late
  clear := safe.clear

theorem Safe.acted (safe : Safe args state) {action : Action × Nat}
    (acted : act args state action = some next) : Safe args next := by
  rcases act_moves acted with ⟨moved, moves, same⟩
  rw [same]
  exact (safe.moves moves).later action.2

theorem safe_of_reachable (reachable : (watchdog args).Reachable state) :
    Safe args state := by
  have invariant : (watchdog args).Invariant (Safe args) := by
    constructor
    · intro state initial
      exact Safe.initially initial
    · intro before after safe stepped
      rcases stepped with ⟨action, _, acted⟩
      exact safe.acted acted
  exact invariant.of_reachable reachable

end

/-! ## A steady cloud -/

def State.patience (args : Args) (state : State) : Nat :=
  ((state.clusters.filter args.matching).map fun cluster =>
    state.reconciling cluster.address + 1).sum

def State.remaining (args : Args) (state : State) : Nat := args.deadline - state.now

def State.fresh (state : State) (queue : List Text) : Bool :=
  queue.any fun line => decide (readPair line ∈ state.clusters.map Cluster.address)

def State.queued (state : State) : Nat :=
  match state.control with
  | .deleting _ queue => queue.length
  | _ => 0

/-- How far a listing is off, where one is still to come: with nothing left to delete it
is the way to the end, otherwise to the next deletion. -/
def State.ahead (args : Args) (state : State) : Nat :=
  if state.patience args = 0 then 6 else 1

/-- How far the script is from its next deletion, or from its end. -/
def State.rank (args : Args) (state : State) : Nat :=
  match state.control with
  | .heading => if state.remaining args = 0 then state.ahead args + 1 else 10
  | .polling => 9
  | .checking => 2
  | .listing _ => state.ahead args
  | .deleting _ queue => if state.fresh queue then 0 else 5
  | .verifying _ => 4
  | .sleeping true => state.ahead args + 1
  | .sleeping false => if state.remaining args = 0 then state.ahead args + 2 else 0
  | .exited => 0

def distance (args : Args) (state : State) : Nat × Nat × Nat × Nat :=
  (state.patience args, state.remaining args, state.rank args, state.queued)

theorem nearer_of_le {p p' r r' k k' q q' : Nat} (patience : p' ≤ p) (remaining : r' ≤ r)
    (rest : p' = p → r' = r → k' < k ∨ k' = k ∧ q' < q) :
    WellFoundedRelation.rel (p', r', k', q') (p, r, k, q) := by
  rcases Nat.lt_or_eq_of_le patience with fewer | sameP
  · exact Prod.Lex.left _ _ fewer
  · subst sameP
    apply Prod.Lex.right
    rcases Nat.lt_or_eq_of_le remaining with sooner | sameR
    · exact Prod.Lex.left _ _ sooner
    · subst sameR
      apply Prod.Lex.right
      rcases rest rfl rfl with lower | ⟨sameK, shorter⟩
      · exact Prod.Lex.left _ _ lower
      · subst sameK
        exact Prod.Lex.right _ shorter

def State.Clear (args : Args) (state : State) : Prop :=
  ∀ cluster ∈ state.clusters, args.matching cluster = false

structure Steady (args : Args) (state : State) : Prop where
  queue : ∀ late queue, state.control = .deleting late queue → ∀ line ∈ queue,
    ∃ cluster : Cluster, cluster.line = line ∧ args.matching cluster = true
  clear : state.control = .exited → state.Clear args

section

variable {args : Args} {state : State}

theorem patience_eq_zero_iff : state.patience args = 0 ↔ state.Clear args := by
  rw [State.patience, List.sum_eq_zero_iff]
  constructor
  · intro zero cluster member
    by_contra passes
    rw [Bool.not_eq_false] at passes
    have listed := List.mem_filter.mpr ⟨member, passes⟩
    exact Nat.succ_ne_zero _ (zero _ (List.mem_map_of_mem listed))
  · intro clear number member
    rcases List.mem_map.mp member with ⟨cluster, listed, _⟩
    rcases List.mem_filter.mp listed with ⟨there, passes⟩
    rw [clear cluster there] at passes
    cases passes

theorem lines_eq_nil_iff :
    Listing.lines args ⟨true, state.clusters⟩ = [] ↔ state.Clear args := by
  rw [Listing.lines, if_pos rfl, List.filter_eq_nil_iff]
  constructor
  · intro none_ cluster member
    have stopped := none_ cluster.line (List.mem_map_of_mem member)
    rwa [Bool.not_eq_true] at stopped
  · intro clear line member
    rcases List.mem_map.mp member with ⟨cluster, there, same⟩
    rw [← same, Bool.not_eq_true]
    exact clear cluster there

theorem fresh_lines (answered : Bool) {lines : List Text}
    (same : lines = Listing.lines args ⟨answered, state.clusters⟩) (some_ : lines ≠ []) :
    state.fresh lines = true := by
  rcases List.exists_mem_of_ne_nil _ some_ with ⟨line, member⟩
  rw [State.fresh, List.any_eq_true]
  refine ⟨line, member, ?_⟩
  rw [same] at member
  rcases mem_lines member with ⟨_, cluster, there, printed, _⟩
  rw [← printed, readPair_line, decide_eq_true_eq]
  exact List.mem_map_of_mem there

theorem sum_filter_lt {Item : Type*} {weight : Item → Nat} {keep : Item → Bool}
    {items : List Item} {item : Item} (member : item ∈ items) (left : keep item = false)
    (heavy : 0 < weight item) :
    ((items.filter keep).map weight).sum < (items.map weight).sum := by
  have part : ∀ others : List Item,
      ((others.filter keep).map weight).sum ≤ (others.map weight).sum := fun others =>
    ((List.filter_sublist).map weight).sum_le_sum fun _ _ => Nat.zero_le _
  induction items with
  | nil => cases member
  | cons first rest induction =>
      rw [List.map_cons, List.sum_cons]
      rcases List.mem_cons.mp member with here | later
      · subst here
        rw [List.filter_cons_of_neg (by rw [left]; exact Bool.false_ne_true)]
        have some_ := part rest
        omega
      · have fewer := induction later
        rw [List.filter_cons]
        split
        · rw [List.map_cons, List.sum_cons]
          omega
        · omega

theorem patience_without {cluster : Cluster} (there : cluster ∈ state.clusters)
    (passes : args.matching cluster = true) (control : Control)
    (deletes : List (Text × Text)) :
    State.patience args { state with
      control := control, deletes := deletes
      clusters := without state.clusters cluster.address } < state.patience args := by
  rw [State.patience, State.patience, without]
  dsimp only
  rw [List.filter_comm]
  apply sum_filter_lt (List.mem_filter.mpr ⟨there, passes⟩)
  · simp
  · exact Nat.succ_pos _

theorem patience_refused {cluster : Cluster} (there : cluster ∈ state.clusters)
    (passes : args.matching cluster = true)
    (waits : state.reconciling cluster.address ≠ 0) (control : Control)
    (deletes : List (Text × Text)) :
    State.patience args { state with
      control := control, deletes := deletes
      reconciling := Function.update state.reconciling cluster.address
        (state.reconciling cluster.address - 1) } < state.patience args := by
  rw [State.patience, State.patience]
  dsimp only
  apply List.sum_lt_sum
  · intro other _
    by_cases same : other.address = cluster.address
    · rw [same, Function.update_self]
      omega
    · rw [Function.update_of_ne same]
  · refine ⟨cluster, List.mem_filter.mpr ⟨there, passes⟩, ?_⟩
    rw [Function.update_self]
    omega

theorem patience_absent (args : Args) {address : Text × Text}
    (absent : address ∉ state.clusters.map Cluster.address) (control : Control)
    (deletes : List (Text × Text)) (left : Nat) :
    State.patience args { state with
      control := control, deletes := deletes
      reconciling := Function.update state.reconciling address left } =
        state.patience args := by
  rw [State.patience, State.patience]
  dsimp only
  congr 1
  apply List.map_congr_left
  intro cluster member
  have different : cluster.address ≠ address := by
    intro same
    rw [← same] at absent
    exact absent (List.mem_map_of_mem (List.mem_filter.mp member).1)
  rw [Function.update_of_ne different]

/-- Every number of the distance up to the first that changes goes down. -/
structure Nearer (args : Args) (before after : State) : Prop where
  patience : after.patience args ≤ before.patience args
  remaining : after.remaining args ≤ before.remaining args
  rest : after.patience args = before.patience args →
    after.remaining args = before.remaining args →
      after.rank args < before.rank args ∨
        after.rank args = before.rank args ∧ after.queued < before.queued

theorem Nearer.of_rank {next : State} (patience : next.patience args = state.patience args)
    (remaining : next.remaining args = state.remaining args)
    (lower : next.rank args < state.rank args) : Nearer args state next :=
  ⟨Nat.le_of_eq patience, Nat.le_of_eq remaining, fun _ _ => .inl lower⟩

theorem ahead_le (args : Args) (state : State) : state.ahead args ≤ 6 := by
  rw [State.ahead]
  split <;> omega

theorem ahead_of_left (left : ¬ state.Clear args) : state.ahead args = 1 := by
  rw [State.ahead, if_neg]
  rw [patience_eq_zero_iff]
  exact left

theorem rank_sleeping {late : Bool} (control : state.control = .sleeping late) :
    state.rank args ≤ state.ahead args + 2 := by
  rw [State.rank, control]
  cases late with
  | true => exact Nat.le_succ _
  | false =>
      dsimp only
      split <;> omega

theorem nearer_of_delete {works : Bool} {elapsed : Nat} {next : State} {late : Bool}
    {line : Text} {queue : List Text} (steady : Steady args state)
    (allowed : steadily state (.delete works, elapsed) = true)
    (control : state.control = .deleting late (line :: queue))
    (moves : Moves args state (.delete works) next) : Nearer args state next := by
  rcases steady.queue late _ control line List.mem_cons_self with ⟨cluster, printed, passes⟩
  have named : readPair line = cluster.address := by rw [← printed, readPair_line]
  have there_iff : readPair line ∈ state.clusters.map Cluster.address ↔
      cluster ∈ state.clusters := by
    rw [named]
    constructor
    · intro member
      rcases List.mem_map.mp member with ⟨other, there, same⟩
      rw [Cluster.address, Cluster.address, Prod.mk.injEq] at same
      rcases other with ⟨name, zone, _, _⟩
      rcases cluster with ⟨name', zone', _, _⟩
      rcases same with ⟨sameName, sameZone⟩
      cases sameName
      cases sameZone
      exact there
    · exact List.mem_map_of_mem
  rw [steadily, control] at allowed
  dsimp only at allowed
  rw [beq_iff_eq] at allowed
  cases moves with
  | deleted late' line' queue' control' there =>
      rw [control] at control'
      cases control'
      have fewer := patience_without (there_iff.mp there) passes (.deleting late queue)
        (state.deletes ++ [readPair line])
      rw [← named] at fewer
      exact ⟨Nat.le_of_lt fewer, Nat.le_refl _, fun same _ => absurd same (Nat.ne_of_lt fewer)⟩
  | refused late' line' queue' control' =>
      rw [control] at control'
      cases control'
      by_cases there : readPair line ∈ state.clusters.map Cluster.address
      · have waits : state.reconciling (readPair line) ≠ 0 := by
          intro zero
          rw [decide_eq_true ⟨there, zero⟩] at allowed
          cases allowed
        have fewer := patience_refused (there_iff.mp there) passes (by rwa [← named])
          (.deleting late queue) (state.deletes ++ [readPair line])
        rw [← named] at fewer
        exact ⟨Nat.le_of_lt fewer, Nat.le_refl _,
          fun same _ => absurd same (Nat.ne_of_lt fewer)⟩
      · have same := patience_absent args there (.deleting late queue)
          (state.deletes ++ [readPair line]) (state.reconciling (readPair line) - 1)
        refine ⟨Nat.le_of_eq same, Nat.le_refl _, fun _ _ => .inr ⟨?_, ?_⟩⟩
        · have stale : state.fresh (line :: queue) = state.fresh queue := by
            rw [State.fresh, List.any_cons, decide_eq_false there, Bool.false_or]
            rfl
          rw [State.rank, State.rank, control]
          dsimp only
          rw [stale]
          rfl
        · rw [State.queued, State.queued, control]
          exact Nat.lt_succ_self _

/-- Every move in a steady cloud is one towards the end. -/
theorem nearer_of_moves {action : Action} {elapsed : Nat} {next : State}
    (polls : 0 < args.pollSecs) (steady : Steady args state)
    (allowed : steadily state (action, elapsed) = true)
    (moves : Moves args state action next) : Nearer args state next := by
  cases moves with
  | poll control early =>
      refine Nearer.of_rank rfl rfl ?_
      have before : state.rank args = 10 := by
        rw [State.rank, control]
        exact if_neg (Nat.sub_ne_zero_of_lt early)
      rw [before]
      exact Nat.lt_succ_self 9
  | overdue control late =>
      refine Nearer.of_rank rfl rfl ?_
      have before : state.rank args = state.ahead args + 1 := by
        rw [State.rank, control]
        exact if_pos (Nat.sub_eq_zero_of_le late)
      rw [before]
      exact Nat.lt_succ_self _
  | marked control =>
      refine Nearer.of_rank rfl rfl ?_
      have before : state.rank args = 9 := by rw [State.rank, control]
      rw [before]
      exact Nat.lt_of_lt_of_le (Nat.lt_succ_self 2) (Nat.le_add_left 3 6)
  | unmarked control =>
      refine Nearer.of_rank rfl rfl ?_
      have low := ahead_le args { state with control := .sleeping false }
      have after : State.rank args { state with control := .sleeping false } ≤
        State.ahead args { state with control := .sleeping false } + 2 := rank_sleeping rfl
      have before : state.rank args = 9 := by rw [State.rank, control]
      omega
  | swept late control =>
      refine Nearer.of_rank rfl rfl ?_
      have before : state.rank args = 5 := by
        rw [State.rank, control]
        rfl
      rw [before]
      exact Nat.lt_succ_self 4
  | checkedClear answered control clear =>
      refine Nearer.of_rank rfl rfl ?_
      rw [State.rank, State.rank, control]
      exact Nat.succ_pos 1
  | checkedLeft answered control left =>
      refine Nearer.of_rank rfl rfl ?_
      rw [show answered = true from allowed, Ne, lines_eq_nil_iff] at left
      have listing : (state.asked answered (.listing false)).rank args = 1 :=
        ahead_of_left left
      rw [listing, State.rank, control]
      exact Nat.lt_succ_self 1
  | listed answered late control =>
      refine Nearer.of_rank rfl rfl ?_
      have before : state.rank args = state.ahead args := by rw [State.rank, control]
      rw [before, show answered = true from allowed, State.ahead]
      by_cases clear : state.Clear args
      · rw [if_pos (patience_eq_zero_iff.mpr clear), lines_eq_nil_iff.mpr clear]
        exact Nat.lt_succ_self 5
      · rw [if_neg (mt patience_eq_zero_iff.mp clear)]
        have found := fresh_lines true rfl (mt lines_eq_nil_iff.mp clear)
        have after : (state.asked true (.deleting late
            (Listing.lines args ⟨true, state.clusters⟩))).rank args = 0 := if_pos found
        rw [after]
        exact Nat.one_pos
  | verifiedClear answered late control clear =>
      refine Nearer.of_rank rfl rfl ?_
      rw [State.rank, State.rank, control]
      exact Nat.succ_pos 3
  | verifiedLeft answered late control left =>
      refine Nearer.of_rank rfl rfl ?_
      rw [show answered = true from allowed, Ne, lines_eq_nil_iff] at left
      have one : (state.asked answered (.sleeping late)).ahead args = 1 := ahead_of_left left
      have after : (state.asked answered (.sleeping late)).rank args ≤
        (state.asked answered (.sleeping late)).ahead args + 2 := rank_sleeping rfl
      have before : state.rank args = 4 := by rw [State.rank, control]
      omega
  | deleted late line queue control there =>
      exact nearer_of_delete steady allowed control (.deleted late line queue control there)
  | refused late line queue control =>
      exact nearer_of_delete steady allowed control (.refused late line queue control)
  | woke late control =>
      have sooner : State.remaining args { state with
          control := if late then .listing true else .heading
          now := state.now + args.pollSecs } ≤ state.remaining args :=
        Nat.sub_le_sub_left (Nat.le_add_right _ _) _
      refine ⟨Nat.le_refl _, sooner, ?_⟩
      intro _ same
      cases late with
      | true =>
          left
          rw [State.rank, State.rank, control]
          exact Nat.lt_succ_self _
      | false =>
          left
          simp only [State.remaining] at same
          have none_ : args.deadline - state.now = 0 := by omega
          have over_ : args.deadline - (state.now + args.pollSecs) = 0 := by omega
          have before : state.rank args = state.ahead args + 2 := by
            rw [State.rank, control]
            exact if_pos none_
          rw [before, State.rank]
          simp only [Bool.false_eq_true, if_false, State.remaining]
          rw [if_pos over_]
          exact Nat.lt_succ_self _
  | created cluster => cases allowed
  | removed address => cases allowed
  | touched present => cases allowed

theorem Nearer.later {next : State} (nearer : Nearer args state next) (elapsed : Nat) :
    Nearer args state { next with now := next.now + elapsed } := by
  have sooner : State.remaining args { next with now := next.now + elapsed } ≤
      next.remaining args := Nat.sub_le_sub_left (Nat.le_add_right _ _) _
  refine ⟨nearer.patience, Nat.le_trans sooner nearer.remaining, ?_⟩
  intro samePatience sameRemaining
  have still : State.remaining args { next with now := next.now + elapsed } =
      next.remaining args := by
    have before := nearer.remaining
    omega
  have rank : State.rank args { next with now := next.now + elapsed } = next.rank args := by
    simp only [State.rank, still]
    rfl
  rw [rank]
  exact nearer.rest samePatience (still.symm.trans sameRemaining)

theorem Steady.moves {action : Action} {elapsed : Nat} {next : State}
    (steady : Steady args state) (allowed : steadily state (action, elapsed) = true)
    (moves : Moves args state action next) : Steady args next where
  queue := by
    intro late queue deleting line member
    rcases moves.queue deleting with ⟨earlier, control, part⟩ | ⟨answered, same, _⟩
    · exact steady.queue late earlier control line (part.subset member)
    · rw [same] at member
      rcases mem_lines member with ⟨_, cluster, _, printed, passes⟩
      exact ⟨cluster, printed, passes⟩
  clear := by
    intro exited
    cases moves with
    | checkedClear answered control clear =>
        rw [show answered = true from allowed, lines_eq_nil_iff] at clear
        exact clear
    | verifiedClear answered late control clear =>
        rw [show answered = true from allowed, lines_eq_nil_iff] at clear
        exact clear
    | woke late control =>
        dsimp only at exited
        split at exited <;> cases exited
    | created cluster => cases allowed
    | removed address => cases allowed
    | touched present => cases allowed
    | _ => cases exited

/-- Short of its end the script can always go on. -/
theorem steady_enabled (running : state.control ≠ .exited) :
    ∃ next, (steadyWatchdog args).Step state next := by
  have taken : ∀ action, steadily state (action, 0) = true →
      (∃ moved, step args state action = some moved) →
        ∃ next, (steadyWatchdog args).Step state next := by
    intro action allowed possible
    rcases possible with ⟨moved, stepped⟩
    refine ⟨{ moved with now := moved.now + 0 }, (action, 0), allowed, ?_⟩
    rw [act, stepped]
    rfl
  rcases state with ⟨control, now, clusters, marked, reconciling, sawMarker, deletes,
    listings⟩
  cases control with
  | heading =>
      apply taken .go rfl
      simp only [step]
      split <;> exact ⟨_, rfl⟩
  | polling =>
      apply taken .go rfl
      simp only [step]
      split <;> exact ⟨_, rfl⟩
  | checking => exact taken (.list true) rfl ⟨_, rfl⟩
  | listing late => exact taken (.list true) rfl ⟨_, rfl⟩
  | deleting late queue =>
      cases queue with
      | nil => exact taken .go rfl ⟨_, rfl⟩
      | cons line queue =>
          by_cases works : readPair line ∈ clusters.map Cluster.address ∧
              reconciling (readPair line) = 0
          · apply taken (.delete true)
            · exact beq_iff_eq.mpr (decide_eq_true works).symm
            · simp only [step, if_true, if_pos works.1]
              exact ⟨_, rfl⟩
          · apply taken (.delete false)
            · exact beq_iff_eq.mpr (decide_eq_false works).symm
            · exact ⟨_, rfl⟩
  | verifying late => exact taken (.list true) rfl ⟨_, rfl⟩
  | sleeping late => exact taken .sleep rfl ⟨_, rfl⟩
  | exited => exact absurd rfl running

/-- The script has ended, and nothing is left that passes the filter. -/
def State.Cleared (args : Args) (state : State) : Prop :=
  state.control = .exited ∧ state.Clear args

theorem inevitably_cleared (polls : 0 < args.pollSecs) (steady : Steady args state) :
    (steadyWatchdog args).Inevitably (State.Cleared args) state := by
  apply TransitionSystem.Inevitably.of_wellFounded (distance args) ?_ ?_ steady
  · intro state steady running
    apply steady_enabled
    intro exited
    exact running ⟨exited, steady.clear exited⟩
  · intro state next steady stepped
    rcases stepped with ⟨⟨action, elapsed⟩, allowed, acted⟩
    rcases act_moves acted with ⟨moved, moves, same⟩
    have after := steady.moves allowed moves
    have nearer := (nearer_of_moves polls steady allowed moves).later elapsed
    rw [same]
    exact ⟨⟨after.queue, after.clear⟩,
      nearer_of_le nearer.patience nearer.remaining nearer.rest⟩

end

/-- Whatever the cloud does, the watchdog deletes only clusters that passed its filter in a
listing, and none before the marker was seen or the deadline is over; it ends only on a
listing that printed nothing, which in a listing that was answered means that nothing was
left to delete. If time passes between its polls, then as long as it has not ended it ends
with nothing left once the cloud is steady, however many clusters there are and however long
each is reconciling. -/
theorem watchdog_sweeps {args : Args} {state : State}
    (reachable : (watchdog args).Reachable state) :
    (∀ address ∈ state.deletes, ∃ cluster : Cluster, cluster.address = address ∧
      args.matching cluster = true ∧
      ∃ listing ∈ state.listings, listing.answered = true ∧ cluster ∈ listing.clusters) ∧
    (state.deletes ≠ [] → state.sawMarker = true ∨ args.deadline ≤ state.now) ∧
    (state.control = .exited → (state.sawMarker = true ∨ args.deadline ≤ state.now) ∧
      ∃ listing, state.listings.getLast? = some listing ∧ (listing.answered = true →
        ∀ cluster ∈ listing.clusters, args.matching cluster = false)) ∧
    (0 < args.pollSecs → state.control ≠ .exited →
      (steadyWatchdog args).Inevitably (State.Cleared args) state) := by
  have safe := safe_of_reachable reachable
  refine ⟨safe.deletes, safe.called, ?_, ?_⟩
  · intro exited
    refine ⟨safe.armed (by rw [exited]; rfl), ?_⟩
    rcases safe.clear exited with ⟨⟨answered, clusters⟩, last, printed⟩
    refine ⟨_, last, ?_⟩
    intro heard cluster there
    rw [Listing.lines, if_pos heard, List.filter_eq_nil_iff] at printed
    have stopped := printed cluster.line (List.mem_map_of_mem there)
    rwa [Bool.not_eq_true] at stopped
  · intro polls running
    apply inevitably_cleared polls
    constructor
    · intro late queue control line member
      rcases safe.queue late queue control line member with ⟨cluster, printed, listed⟩
      exact ⟨cluster, printed, listed.1⟩
    · intro exited
      exact absurd exited running

/-! ## A cluster that is reconciling -/

theorem isWord_benchName : IsWord "bench-cpu4".toList := isWord_of_visible rfl rfl

theorem isWord_otherName : IsWord "build-cache".toList := isWord_of_visible rfl rfl

theorem isWord_zone : IsWord "europe-west1-b".toList := isWord_of_visible rfl rfl

def benchCluster : Cluster := ⟨_, _, isWord_benchName, isWord_zone⟩

def otherCluster : Cluster := ⟨_, _, isWord_otherName, isWord_zone⟩

/-- `CLUSTER_FILTER=^bench-cpu`, with a deadline after ten seconds. -/
def campaign : Args := ⟨fun line => "bench-cpu".toList.isPrefixOf line, 0, 10, 60⟩

def launched : State where
  control := .heading
  now := 0
  clusters := [otherCluster, benchCluster]
  marked := false
  reconciling := fun _ => 1
  sawMarker := false
  deletes := []
  listings := []

theorem initial_launched : Initial campaign launched :=
  ⟨rfl, Nat.le_refl 0, rfl, rfl, rfl⟩

def firstSweep : List (Action × Nat) :=
  [(.go, 0), (.go, 0), (.sleep, 0), (.go, 0), (.list true, 2), (.delete false, 5)]

theorem watchdog_sweeps_of_reconciling :
    ∃ state, (watchdog campaign).Reachable state ∧
      state.deletes = [benchCluster.address] ∧ campaign.deadline ≤ state.now ∧
      (steadyWatchdog campaign).Inevitably (State.Cleared campaign) state := by
  have run : (TransitionSystem.perform (fun _ _ => true) (act campaign) launched
      firstSweep).map (fun state => (state.control, state.sawMarker, state.deletes)) =
        some (.deleting true [], false, [benchCluster.address]) := by
    decide +kernel
  rw [Option.map_eq_some_iff] at run
  rcases run with ⟨state, performed, facts⟩
  rw [Prod.mk.injEq, Prod.mk.injEq] at facts
  rcases facts with ⟨control, unseen, deletes⟩
  have reachable : (watchdog campaign).Reachable state :=
    TransitionSystem.reachable_of_perform (.initial initial_launched) performed
  rcases watchdog_sweeps reachable with ⟨_, called, _, ends⟩
  refine ⟨state, reachable, deletes, ?_, ends (by decide) ?_⟩
  · rcases called (by rw [deletes]; exact List.cons_ne_nil _ _) with saw | late
    · rw [unseen] at saw
      cases saw
    · exact late
  · intro exited
    rw [control] at exited
    cases exited

end DsBench.Watchdog
