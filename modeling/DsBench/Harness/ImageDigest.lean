import DsBench.Harness.CellStores

/-! # The image digest

The key under which every store files its cells: a hash of the deployed server's image
and of the arguments of its configuration.
-/

namespace DsBench.Harness

/-- The modes a server can be deployed in. -/
inductive Mode where
  | wal
  | ursula
  | s2
  | node
deriving DecidableEq, Repr

/-- The deployment that `deploy_mode` rolls out. -/
def Mode.deployment : Mode → Text
  | .wal => "durable-streams".toList
  | .ursula => "ursula".toList
  | .s2 => "s2lite".toList
  | .node => "durable-node".toList

/-- An image reference, which is one line. -/
structure Image where
  reference : Text
  oneLine : '\n' ∉ reference
deriving DecidableEq

/-- The image of the first container of each deployment there is. -/
abbrev Cluster := Text → Option Image

/-- What `kubectl get` prints of a deployment's image. -/
def kubectlImage (cluster : Cluster) (name : Text) : Text :=
  match cluster name with
  | some image => image.reference
  | none => []

/-- The deployment `server_image_digest` asks for. The node mode has no case there: the
variable stays unset and the query is aborted. -/
def Mode.dep : Mode → Option Text
  | .wal => some "durable-streams".toList
  | .ursula => some "ursula".toList
  | .s2 => some "s2lite".toList
  | .node => none

def digestInput (cluster : Cluster) (mode : Mode) (args : Text) : Text :=
  let img := match mode.dep with
    | some dep => kubectlImage cluster dep
    | none => []
  img ++ '\n' :: (args ++ ['\n'])

/-- `sha12` is `sha256sum` cut to its first twelve digits. -/
def serverImageDigest (sha12 : Text → Text) (cluster : Cluster) (mode : Mode)
    (args : Text) : Text :=
  sha12 (digestInput cluster mode args)

/-- A mode's server as it is measured: the image that runs in its deployment, and the
arguments of its configuration. -/
structure Serving (mode : Mode) where
  cluster : Cluster
  image : Image
  args : Text
  running : cluster mode.deployment = some image

def Serving.digest {mode : Mode} (sha12 : Text → Text) (serving : Serving mode) : Text :=
  serverImageDigest sha12 serving.cluster mode serving.args

/-- No store takes a cell filed under one digest for finished under the other. -/
def NeverReused (filed asked : Text) : Prop :=
  (∀ (file : Cells.File) key cell, file.get key = some cell →
      cell.imageDigest = filed → Cells.statusOf file key asked ≠ .saturated) ∧
    (∀ (file : SustainedCells.File) key cell, file.get key = some cell →
      cell.imageDigest = filed → SustainedCells.statusOf file key asked ≠ .done) ∧
    (∀ (file : CatchupCells.File) key cell, file.get key = some cell →
      cell.imageDigest = filed → CatchupCells.statusOf file key asked ≠ .done) ∧
    (∀ (file : ReadsCells.File) key cell, file.get key = some cell →
      cell.imageDigest = filed → ReadsCells.statusOf file key asked ≠ .done) ∧
    ∀ (file : MixedCells.File) key cell, file.get key = some cell →
      cell.imageDigest = filed → MixedCells.statusOf file key asked ≠ .done

theorem neverReused_of_ne {filed asked : Text} (different : filed ≠ asked) :
    NeverReused filed asked := by
  refine ⟨?_, ?_, ?_, ?_, ?_⟩
  · intro file key cell present same
    rw [Cells.statusOf, KeyedFile.answer_of_tag_ne present (by rwa [same])]
    decide
  · intro file key cell present same
    rw [SustainedCells.statusOf, KeyedFile.answer_of_tag_ne present (by rwa [same])]
    decide
  · intro file key cell present same
    rw [CatchupCells.statusOf, KeyedFile.answer_of_tag_ne present (by rwa [same])]
    decide
  · intro file key cell present same
    rw [ReadsCells.statusOf, SweepCell.statusOf,
      KeyedFile.answer_of_tag_ne present (by rwa [same])]
    decide
  · intro file key cell present same
    rw [MixedCells.statusOf, SweepCell.statusOf,
      KeyedFile.answer_of_tag_ne present (by rwa [same])]
    decide

/-! ## What the digest tells apart -/

theorem dep_eq_deployment {mode : Mode} (known : mode ≠ .node) :
    mode.dep = some mode.deployment := by
  cases mode with
  | wal => rfl
  | ursula => rfl
  | s2 => rfl
  | node => exact (known rfl).elim

theorem digestInput_known {mode : Mode} (known : mode ≠ .node) (serving : Serving mode) :
    digestInput serving.cluster mode serving.args =
      serving.image.reference ++ '\n' :: (serving.args ++ ['\n']) := by
  simp only [digestInput, dep_eq_deployment known, kubectlImage, serving.running]

theorem digestInput_node (serving : Serving .node) :
    digestInput serving.cluster .node serving.args = '\n' :: (serving.args ++ ['\n']) :=
  rfl

/-- The hashed text of a known mode gives back the image and the arguments. -/
theorem digestInput_injective {mode : Mode} (known : mode ≠ .node)
    {one other : Serving mode}
    (same : digestInput one.cluster mode one.args =
      digestInput other.cluster mode other.args) :
    one.image = other.image ∧ one.args = other.args := by
  rw [digestInput_known known, digestInput_known known] at same
  have reference : one.image.reference = other.image.reference := by
    rw [← beforeFirst_append one.image.oneLine (one.args ++ ['\n']), same,
      beforeFirst_append other.image.oneLine]
  rw [reference] at same
  have rest := (List.cons.inj (List.append_cancel_left same)).2
  refine ⟨?_, List.append_cancel_right rest⟩
  cases left : one.image with
  | mk text oneLine =>
      cases right : other.image with
      | mk otherText otherOneLine =>
          simpa [left, right] using reference

/-- Servers that differ in image or arguments are kept apart by their digests and by
every store, except on the node mode where only the arguments count. -/
theorem digest_separates_iff (sha12 : Text → Text)
    (injective : Function.Injective sha12) (mode : Mode) (one other : Serving mode)
    (differ : one.image ≠ other.image ∨ one.args ≠ other.args) :
    (one.digest sha12 ≠ other.digest sha12 ∧
        NeverReused (one.digest sha12) (other.digest sha12)) ↔
      mode ≠ .node ∨ one.args ≠ other.args := by
  have separated : one.digest sha12 ≠ other.digest sha12 ↔
      mode ≠ .node ∨ one.args ≠ other.args := by
    rw [Serving.digest, Serving.digest, serverImageDigest, serverImageDigest,
      injective.ne_iff]
    by_cases known : mode = .node
    · subst known
      rw [digestInput_node, digestInput_node]
      simp
    · constructor
      · intro _
        exact .inl known
      · intro _ same
        have equal := digestInput_injective known same
        rcases differ with images | arguments
        · exact images equal.1
        · exact arguments equal.2
  rw [← separated]
  constructor
  · intro both
    exact both.1
  · intro different
    exact ⟨different, neverReused_of_ne different⟩

/-! ## Two images -/

def firstImage : Image := ⟨"ds:1".toList, by decide⟩

def secondImage : Image := ⟨"ds:2".toList, by decide⟩

def plainServing (mode : Mode) (image : Image) : Serving mode :=
  ⟨fun name => if name = mode.deployment then some image else none, image, [],
    if_pos rfl⟩

/-- The first twelve digits of SHA-256 on the two inputs, something of its own on every
other input. -/
def sampleSha12 (input : Text) : Text :=
  if input = "ds:1\n\n".toList then "b0ec0a5b7a2a".toList
  else if input = "ds:2\n\n".toList then "91b9003bddb4".toList
  else 'x' :: input

theorem sampleSha12_injective : Function.Injective sampleSha12 := by
  intro left right same
  simp only [sampleSha12] at same
  split at same
  · split at same
    · simp_all
    · split at same
      · simp at same
      · simp at same
  · split at same
    · split at same
      · simp at same
      · split at same
        · simp_all
        · simp at same
    · split at same
      · simp at same
      · split at same
        · simp at same
        · exact (List.cons.inj same).2

theorem wal_images_separated :
    (plainServing .wal firstImage).digest sampleSha12 ≠
        (plainServing .wal secondImage).digest sampleSha12 ∧
      NeverReused ((plainServing .wal firstImage).digest sampleSha12)
        ((plainServing .wal secondImage).digest sampleSha12) :=
  (digest_separates_iff sampleSha12 sampleSha12_injective .wal (plainServing .wal firstImage)
    (plainServing .wal secondImage) (.inl (by decide))).mpr (.inl (by decide))

/-- On the node mode two images with the same arguments have one digest, whatever the
hash is. -/
theorem node_images_share_digest :
    firstImage ≠ secondImage ∧ ∀ sha12 : Text → Text,
      (plainServing .node firstImage).digest sha12 =
        (plainServing .node secondImage).digest sha12 :=
  ⟨by decide, fun _ => rfl⟩

end DsBench.Harness
