import Mathlib.Data.List.Nodup
import Cephlet.Api

/-! The collaborators of the reconciler: the image and snapshot stores, the rbd
pool, and what it only reads (reference parsing, the registry, the monitors'
auth database).

The stores follow the interface the spec gives them: Get and Update report
NotFound for a missing ID, Create reports an existing one, and Update replaces
the whole stored object, as a compare-and-write against the version the writer
fetched. The pool follows librbd: creating or cloning onto a taken name fails
with ErrExist, and a clone starts at its parent's size and records its parent.
-/

set_option autoImplicit false

namespace Cephlet

/-- The error kinds a collaborator reports; `closeJoined first second` is
errors.Join(first, "unable to close image: " second). -/
inductive Cause where
  | notFound
  | alreadyExists
  /-- images.Update of a copy older than the stored object. -/
  | conflict
  | invalidReference
  /-- json.Unmarshal rejects the monitors' answer. -/
  | unparsable
  | transient
  | closeJoined (first second : Cause)
  deriving DecidableEq, Repr

/-- An error as the fmt.Errorf wrappings build it: their texts, outermost first,
around the collaborator's cause. -/
structure Failure where
  context : List String
  cause : Cause
  deriving DecidableEq, Repr

/-- An rbd image of the pool; `parent` names the image a clone was cloned from. -/
structure Volume where
  size : Nat
  metadata : String → Option String
  parent : Option String

/-- The monitors' answer to "auth get-key" for a client: the command fails, its answer
does not unmarshal, or it holds the client's key. -/
inductive AuthReply where
  | failed
  | unparsable
  | key (key : String)
  deriving DecidableEq, Repr

/-- What the reconciler reads and no step writes: reference.Parse (the locator of
a reference it accepts), the registry's tags, and the monitors' auth database. -/
structure Env where
  parse : String → Option String
  registry : String → Option String
  authGetKey : String → AuthReply

/-- `imageIds` lists every ID the image store has assigned; List reads it. -/
structure World where
  env : Env
  images : String → Option Image
  imageIds : List String
  snapshots : String → Option Snapshot
  pool : String → Option Volume

def Volume.setMetadata (volume : Volume) (key value : String) : Volume :=
  { volume with metadata := Function.update volume.metadata key (some value) }

/-- The limits setImageLimits has written into a volume's metadata. -/
def LimitsSet (entries : List (String × Int)) (volume : Volume) : Prop :=
  ∀ entry ∈ entries, volume.metadata (limitMetadataPrefix ++ entry.1) = some (formatInt entry.2)

theorem LimitsSet.nil (volume : Volume) : LimitsSet [] volume := by
  simp [LimitsSet]

theorem LimitsSet.snoc {done : List (String × Int)} {volume : Volume} {limit : String}
    {value : Int} (set : LimitsSet done volume) (fresh : limit ∉ done.map Prod.fst) :
    LimitsSet (done ++ [(limit, value)])
      (volume.setMetadata (limitMetadataPrefix ++ limit) (formatInt value)) := by
  intro entry member
  rcases List.mem_append.mp member with earlier | last
  · have ne : limitMetadataPrefix ++ entry.1 ≠ limitMetadataPrefix ++ limit := fun same =>
      fresh (string_append_left_cancel same ▸ List.mem_map_of_mem Prod.fst earlier)
    simpa [Volume.setMetadata, Function.update_noteq ne] using set entry earlier
  · simp only [List.mem_singleton] at last
    subst last
    simp [Volume.setMetadata]

/-- The keys of a Go map are distinct: the limit setImageLimits's loop reaches was not
among those before it. -/
theorem Limits.fresh {limits : Limits} {done rest : List (String × Int)} {limit : String}
    {value : Int} (split : limits.entries = done ++ (limit, value) :: rest) :
    limit ∉ done.map Prod.fst := by
  have nodup := limits.keys_nodup
  rw [split, List.map_append, List.nodup_append] at nodup
  exact fun member => nodup.2.2 member (List.mem_cons_self _ _)

/-- The object the store holds after a write of `img`: the next version of it. -/
def Image.written (img : Image) : Image := { img with resourceVersion := img.resourceVersion + 1 }

section
variable (img : Image)

@[simp] theorem Image.written_id : img.written.id = img.id := rfl
@[simp] theorem Image.written_labels : img.written.labels = img.labels := rfl
@[simp] theorem Image.written_finalizers : img.written.finalizers = img.finalizers := rfl
@[simp] theorem Image.written_deletedAt : img.written.deletedAt = img.deletedAt := rfl
@[simp] theorem Image.written_spec : img.written.spec = img.spec := rfl
@[simp] theorem Image.written_status : img.written.status = img.status := rfl
@[simp] theorem Image.written_resourceVersion :
    img.written.resourceVersion = img.resourceVersion + 1 := rfl

end

/-- What the submitter writes of an image: its labels, DeletedAt, and its spec but for the
snapshot reference. -/
structure SubmitterFields where
  labels : List (String × String)
  deletedAt : Option Nat
  image : String
  size : Nat
  limits : Limits
  deriving DecidableEq

def Image.submitterFields (img : Image) : SubmitterFields :=
  ⟨img.labels, img.deletedAt, img.spec.image, img.spec.size, img.spec.limits⟩

/-- Two copies of one version of an image: the same version, and so the same submitter's
fields. -/
def Image.SameVersion (c c' : Image) : Prop :=
  c.resourceVersion = c'.resourceVersion ∧ c.submitterFields = c'.submitterFields

theorem Image.SameVersion.refl (c : Image) : c.SameVersion c := ⟨rfl, rfl⟩

theorem Image.SameVersion.trans {a b c : Image} (first : a.SameVersion b)
    (second : b.SameVersion c) : a.SameVersion c :=
  ⟨first.1.trans second.1, first.2.trans second.2⟩

theorem Image.SameVersion.deletedAt {c c' : Image} (same : c.SameVersion c') :
    c.deletedAt = c'.deletedAt :=
  congrArg SubmitterFields.deletedAt same.2

@[simp] theorem Image.withSnapshotRef_submitterFields (img : Image) (ref : String) :
    (img.withSnapshotRef ref).submitterFields = img.submitterFields := rfl
@[simp] theorem Image.withFinalizers_submitterFields (img : Image) (finalizers : List String) :
    (img.withFinalizers finalizers).submitterFields = img.submitterFields := rfl
@[simp] theorem Image.written_submitterFields (img : Image) :
    img.written.submitterFields = img.submitterFields := rfl
@[simp] theorem Image.withSnapshotRef_resourceVersion (img : Image) (ref : String) :
    (img.withSnapshotRef ref).resourceVersion = img.resourceVersion := rfl
@[simp] theorem Image.withFinalizers_resourceVersion (img : Image) (finalizers : List String) :
    (img.withFinalizers finalizers).resourceVersion = img.resourceVersion := rfl

namespace World

def init (env : Env) : World := ⟨env, fun _ => none, [], fun _ => none, fun _ => none⟩

def putImage (w : World) (img : Image) : World :=
  { w with images := Function.update w.images img.id (some img) }

/-- Modelled from the spec: images.Update, "a compare-and-write against a fetched version".
It writes `img` only over the version `img` was fetched at. The store, not the reconciler,
tracks versions: it moves the version of the object it is handed on with the write
(`Image.written`), so a run's later writes compare against its own last one. -/
def updateImage (w : World) (img : Image) : Except Cause World :=
  match w.images img.id with
  | none => .error .notFound
  | some stored =>
    if stored.resourceVersion = img.resourceVersion then .ok (w.putImage img.written)
    else .error .conflict

def listImages (w : World) : List Image :=
  w.imageIds.filterMap w.images

/-- snapshots.Create. -/
def createSnapshot (w : World) (snap : Snapshot) : Except Cause World :=
  if (w.snapshots snap.id).isSome then .error .alreadyExists
  else .ok { w with snapshots := Function.update w.snapshots snap.id (some snap) }

def putVolume (w : World) (name : String) (volume : Option Volume) : World :=
  { w with pool := Function.update w.pool name volume }

def emptyMetadata : String → Option String := fun _ => none

/-- librbd.CreateImage. -/
def createVolume (w : World) (name : String) (size : Nat) : Except Cause World :=
  if (w.pool name).isSome then .error .alreadyExists
  else .ok (w.putVolume name (some ⟨size, emptyMetadata, none⟩))

/-- librbd.CloneImage from the parent's snapshot onto `name`. -/
def cloneVolume (w : World) (parent name : String) : Except Cause World :=
  match w.pool parent with
  | none => .error .notFound
  | some source =>
    if (w.pool name).isSome then .error .alreadyExists
    else .ok (w.putVolume name (some ⟨source.size, emptyMetadata, some parent⟩))

/-- Image.Resize on an open rbd image. -/
def resizeVolume (w : World) (name : String) (size : Nat) : Except Cause World :=
  match w.pool name with
  | none => .error .notFound
  | some volume => .ok (w.putVolume name (some { volume with size := size }))

/-- Image.SetMetadata on an open rbd image. -/
def setVolumeMetadata (w : World) (name key value : String) : Except Cause World :=
  match w.pool name with
  | none => .error .notFound
  | some volume => .ok (w.putVolume name (some (volume.setMetadata key value)))

/-- librbd.RemoveImage, with ErrNotFound taken as done. -/
def removeVolume (w : World) (name : String) : World :=
  w.putVolume name none

@[simp] theorem putImage_env (w : World) (img : Image) : (w.putImage img).env = w.env := rfl
@[simp] theorem putImage_images (w : World) (img : Image) :
    (w.putImage img).images = Function.update w.images img.id (some img) := rfl
@[simp] theorem putImage_imageIds (w : World) (img : Image) :
    (w.putImage img).imageIds = w.imageIds := rfl
@[simp] theorem putImage_snapshots (w : World) (img : Image) :
    (w.putImage img).snapshots = w.snapshots := rfl
@[simp] theorem putImage_pool (w : World) (img : Image) : (w.putImage img).pool = w.pool := rfl

@[simp] theorem putVolume_env (w : World) (name : String) (volume : Option Volume) :
    (w.putVolume name volume).env = w.env := rfl
@[simp] theorem putVolume_images (w : World) (name : String) (volume : Option Volume) :
    (w.putVolume name volume).images = w.images := rfl
@[simp] theorem putVolume_imageIds (w : World) (name : String) (volume : Option Volume) :
    (w.putVolume name volume).imageIds = w.imageIds := rfl
@[simp] theorem putVolume_snapshots (w : World) (name : String) (volume : Option Volume) :
    (w.putVolume name volume).snapshots = w.snapshots := rfl
@[simp] theorem putVolume_pool (w : World) (name : String) (volume : Option Volume) :
    (w.putVolume name volume).pool = Function.update w.pool name volume := rfl

theorem updateImage_eq_ok {w w' : World} {img : Image} :
    w.updateImage img = .ok w' ↔ (w.images img.id).map Image.resourceVersion =
      some img.resourceVersion ∧ w' = w.putImage img.written := by
  unfold updateImage
  split <;> rename_i found
  · simp [found]
  · split_ifs with same
    · simp [found, same, eq_comm]
    · simpa [found] using fun back => absurd back same

theorem updateImage_eq_error {w : World} {img : Image} {cause : Cause}
    (h : w.updateImage img = .error cause) :
    w.images img.id = none ∧ cause = .notFound ∨ cause = .conflict := by
  unfold updateImage at h
  split at h
  · cases h; exact .inl ⟨‹_›, rfl⟩
  · split_ifs at h; cases h; exact .inr rfl

theorem createSnapshot_eq_ok {w w' : World} {snap : Snapshot} :
    w.createSnapshot snap = .ok w' ↔ w.snapshots snap.id = none ∧
      w' = { w with snapshots := Function.update w.snapshots snap.id (some snap) } := by
  unfold createSnapshot
  split <;> rename_i present
  · simp [Option.isSome_iff_ne_none.mp present]
  · simpa [Option.not_isSome_iff_eq_none.mp present] using eq_comm

theorem createVolume_eq_ok {w w' : World} {name : String} {size : Nat} :
    w.createVolume name size = .ok w' ↔
      w.pool name = none ∧ w' = w.putVolume name (some ⟨size, emptyMetadata, none⟩) := by
  unfold createVolume
  split <;> rename_i present
  · simp [Option.isSome_iff_ne_none.mp present]
  · simpa [Option.not_isSome_iff_eq_none.mp present] using eq_comm

theorem cloneVolume_eq_ok {w w' : World} {parent name : String} :
    w.cloneVolume parent name = .ok w' ↔ ∃ source, w.pool parent = some source ∧
      w.pool name = none ∧
        w' = w.putVolume name (some ⟨source.size, emptyMetadata, some parent⟩) := by
  unfold cloneVolume
  split <;> rename_i found
  · simp [found]
  · split <;> rename_i present
    · simp [found, Option.isSome_iff_ne_none.mp present]
    · simpa [found, Option.not_isSome_iff_eq_none.mp present] using eq_comm

theorem resizeVolume_eq_ok {w w' : World} {name : String} {size : Nat} :
    w.resizeVolume name size = .ok w' ↔ ∃ volume, w.pool name = some volume ∧
      w' = w.putVolume name (some { volume with size := size }) := by
  unfold resizeVolume
  split <;> rename_i found
  · simp [found]
  · simpa [found] using eq_comm

theorem setVolumeMetadata_eq_ok {w w' : World} {name key value : String} :
    w.setVolumeMetadata name key value = .ok w' ↔ ∃ volume, w.pool name = some volume ∧
      w' = w.putVolume name (some (volume.setMetadata key value)) := by
  unfold setVolumeMetadata
  split <;> rename_i found
  · simp [found]
  · simpa [found] using eq_comm

end World

/-! ## A sample configuration

The inputs concrete runs are evaluated on: a pool "pool" whose image and
snapshot volumes are named "img_" and "snap_" after their IDs, a registry that
resolves "repo" to the digest "d", and monitors that hold a key for
"client.admin". -/

def sampleNaming : Naming := ⟨"img_", "snap_", by decide, by decide⟩

def sampleReconciler : ImageReconciler :=
  ⟨"mon", "client.admin", "pool", sampleNaming, id, fun _ => le_refl _⟩

def sampleEnv : Env where
  parse ref := if ref = "repo" then some "repo" else none
  registry ref := if ref = "repo" then some "d" else none
  authGetKey client := if client = "client.admin" then .key "key" else .failed

def noLimits : Limits := ⟨[], List.nodup_nil⟩

def sampleLimits : Limits := ⟨[("iops", 100)], by decide⟩

end Cephlet
