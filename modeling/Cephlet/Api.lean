import Mathlib.Data.List.Basic

/-! The api records the image reconciler reads and writes, the constants and
string helpers of image_controller.go, and the reconciler's configuration.

Only the fields the reconciler uses are kept. The repository code it calls
but which is not part of this model (volume naming, size rounding, the slice
helper) is modelled from the spec.
-/

set_option autoImplicit false

namespace Cephlet

/-- api.ImageState; a submitted image is pending until the reconciler provisions it. -/
inductive ImageState where
  | pending
  | available
  deriving DecidableEq, Repr

structure ImageAccess where
  monitors : String
  handle : String
  user : String
  userKey : String
  wwn : String
  deriving DecidableEq, Repr

structure ImageStatus where
  state : ImageState
  access : Option ImageAccess
  deriving DecidableEq, Repr

/-- A Go map from limit names to values: its keys are distinct. -/
structure Limits where
  entries : List (String × Int)
  keys_nodup : (entries.map Prod.fst).Nodup
  deriving DecidableEq

structure ImageSpec where
  image : String
  snapshotRef : Option String
  size : Nat
  limits : Limits
  deriving DecidableEq

/-- `resourceVersion` is modelled from the spec: the version of the stored object that a
compare-and-write compares. The store keeps it; the reconciler never reads it. -/
structure Image where
  id : String
  labels : List (String × String)
  finalizers : List String
  deletedAt : Option Nat
  spec : ImageSpec
  status : ImageStatus
  resourceVersion : Nat
  deriving DecidableEq

inductive SnapshotState where
  | pending
  | populated
  deriving DecidableEq, Repr

/-- api.Snapshot; `source` is Source.OnmetalImage. -/
structure Snapshot where
  id : String
  labels : List (String × String)
  source : String
  state : SnapshotState
  deriving DecidableEq, Repr

def limitMetadataPrefix : String := "conf_"

def imageDigestLabel : String := "image-digest"

def imageFinalizer : String := "image"

/-- strings.TrimPrefix, over the characters so that it evaluates. -/
def trimPrefix (s pre : String) : String :=
  if pre.data.isPrefixOf s.data then ⟨s.data.drop pre.data.length⟩ else s

theorem string_append_left_cancel {pre a b : String} (same : pre ++ a = pre ++ b) : a = b := by
  rw [String.ext_iff, String.data_append, String.data_append] at same
  exact String.ext (List.append_cancel_left same)

/-- strconv.FormatInt(value, 10). -/
def formatInt (value : Int) : String := toString value

/-- Modelled from the spec: utils.DeleteSliceElement, absent from src/, which the
deletion path uses to "remove the finalizer from the entity". -/
def deleteSliceElement (elements : List String) (element : String) : List String :=
  elements.erase element

def Image.withSnapshotRef (img : Image) (ref : String) : Image :=
  { img with spec := { img.spec with snapshotRef := some ref } }

def Image.withFinalizers (img : Image) (finalizers : List String) : Image :=
  { img with finalizers := finalizers }

@[simp] theorem Image.withSnapshotRef_id (img : Image) (ref : String) :
    (img.withSnapshotRef ref).id = img.id := rfl

@[simp] theorem Image.withFinalizers_id (img : Image) (finalizers : List String) :
    (img.withFinalizers finalizers).id = img.id := rfl

/-- Modelled from the spec: ImageIDToRBDID and SnapshotIDToRBDID, absent from src/. Image
and snapshot volumes share the pool (line 463 opens the clone source on `r.pool`); every
image gets "a fresh backend volume named after the Image's ID" and every snapshot a
"backend-side identifier". Each name is the ID behind a prefix of its own kind, and
neither prefix begins the other. -/
structure Naming where
  imagePrefix : String
  snapshotPrefix : String
  image_not_prefix : imagePrefix.data.isPrefixOf snapshotPrefix.data = false
  snapshot_not_prefix : snapshotPrefix.data.isPrefixOf imagePrefix.data = false

namespace Naming

variable (naming : Naming)

def imageIDToRBDID (id : String) : String := naming.imagePrefix ++ id

def snapshotIDToRBDID (id : String) : String := naming.snapshotPrefix ++ id

theorem image_injective : Function.Injective naming.imageIDToRBDID :=
  fun _ _ same => string_append_left_cancel same

/-- No image volume is named as a snapshot volume. -/
theorem image_ne_snapshot (image snapshot : String) :
    naming.imageIDToRBDID image ≠ naming.snapshotIDToRBDID snapshot := fun same => by
  have names := congrArg String.data same
  simp only [imageIDToRBDID, snapshotIDToRBDID, String.data_append] at names
  have image : naming.imagePrefix.data <+: naming.snapshotPrefix.data ++ snapshot.data :=
    names ▸ List.prefix_append _ _
  have snapshot := List.prefix_append naming.snapshotPrefix.data snapshot.data
  rcases le_total naming.imagePrefix.data.length naming.snapshotPrefix.data.length with le | le
  · have := List.prefix_of_prefix_length_le image snapshot le
    simp [← List.isPrefixOf_iff_prefix, naming.image_not_prefix] at this
  · have := List.prefix_of_prefix_length_le snapshot image le
    simp [← List.isPrefixOf_iff_prefix, naming.snapshot_not_prefix] at this

end Naming

structure ImageReconcilerOptions where
  monitors : String
  client : String
  pool : String

/-- The fields of ImageReconciler that reconcileImage reads, with the repository
helpers it calls. The stores, the connection and the registry are the world's. -/
structure ImageReconciler where
  monitors : String
  client : String
  pool : String
  naming : Naming
  /-- Modelled from the spec: round.OffBytes, absent from src/, "rounded up to the
  backend's allocation granularity". -/
  offBytes : Nat → Nat
  le_offBytes : ∀ size, size ≤ offBytes size

/-- The collaborators NewImageReconciler is given, by whether each is non-nil: it reads
nothing else of them, and what reconcileImage reads of them is the world's. -/
structure Collaborators where
  conn : Bool
  registry : Bool
  images : Bool
  snapshots : Bool
  imageEvents : Bool
  snapshotEvents : Bool
  deriving DecidableEq, Repr

/-- NewImageReconciler's checks in the source's order (lines 64-98): what the call needs,
with the error it returns without it. -/
def newImageReconcilerChecks (deps : Collaborators) (opts : ImageReconcilerOptions) :
    List (Bool × String) :=
  [(deps.conn, "must specify conn"), (deps.registry, "must specify registry"),
    (deps.images, "must specify image store"), (deps.snapshots, "must specify snapshots store"),
    (deps.imageEvents, "must specify image events"),
    (deps.snapshotEvents, "must specify snapshot events"),
    (opts.pool != "", "must specify pool"), (opts.monitors != "", "must specify monitors"),
    (opts.client != "", "must specify ceph client")]

/-- The error of the first check that fails. -/
def firstError : List (Bool × String) → Option String
  | [] => none
  | (ok, msg) :: rest => if ok then firstError rest else some msg

theorem firstError_eq_none {checks : List (Bool × String)} :
    firstError checks = none ↔ ∀ check ∈ checks, check.1 = true := by
  induction checks with
  | nil => simp [firstError]
  | cons check rest ih =>
    obtain ⟨ok, msg⟩ := check
    cases ok <;> simp [firstError, ih]

/-- The error returned is the text of the first check that fails: every check before it
passes. -/
theorem firstError_eq_some {checks : List (Bool × String)} {msg : String} :
    firstError checks = some msg ↔ ∃ before after,
      checks = before ++ (false, msg) :: after ∧ ∀ check ∈ before, check.1 = true := by
  induction checks with
  | nil => simp [firstError]
  | cons check rest ih =>
    obtain ⟨ok, text⟩ := check
    constructor
    · cases ok
      · -- this check fails, and its text is the error
        rintro ⟨⟩
        exact ⟨[], rest, rfl, by simp⟩
      · intro found
        obtain ⟨before, after, split, passed⟩ := ih.mp found
        exact ⟨(true, text) :: before, after, by simp [split], by simpa using passed⟩
    · rintro ⟨_ | ⟨first, before⟩, after, split, passed⟩
      · simp only [List.nil_append, List.cons.injEq, Prod.mk.injEq] at split
        obtain ⟨⟨rfl, rfl⟩, -⟩ := split
        rfl
      · simp only [List.cons_append, List.cons.injEq] at split
        obtain ⟨rfl, rfl⟩ := split
        have pass : ok = true := passed _ (.head _)
        subst pass
        exact ih.mpr ⟨before, after, rfl, fun check member => passed check (.tail _ member)⟩

/-- NewImageReconciler (lines 54-114). -/
def newImageReconciler (naming : Naming) (offBytes : Nat → Nat)
    (le_offBytes : ∀ size, size ≤ offBytes size) (deps : Collaborators)
    (opts : ImageReconcilerOptions) : Except String ImageReconciler :=
  match firstError (newImageReconcilerChecks deps opts) with
  | some msg => .error msg
  | none => .ok ⟨opts.monitors, opts.client, opts.pool, naming, offBytes, le_offBytes⟩

section
variable {naming : Naming} {offBytes : Nat → Nat} {le_offBytes : ∀ size, size ≤ offBytes size}
  {deps : Collaborators} {opts : ImageReconcilerOptions}

theorem newImageReconciler_eq_ok {r : ImageReconciler} :
    newImageReconciler naming offBytes le_offBytes deps opts = .ok r ↔
      deps = ⟨true, true, true, true, true, true⟩ ∧ opts.pool ≠ "" ∧ opts.monitors ≠ "" ∧
        opts.client ≠ "" ∧
          r = ⟨opts.monitors, opts.client, opts.pool, naming, offBytes, le_offBytes⟩ := by
  have checks : firstError (newImageReconcilerChecks deps opts) = none ↔
      deps = ⟨true, true, true, true, true, true⟩ ∧ opts.pool ≠ "" ∧ opts.monitors ≠ "" ∧
        opts.client ≠ "" := by
    obtain ⟨_, _, _, _, _, _⟩ := deps
    simp [firstError_eq_none, newImageReconcilerChecks, and_assoc]
  unfold newImageReconciler
  split <;> rename_i found
  · simp only [reduceCtorEq, false_iff]
    rintro ⟨given, pool, monitors, client, -⟩
    simp [checks.mpr ⟨given, pool, monitors, client⟩] at found
  · simp [checks.mp found, eq_comm]

theorem newImageReconciler_error {msg : String}
    (h : newImageReconciler naming offBytes le_offBytes deps opts = .error msg) :
    ∃ before after, newImageReconcilerChecks deps opts = before ++ (false, msg) :: after ∧
      ∀ check ∈ before, check.1 = true := by
  unfold newImageReconciler at h
  split at h <;> rename_i found
  · cases h
    exact firstError_eq_some.mp found
  · cases h

end

end Cephlet
