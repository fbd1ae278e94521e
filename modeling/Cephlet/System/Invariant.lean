import Cephlet.System.Step

/-! The invariant of one image, kept by every step of the system.

`ImageInv` ties an image's stored object, its volume and its run together. At
each program point, `CopyInv`, `Pc.expects` and `VolumeInv` say what the run
holds (its copy of the image) and what it may assume of the store and the pool: past the finalizer
write the stored image keeps the finalizer and is not Available, past the
volume's creation the volume is there, and along setImageLimits the limits set
so far are in its metadata. No other run touches the image (runs of one ID never
overlap, and the naming keeps the volumes of different images apart), and the
submitter only marks the image deleted or edits its labels and spec, so each
fact survives the steps of everything else.
-/

set_option autoImplicit false

namespace Cephlet

/-- An Available status as reconcileImage writes it (lines 397-404). -/
def Provisioned (r : ImageReconciler) (env : Env) (img : Image) : Prop :=
  ∃ user key wwn, r.fetchAuth env = some (user, key) ∧
    img.status = (r.provisioned img user key wwn).status

/-- The copy a run holds past the finalizer check (lines 351-356). -/
structure Claimed (i : String) (copy : Image) : Prop where
  id_eq : copy.id = i
  finalizer_mem : imageFinalizer ∈ copy.finalizers
  finalizer_once : copy.finalizers.count imageFinalizer ≤ 1
  pending : copy.status.state ≠ .available
  live : copy.deletedAt = none

/-- What a run assumes of the stored image. -/
inductive Expect where
  | anything
  /-- Before the run's finalizer write: gone, or not Available with the run's reference. -/
  | unclaimed (ref : Option String)
  /-- Past the finalizer write: there, with the finalizer, not Available. -/
  | held (ref : Option String)
  /-- Along the deletion path: gone, or marked deleted with the run's reference and status. -/
  | doomed (ref : Option String) (status : ImageStatus)

def Expect.holds : Expect → Option Image → Prop
  | .anything, _ => True
  | .unclaimed ref, stored =>
    ∀ img, stored = some img → img.status.state ≠ .available ∧ img.spec.snapshotRef = ref
  | .held ref, stored => ∃ img, stored = some img ∧ imageFinalizer ∈ img.finalizers ∧
    img.status.state ≠ .available ∧ img.spec.snapshotRef = ref
  | .doomed ref status, stored => ∀ img, stored = some img →
    img.deletedAt.isSome ∧ img.spec.snapshotRef = ref ∧ img.status = status

def Pc.expects : Pc → Expect
  | .openIOContext _ | .imagesGet _ => .anything
  | .removeImage c | .removeFinalizer c => .doomed c.spec.snapshotRef c.status
  | .setFinalizers c => .unclaimed c.spec.snapshotRef
  | .resolve _ _ | .getSnapshot _ _ _ | .createSnapshot _ _ _ | .recordSnapshotRef _ => .held none
  | .setDataPool c | .getCloneSource c _ | .openSourceContext c _ | .cloneImage c _
  | .openClone c | .resizeClone c | .closeAfterResize c _ | .closeClone c | .createImage c
  | .openForLimits c | .setLimits c _ | .closeAfterLimit c _ _ | .fetchAuth c
  | .setAvailable c => .held c.spec.snapshotRef

/-- What a run at `pc` holds in its copy of image `i`. -/
def CopyInv (r : ImageReconciler) (env : Env) (i : String) : Pc → Prop
  | .openIOContext id | .imagesGet id => id = i
  | .removeImage c => c.id = i ∧ c.deletedAt.isSome ∧ imageFinalizer ∈ c.finalizers ∧
      c.finalizers.count imageFinalizer ≤ 1
  | .removeFinalizer c => c.id = i ∧ c.deletedAt.isSome ∧ imageFinalizer ∉ c.finalizers
  | .resolve c _ | .getSnapshot c _ _ | .createSnapshot c _ _ =>
      Claimed i c ∧ c.spec.snapshotRef = none
  | .getCloneSource c ref => Claimed i c ∧ c.spec.snapshotRef = some ref
  | .setFinalizers c | .recordSnapshotRef c | .setDataPool c | .openSourceContext c _
  | .cloneImage c _ | .openClone c | .resizeClone c | .closeAfterResize c _ | .closeClone c
  | .createImage c | .openForLimits c | .setLimits c _ | .closeAfterLimit c _ _
  | .fetchAuth c => Claimed i c
  | .setAvailable c => c.id = i ∧ imageFinalizer ∈ c.finalizers ∧
      c.finalizers.count imageFinalizer ≤ 1 ∧ c.deletedAt = none ∧ Provisioned r env c

/-- What a run at `pc` may assume of the image's volume. -/
def VolumeInv (volume : Option Volume) : Pc → Prop
  | .removeFinalizer _ => volume = none
  | .openClone _ | .resizeClone _ | .closeAfterResize _ _ | .closeClone _ | .openForLimits _
  | .closeAfterLimit _ _ _ => volume.isSome
  | .setLimits c rest =>
    ∃ vol, volume = some vol ∧ ∃ done, c.spec.limits.entries = done ++ rest ∧ LimitsSet done vol
  | .fetchAuth c | .setAvailable c => ∃ vol, volume = some vol ∧ LimitsSet c.spec.limits.entries vol
  | _ => True

/-- The invariant of image `i`. The limits part is asked for only when `frozen`, in
systems where the submitter does not change an image's limits. -/
structure ImageInv (r : ImageReconciler) (env : Env) (frozen : Prop) (i : String) (v : View) :
    Prop where
  stored_id : ∀ img, v.image = some img → img.id = i
  finalizer_once : ∀ img, v.image = some img → img.finalizers.count imageFinalizer ≤ 1
  registered_of_image : v.image.isSome → v.registered
  registered_of_copy : ∀ pc, v.run = some pc → pc.copy.isSome → v.registered
  volume_claimed : v.volume.isSome → ∃ img, v.image = some img ∧ imageFinalizer ∈ img.finalizers
  available : ∀ img, v.image = some img → img.deletedAt = none →
    img.status.state = .available → Provisioned r env img ∧ v.volume.isSome
  limits_set : frozen → ∀ img, v.image = some img → img.deletedAt = none →
    img.status.state = .available →
      ∃ vol, v.volume = some vol ∧ LimitsSet img.spec.limits.entries vol
  run_copy : ∀ pc, v.run = some pc → CopyInv r env i pc
  run_stored : ∀ pc, v.run = some pc → pc.expects.holds v.image
  run_volume : ∀ pc, v.run = some pc → VolumeInv v.volume pc

section
variable {r : ImageReconciler} {env : Env} {frozen : Prop} {i : String}

theorem ImageReconciler.provisioned_status (r : ImageReconciler) (img : Image)
    (user key wwn : String) : (r.provisioned img user key wwn).status =
      ⟨.available, some ⟨r.monitors, r.pool ++ "/" ++ img.id, user, key, wwn⟩⟩ := rfl

theorem CopyInv.id_eq {pc : Pc} (h : CopyInv r env i pc) : pc.id = i := by
  cases pc <;> simp only [CopyInv] at h <;>
    first | exact h | exact h.1 | exact h.id_eq | exact h.1.id_eq

theorem Pc.expects_of_copy_none {pc : Pc} (h : pc.copy = none) : pc.expects = .anything := by
  cases pc <;> simp_all [Pc.copy, Pc.expects]

theorem Expect.holds_edit {old new : Image} {e : Expect} (edit : SubmitterEdit frozen old new)
    (h : e.holds (some old)) : e.holds (some new) := by
  cases e with
  | anything => trivial
  | unclaimed ref =>
    rintro img ⟨⟩
    rw [edit.status_eq, edit.snapshotRef_eq]
    exact h old rfl
  | held ref =>
    obtain ⟨img, same, mem, pending, same_ref⟩ := h
    cases same
    refine ⟨new, rfl, ?_, ?_, ?_⟩
    · rw [edit.finalizers_eq]; exact mem
    · rw [edit.status_eq]; exact pending
    · rw [edit.snapshotRef_eq]; exact same_ref
  | doomed ref status =>
    rintro img ⟨⟩
    obtain ⟨deleted, same_ref, same_status⟩ := h old rfl
    exact ⟨edit.deleted_mono deleted, edit.snapshotRef_eq ▸ same_ref, edit.status_eq ▸ same_status⟩

theorem Expect.holds_purge {old : Image} {e : Expect} (empty : old.finalizers = [])
    (h : e.holds (some old)) : e.holds none := by
  cases e <;> simp_all [Expect.holds]

theorem Provisioned.edit {old new : Image} (edit : SubmitterEdit frozen old new)
    (h : Provisioned r env old) : Provisioned r env new := by
  obtain ⟨user, key, wwn, auth, status⟩ := h
  exact ⟨user, key, wwn, auth, by
    rw [edit.status_eq, status, ImageReconciler.provisioned_status,
      ImageReconciler.provisioned_status, edit.id_eq]⟩

namespace ImageInv

variable {img? : Option Image} {vol : Option Volume} {run : Option Pc} {reg : Prop}

theorem init : ImageInv r env frozen i ⟨none, none, none, reg⟩ where
  stored_id := by simp
  finalizer_once := by simp
  registered_of_image := by simp
  registered_of_copy := by simp
  volume_claimed := by simp
  available := by simp
  limits_set := by simp
  run_copy := by simp
  run_stored := by simp
  run_volume := by simp

theorem stop (inv : ImageInv r env frozen i ⟨img?, vol, run, reg⟩) :
    ImageInv r env frozen i ⟨img?, vol, none, reg⟩ :=
  { inv with
    registered_of_copy := by simp
    run_copy := by simp
    run_stored := by simp
    run_volume := by simp }

theorem start (inv : ImageInv r env frozen i ⟨img?, vol, run, reg⟩) :
    ImageInv r env frozen i ⟨img?, vol, some (.openIOContext i), reg⟩ :=
  { inv with
    registered_of_copy := fun _ started copied => by cases started; cases copied
    run_copy := fun _ started => by cases started; rfl
    run_stored := fun _ started => by cases started; trivial
    run_volume := fun _ started => by cases started; trivial }

theorem edit {old new : Image} (inv : ImageInv r env frozen i ⟨some old, vol, run, reg⟩)
    (edit : SubmitterEdit frozen old new) : ImageInv r env frozen i ⟨some new, vol, run, reg⟩ where
  stored_id := by
    simpa [edit.id_eq] using inv.stored_id old rfl
  finalizer_once := by
    simpa [edit.finalizers_eq] using inv.finalizer_once old rfl
  registered_of_image := fun _ => inv.registered_of_image rfl
  registered_of_copy := inv.registered_of_copy
  volume_claimed := fun some => by
    obtain ⟨img, same, mem⟩ := inv.volume_claimed some
    cases same
    exact ⟨new, rfl, edit.finalizers_eq ▸ mem⟩
  available := by
    rintro img ⟨⟩ live state
    have old_live : old.deletedAt = none := by
      cases h : old.deletedAt
      · rfl
      · simpa [live] using edit.deleted_mono (by simp [h])
    obtain ⟨provisioned, volume⟩ :=
      inv.available old rfl old_live (by rw [← state, edit.status_eq])
    exact ⟨provisioned.edit edit, volume⟩
  limits_set := by
    rintro frozen img ⟨⟩ live state
    have old_live : old.deletedAt = none := by
      cases h : old.deletedAt
      · rfl
      · simpa [live] using edit.deleted_mono (by simp [h])
    simpa [edit.limits_eq frozen] using
      inv.limits_set frozen old rfl old_live (by rw [← state, edit.status_eq])
  run_copy := inv.run_copy
  run_stored := fun pc found => Expect.holds_edit edit (inv.run_stored pc found)
  run_volume := inv.run_volume

theorem purge {old : Image} (inv : ImageInv r env frozen i ⟨some old, vol, run, reg⟩)
    (empty : old.finalizers = []) : ImageInv r env frozen i ⟨none, vol, run, reg⟩ where
  stored_id := by simp
  finalizer_once := by simp
  registered_of_image := by simp
  registered_of_copy := inv.registered_of_copy
  volume_claimed := fun some => by
    obtain ⟨img, same, mem⟩ := inv.volume_claimed some
    cases same
    simp [empty] at mem
  available := by simp
  limits_set := by simp
  run_copy := inv.run_copy
  run_stored := fun pc found => Expect.holds_purge empty (inv.run_stored pc found)
  run_volume := inv.run_volume

theorem submit {reg' : Prop} (inv : ImageInv r env frozen i ⟨img?, vol, run, reg⟩) (fresh : ¬reg)
    (now : reg') (labels : List (String × String)) (image : String) (size : Nat)
    (limits : Limits) :
    ImageInv r env frozen i ⟨some (submittedImage i labels image size limits), vol, run, reg'⟩ where
  stored_id := by simp [submittedImage]
  finalizer_once := by simp [submittedImage]
  registered_of_image := fun _ => now
  registered_of_copy := fun _ _ _ => now
  volume_claimed := fun some => by
    obtain ⟨img, same, -⟩ := inv.volume_claimed some
    exact (fresh (inv.registered_of_image (Option.isSome_iff_exists.mpr ⟨img, same⟩))).elim
  available := by simp [submittedImage]
  limits_set := by simp [submittedImage]
  run_copy := inv.run_copy
  run_stored := fun pc found => by
    have none : pc.copy = none := by
      cases copy : pc.copy
      · rfl
      · exact absurd (inv.registered_of_copy pc found (by simp [copy])) fresh
    simp [Pc.expects_of_copy_none none, Expect.holds]
  run_volume := inv.run_volume

end ImageInv

end

end Cephlet
