import Cephlet.Reconcile.Run

/-! Whole runs along the paths of reconcileImage in which no call fails.

Each lemma is a total-correctness triple (`Ensures`) for one path of the
source, run one call at a time: its start (lines 322-336), the deletion path
(deleteImage), the not-ready return of createImageFromSnapshot (lines
447-459), the clone (lines 463-491), the create of an empty image (lines
437-444), and the limits and credentials after provisioning (lines 386-410).
-/

set_option autoImplicit false

namespace Cephlet

def World.volumeSize (w : World) (name : String) : Option Nat :=
  (w.pool name).map Volume.size

section
variable {r : ImageReconciler} {w : World} {post : RunResult → World → Prop}

theorem Ensures.reconcile {i : String} {img : Image} (found : w.images i = some img)
    (h : Next.Ensures r noFail (afterGet w.env img, w) post) :
    Ensures r noFail (.openIOContext i) w post :=
  .of_success fun _ => .of_success fun _ => by simpa [Pc.step, found] using h

/-- Lines 338-358 for a live image that is not Available: the run holds the image with
the finalizer, writing it first where it is missing, and reconcileSnapshot starts on a
copy with the image's ID, spec and status, in a world that differs at most in that copy. -/
theorem Ensures.claim {i : String} {img : Image} (found : w.images i = some img)
    (id_eq : img.id = i) (live : img.deletedAt = none) (pending : img.status.state ≠ .available)
    (h : ∀ (c : Image) (w' : World), c.id = i → c.spec = img.spec → c.status = img.status →
      c.deletedAt = none → w'.images i = some c → w'.pool = w.pool →
      w'.snapshots = w.snapshots → w'.env = w.env →
      Next.Ensures r noFail (reconcileSnapshotStart w'.env c, w') post) :
    Ensures r noFail (.openIOContext i) w post := by
  subst id_eq
  refine .reconcile found ?_
  by_cases mem : imageFinalizer ∈ img.finalizers
  · simpa [afterGet, live, pending, mem] using h img w rfl rfl rfl live found rfl rfl rfl
  · simp only [afterGet, live, pending, mem, Option.isSome_none, Bool.false_eq_true, if_false,
      Next.ensures_running]
    refine .of_success fun _ => ?_
    -- lines 351-356 write the finalizer onto the run's copy
    let c := img.withFinalizers (img.finalizers ++ [imageFinalizer])
    have write : w.updateImage c = .ok (w.putImage c.written) :=
      World.updateImage_eq_ok.mpr ⟨by simp [found, c], rfl⟩
    simpa [Pc.step, write] using
      h c.written (w.putImage c.written) rfl rfl rfl live (by simp [c]) rfl rfl rfl

/-! ### Deletion -/

/-- What the deletion path leaves of image `i`: gone, or marked deleted without the
finalizer. -/
def DeletionDone (i : String) (w : World) : Prop :=
  ∀ img, w.images i = some img → img.deletedAt.isSome ∧ imageFinalizer ∉ img.finalizers

theorem ensures_deletionDone {i : String} (done : DeletionDone i w) :
    Ensures r noFail (.openIOContext i) w fun result w' => result = .ok ∧ w' = w := by
  refine .of_success fun _ => .of_success fun _ => ?_
  cases found : w.images i with
  | none => simp [Pc.step, found]
  | some img =>
    obtain ⟨deleted, absent⟩ := done img found
    simp [Pc.step, found, afterGet, deleteImage, deleted, absent]

theorem ensures_deletion {i : String} {img : Image} (found : w.images i = some img)
    (id_eq : img.id = i) (deleted : img.deletedAt.isSome) (mem : imageFinalizer ∈ img.finalizers) :
    Ensures r noFail (.openIOContext i) w fun result w' =>
      result = .ok ∧ w'.pool (r.naming.imageIDToRBDID i) = none ∧
        w'.images i =
          some (img.withFinalizers (deleteSliceElement img.finalizers imageFinalizer)).written := by
  subst id_eq
  refine .reconcile found ?_
  simp only [afterGet, deleteImage, deleted, mem, if_true, Next.ensures_running]
  refine .of_success fun _ => .of_success fun _ => ?_
  simp [Pc.step, World.updateImage, World.removeVolume, found]

/-! ### Provisioning -/

theorem ensures_createExisting {c : Image} (noRef : c.spec.snapshotRef = none)
    (present : (w.pool (r.naming.imageIDToRBDID c.id)).isSome) :
    Ensures r noFail (.setDataPool c) w fun result w' =>
      result =
          .error ⟨["failed to create empty image", "failed to create rbd image"], .alreadyExists⟩ ∧
        w' = w :=
  .of_success fun _ => by
    simp only [Pc.step, provision, noRef, Bool.false_eq_true, if_false, Next.ensures_running]
    exact .of_success fun _ => by simp [Pc.step, World.createVolume, present]

/-- createImageFromSnapshot when the snapshot is missing or not Populated: the run ends
without touching the world, with a panic when Get found nothing (line 453 reads the ID
of the nil snapshot), with nil otherwise. -/
theorem ensures_notReady {c : Image} {ref : String} (hasRef : c.spec.snapshotRef = some ref)
    (notPopulated : ∀ snap, w.snapshots ref = some snap → snap.state ≠ .populated) :
    Ensures r noFail (.setDataPool c) w fun result w' =>
      w' = w ∧ (w.snapshots ref = none → result = .panic) ∧
        ((w.snapshots ref).isSome → result = .ok) :=
  .of_success fun _ => by
    simp only [Pc.step, provision, hasRef, Bool.false_eq_true, if_false, Next.ensures_running]
    refine .of_success fun _ => ?_
    cases found : w.snapshots ref with
    | none => simp [Pc.step, found]
    | some snap => simp [Pc.step, found, notPopulated snap found]

theorem ensures_fetchAuth {c : Image} :
    Ensures r noFail (.fetchAuth c) w fun _ w' => w'.pool = w.pool := by
  refine .of_success fun _ => ?_
  simp only [Pc.step, Bool.false_eq_true, if_false]
  split
  · simp
  · simp
  · refine .of_success fun _ => ?_
    simp only [Pc.step, Bool.false_eq_true, if_false]
    split
    · simp [(World.updateImage_eq_ok.mp ‹_›).2]
    · simp

theorem ensures_setLimits {α : Type} {f : Volume → α}
    (keeps : ∀ vol key value, f (vol.setMetadata key value) = f vol) {c : Image} {x : α} :
    ∀ (rest : List (String × Int)) (w : World),
      (w.pool (r.naming.imageIDToRBDID c.id)).map f = some x →
        Ensures r noFail (.setLimits c rest) w fun _ w' =>
          (w'.pool (r.naming.imageIDToRBDID c.id)).map f = some x
  | [], w, kept => .of_success fun _ =>
    ensures_fetchAuth.mono fun _ _ same => by rw [same]; exact kept
  | (limit, value) :: rest, w, kept => .of_success fun _ => by
    simp only [Pc.step, setLimitsStep, Bool.false_eq_true, if_false]
    split
    · obtain ⟨vol, found, rfl⟩ := World.setVolumeMetadata_eq_ok.mp ‹_›
      exact ensures_setLimits keeps rest _ (by simpa [found, keeps] using kept)
    · exact .of_success fun _ => by simpa [Pc.step] using kept

theorem ensures_closeClone {α : Type} {f : Volume → α}
    (keeps : ∀ vol key value, f (vol.setMetadata key value) = f vol) {c : Image} {x : α}
    (kept : (w.pool (r.naming.imageIDToRBDID c.id)).map f = some x) :
    Ensures r noFail (.closeClone c) w fun _ w' =>
      (w'.pool (r.naming.imageIDToRBDID c.id)).map f = some x := by
  refine .of_success fun _ => ?_
  simp only [Pc.step, afterProvision, Bool.false_eq_true, if_false]
  split
  · exact ensures_fetchAuth.mono fun _ _ same => by rw [same]; exact kept
  · refine .of_success fun _ => ?_
    simp only [Pc.step, Bool.false_eq_true, if_false]
    split
    · exact ensures_setLimits keeps _ _ kept
    · simpa using kept

/-- createImageFromSnapshot from a Populated snapshot: the clone is resized to the
rounded spec size, whatever the snapshot volume's size. -/
theorem clone_resized_to_spec {c : Image} {ref : String} {snap : Snapshot} {source : Volume}
    (found : w.snapshots ref = some snap) (populated : snap.state = .populated)
    (parent : w.pool (r.naming.snapshotIDToRBDID snap.id) = some source)
    (fresh : w.pool (r.naming.imageIDToRBDID c.id) = none) :
    Ensures r noFail (.getCloneSource c ref) w fun _ w' =>
      w'.volumeSize (r.naming.imageIDToRBDID c.id) = some (r.offBytes c.spec.size) := by
  refine .of_success fun _ => ?_
  simp only [Pc.step, found, populated, Bool.false_eq_true, if_false, if_true,
    Next.ensures_running]
  refine .of_success fun _ => ?_
  simp only [Pc.step, Bool.false_eq_true, if_false, Next.ensures_running]
  refine .of_success fun _ => ?_
  simp only [Pc.step, World.cloneVolume, parent, fresh, Bool.false_eq_true, if_false,
    Option.isSome_none, Next.ensures_running]
  refine .of_success fun _ => ?_
  simp only [Pc.step, World.putVolume_pool, Function.update_same, Bool.false_eq_true, if_false,
    Next.ensures_running]
  refine .of_success fun _ => ?_
  simp only [Pc.step, World.resizeVolume, World.putVolume_pool, Function.update_same,
    Bool.false_eq_true, if_false, Next.ensures_running]
  exact ensures_closeClone (f := Volume.size) (fun _ _ _ => rfl) (by simp)

/-! ### Creation -/

/-- What the creation path leaves of image `id`: stored live and Available, and a volume
of size `size` holding the limits. -/
def CreatedAs (r : ImageReconciler) (id : String) (limits : Limits) (size : Nat) (w : World) :
    Prop :=
  (∃ img, w.images id = some img ∧ img.deletedAt = none ∧ img.status.state = .available) ∧
    ∃ vol, w.pool (r.naming.imageIDToRBDID id) = some vol ∧ vol.size = size ∧
      LimitsSet limits.entries vol

/-- What the end of the creation path leaves of the run's copy `c`: an image stored live and
Available with `c`'s spec, and a volume of size `size` holding `c`'s limits. -/
def CreatedFrom (r : ImageReconciler) (c : Image) (size : Nat) (w : World) : Prop :=
  (∃ img, w.images c.id = some img ∧ img.deletedAt = none ∧ img.status.state = .available ∧
      img.spec = c.spec) ∧
    ∃ vol, w.pool (r.naming.imageIDToRBDID c.id) = some vol ∧ vol.size = size ∧
      LimitsSet c.spec.limits.entries vol

theorem CreatedFrom.createdAs {c : Image} {n : Nat} (created : CreatedFrom r c n w) :
    CreatedAs r c.id c.spec.limits n w :=
  ⟨created.1.imp fun _ ⟨found, live, available, _⟩ => ⟨found, live, available⟩, created.2⟩

theorem ensures_fetchAuth_created {c : Image} {n : Nat} {vol : Volume}
    (current : (w.images c.id).map Image.resourceVersion = some c.resourceVersion)
    (live : c.deletedAt = none) (auth : (r.fetchAuth w.env).isSome)
    (found : w.pool (r.naming.imageIDToRBDID c.id) = some vol) (size : vol.size = n)
    (set : LimitsSet c.spec.limits.entries vol) :
    Ensures r noFail (.fetchAuth c) w fun result w' =>
      result = .ok ∧ w'.snapshots = w.snapshots ∧ CreatedFrom r c n w' := by
  obtain ⟨⟨user, key⟩, auth⟩ := Option.isSome_iff_exists.mp auth
  obtain ⟨reply, rfl⟩ := ImageReconciler.fetchAuth_eq_some.mp auth
  refine .of_success fun wwn => ?_
  simp only [Pc.step, reply, Bool.false_eq_true, if_false, Next.ensures_running]
  refine .of_success fun _ => ?_
  have write : w.updateImage (r.provisioned c (trimPrefix r.client "client.") key wwn) =
      .ok (w.putImage (r.provisioned c (trimPrefix r.client "client.") key wwn).written) :=
    World.updateImage_eq_ok.mpr ⟨current, rfl⟩
  simp only [Pc.step, write, Bool.false_eq_true, if_false, Next.ensures_done]
  simpa [ImageReconciler.provisioned, found, CreatedFrom] using ⟨live, size, set⟩

theorem ensures_setLimits_available {c : Image} {n : Nat} (live : c.deletedAt = none) :
    ∀ (rest done : List (String × Int)) (w : World), c.spec.limits.entries = done ++ rest →
      (w.images c.id).map Image.resourceVersion = some c.resourceVersion →
      (r.fetchAuth w.env).isSome →
      (∃ vol, w.pool (r.naming.imageIDToRBDID c.id) = some vol ∧ vol.size = n ∧
        LimitsSet done vol) →
      Ensures r noFail (.setLimits c rest) w fun result w' =>
        result = .ok ∧ w'.snapshots = w.snapshots ∧ CreatedFrom r c n w'
  | [], done, w, split, current, auth, ⟨vol, found, size, set⟩ => .of_success fun _ => by
    simp only [Pc.step, setLimitsStep, Bool.false_eq_true, if_false, Next.ensures_running]
    exact ensures_fetchAuth_created current live auth found size (by simpa [split] using set)
  | (limit, value) :: rest, done, w, split, current, auth, ⟨vol, found, size, set⟩ =>
    .of_success fun _ => by
      simp only [Pc.step, setLimitsStep, World.setVolumeMetadata, found, Bool.false_eq_true,
        if_false, Next.ensures_running]
      exact ensures_setLimits_available live rest (done ++ [(limit, value)]) _ (by simp [split])
        current auth ⟨vol.setMetadata (limitMetadataPrefix ++ limit) (formatInt value), by simp,
          size, set.snoc (Limits.fresh split)⟩

theorem ensures_createEmpty {c : Image} (live : c.deletedAt = none)
    (noRef : c.spec.snapshotRef = none)
    (current : (w.images c.id).map Image.resourceVersion = some c.resourceVersion)
    (fresh : w.pool (r.naming.imageIDToRBDID c.id) = none) (auth : (r.fetchAuth w.env).isSome) :
    Ensures r noFail (.setDataPool c) w fun result w' =>
      result = .ok ∧ w'.snapshots = w.snapshots ∧ CreatedFrom r c (r.offBytes c.spec.size) w' := by
  refine .of_success fun _ => ?_
  simp only [Pc.step, provision, noRef, Bool.false_eq_true, if_false, Next.ensures_running]
  refine .of_success fun _ => ?_
  simp only [Pc.step, World.createVolume, fresh, Option.isSome_none, Bool.false_eq_true, if_false,
    afterProvision]
  have volume : ∃ vol, (w.putVolume (r.naming.imageIDToRBDID c.id)
      (some ⟨r.offBytes c.spec.size, World.emptyMetadata, none⟩)).pool
        (r.naming.imageIDToRBDID c.id) = some vol ∧ vol.size = r.offBytes c.spec.size ∧
          LimitsSet [] vol :=
    ⟨⟨r.offBytes c.spec.size, World.emptyMetadata, none⟩, by simp, rfl, LimitsSet.nil _⟩
  split
  · rename_i none
    obtain ⟨vol, found, size, set⟩ := volume
    simp only [Next.ensures_running]
    exact ensures_fetchAuth_created current live auth found size (none ▸ set)
  · simp only [Next.ensures_running]
    refine .of_success fun _ => ?_
    simp only [Pc.step, World.putVolume_pool, Function.update_same, Bool.false_eq_true, if_false,
      Next.ensures_running]
    exact ensures_setLimits_available live _ [] _ rfl current auth volume

/-- A run on a live Available image returns at line 346 and changes nothing. -/
theorem ensures_available {i : String} {img : Image} (found : w.images i = some img)
    (live : img.deletedAt = none) (available : img.status.state = .available) :
    Ensures r noFail (.openIOContext i) w fun result w' => result = .ok ∧ w' = w :=
  .reconcile found (by simp [afterGet, live, available])

/-- Scenario A of the spec: an image with no source reference, whose volume name is free,
is provisioned by one run in which no call fails. It returns nil, creates no snapshot,
leaves the image Available with a volume of the rounded size holding every limit, and a
second run returns nil and changes nothing. -/
theorem empty_image_provisioned {i : String} {img : Image} (found : w.images i = some img)
    (id_eq : img.id = i) (live : img.deletedAt = none) (pending : img.status.state ≠ .available)
    (empty : img.spec.image = "") (noRef : img.spec.snapshotRef = none)
    (fresh : w.pool (r.naming.imageIDToRBDID i) = none) (auth : (r.fetchAuth w.env).isSome) :
    Ensures r noFail (.openIOContext i) w fun result w' =>
      result = .ok ∧ w'.snapshots = w.snapshots ∧
        CreatedAs r i img.spec.limits (r.offBytes img.spec.size) w' ∧
        Ensures r noFail (.openIOContext i) w' fun result' w'' => result' = .ok ∧ w'' = w' := by
  subst id_eq
  have created : Ensures r noFail (.openIOContext img.id) w fun result w' =>
      result = .ok ∧ w'.snapshots = w.snapshots ∧
        CreatedAs r img.id img.spec.limits (r.offBytes img.spec.size) w' := by
    refine .claim found rfl live pending
      fun c w' id_eq spec _ deleted stored pool snapshots env => ?_
    -- reconcileSnapshot's guard fails on the empty reference
    have start : reconcileSnapshotStart w'.env c = .running (.setDataPool c) := by
      simp [reconcileSnapshotStart, spec, empty]
    rw [start, Next.ensures_running]
    refine (ensures_createEmpty deleted (spec ▸ noRef) (by simp [id_eq, stored])
      (by rw [pool, id_eq]; exact fresh) (env ▸ auth)).mono ?_
    rintro _ _ ⟨ok, snapshots', created⟩
    have created := created.createdAs
    rw [id_eq, spec] at created
    exact ⟨ok, snapshots'.trans snapshots, created⟩
  exact created.mono fun _ _ ⟨ok, snapshots, stored, volume⟩ =>
    let ⟨_, found', live', available⟩ := stored
    ⟨ok, snapshots, ⟨stored, volume⟩, ensures_available found' live' available⟩

/-- A freshly submitted image "a" with one limit and no source reference. -/
def sampleSubmitted : World :=
  (World.init sampleEnv).putImage
    ⟨"a", [], [], none, ⟨"", none, 10, sampleLimits⟩, ⟨.pending, none⟩, 0⟩

theorem empty_image_provisioned_sample :
    Ensures sampleReconciler noFail (.openIOContext "a") sampleSubmitted fun result w' =>
      result = .ok ∧ w'.snapshots = sampleSubmitted.snapshots ∧
        CreatedAs sampleReconciler "a" sampleLimits 10 w' ∧
        Ensures sampleReconciler noFail (.openIOContext "a") w' fun result' w'' =>
          result' = .ok ∧ w'' = w' :=
  empty_image_provisioned rfl (by rfl) (by rfl) (by decide) (by rfl) (by rfl) (by rfl)
    (by decide)

/-- A populated snapshot "d" whose volume holds 10 units, and an image "a" asking for 1. -/
theorem clone_shrinks_snapshot :
    let w : World :=
      { (World.init sampleEnv).putVolume "snap_d" (some ⟨10, World.emptyMetadata, none⟩) with
      snapshots := fun id => if id = "d" then some ⟨"d", [], "repo@d", .populated⟩ else none }
    let c : Image :=
      ⟨"a", [], [imageFinalizer], none, ⟨"repo", some "d", 1, noLimits⟩, ⟨.pending, none⟩, 0⟩
    w.volumeSize "snap_d" = some 10 ∧
      Ensures sampleReconciler noFail (.getCloneSource c "d") w fun _ w' =>
        w'.volumeSize "img_a" = some 1 :=
  ⟨rfl, clone_resized_to_spec rfl rfl rfl rfl⟩

end

end Cephlet
