import Cephlet.Reconcile.Paths
import Cephlet.System.Step

/-! Whole runs on an image with a source reference, in which no call fails.

reconcileSnapshot (lines 271-319) resolves the reference to a digest, looks the
snapshot of that digest up before creating it, and records it as the image's
reference. createImageFromSnapshot (lines 446-491) returns at once while that
snapshot is not Populated; once it is, the run clones the snapshot's volume,
resizes the clone to the spec's size and goes on as for an empty image.

Two scenarios follow. A digest without a snapshot takes two runs with the
population in between (scenario B of the spec). A digest whose snapshot is already
Populated, because another image asked for it first, takes one run and creates no
snapshot.
-/

set_option autoImplicit false

namespace Cephlet

section
variable {r : ImageReconciler} {w : World} {post : RunResult → World → Prop}

/-- Lines 386-410 once the image's volume exists: the limits, the credentials and the
final Update. -/
theorem Next.ensures_afterProvision {c : Image} {n : Nat} {vol : Volume}
    (live : c.deletedAt = none)
    (current : (w.images c.id).map Image.resourceVersion = some c.resourceVersion)
    (auth : (r.fetchAuth w.env).isSome)
    (found : w.pool (r.naming.imageIDToRBDID c.id) = some vol) (size : vol.size = n) :
    Next.Ensures r noFail (afterProvision c, w) fun result w' =>
      result = .ok ∧ w'.snapshots = w.snapshots ∧ CreatedFrom r c n w' := by
  unfold afterProvision
  split
  · rename_i none
    exact ensures_fetchAuth_created current live auth found size (none ▸ LimitsSet.nil vol)
  · refine .of_success fun _ => ?_
    simp only [Pc.step, found, Bool.false_eq_true, if_false]
    exact ensures_setLimits_available live _ [] _ rfl current auth
      ⟨vol, found, size, LimitsSet.nil vol⟩

/-- What the clone path leaves of image `id`: stored live and Available with `ref` as its
snapshot reference, and a clone of the volume of the snapshot `ref`, of size `size`,
holding the limits. -/
def ClonedAs (r : ImageReconciler) (id ref : String) (limits : Limits) (size : Nat)
    (w : World) : Prop :=
  (∃ img, w.images id = some img ∧ img.deletedAt = none ∧ img.status.state = .available ∧
      img.spec.snapshotRef = some ref) ∧
    ∃ vol, w.pool (r.naming.imageIDToRBDID id) = some vol ∧
      vol.parent = some (r.naming.snapshotIDToRBDID ref) ∧ vol.size = size ∧
        LimitsSet limits.entries vol

/-- Lines 380-410 from the Close of the resized clone `vol` on: the image is provisioned and
the clone keeps the volume it was cloned from. -/
theorem ensures_closeClone_created {c : Image} {vol : Volume} (live : c.deletedAt = none)
    (current : (w.images c.id).map Image.resourceVersion = some c.resourceVersion)
    (auth : (r.fetchAuth w.env).isSome)
    (found : w.pool (r.naming.imageIDToRBDID c.id) = some vol) :
    Ensures r noFail (.closeClone c) w fun result w' =>
      (result = .ok ∧ w'.snapshots = w.snapshots ∧ CreatedFrom r c vol.size w') ∧
        (w'.pool (r.naming.imageIDToRBDID c.id)).map Volume.parent = some vol.parent :=
  .and (.of_success fun _ => by
      simp only [Pc.step, Bool.false_eq_true, if_false]
      exact Next.ensures_afterProvision live current auth found rfl)
    (ensures_closeClone (f := Volume.parent) (fun _ _ _ => rfl) (by simp [found]))

/-- Lines 362-384 on an image with a recorded snapshot that is Populated:
createImageFromSnapshot, then the rest of the run. The image becomes Available with a
clone of the snapshot's volume of the rounded spec size, and no snapshot changes. -/
theorem ensures_cloneSource_created {c : Image} {ref : String} {snap : Snapshot}
    {source : Volume} (hasRef : c.spec.snapshotRef = some ref)
    (found : w.snapshots ref = some snap) (keyed : snap.id = ref)
    (populated : snap.state = .populated)
    (parent : w.pool (r.naming.snapshotIDToRBDID snap.id) = some source)
    (fresh : w.pool (r.naming.imageIDToRBDID c.id) = none) (live : c.deletedAt = none)
    (current : (w.images c.id).map Image.resourceVersion = some c.resourceVersion)
    (auth : (r.fetchAuth w.env).isSome) :
    Ensures r noFail (.setDataPool c) w fun result w' =>
      result = .ok ∧ w'.snapshots = w.snapshots ∧
        ClonedAs r c.id ref c.spec.limits (r.offBytes c.spec.size) w' := by
  subst keyed
  refine .of_success fun _ => ?_
  simp only [Pc.step, provision, hasRef, Bool.false_eq_true, if_false, Next.ensures_running]
  refine .of_success fun _ => ?_
  simp only [Pc.step, found, populated, Bool.false_eq_true, if_false, if_true,
    Next.ensures_running]
  refine .of_success fun _ => .of_success fun _ => ?_
  simp only [Pc.step, World.cloneVolume, parent, fresh, Bool.false_eq_true, if_false,
    Option.isSome_none, Next.ensures_running]
  refine .of_success fun _ => ?_
  simp only [Pc.step, World.putVolume_pool, Function.update_same, Bool.false_eq_true, if_false,
    Next.ensures_running]
  refine .of_success fun _ => ?_
  simp only [Pc.step, World.resizeVolume, World.putVolume_pool, Function.update_same,
    Bool.false_eq_true, if_false, Next.ensures_running]
  -- the resized clone of the snapshot's volume
  let clone : Volume :=
    ⟨r.offBytes c.spec.size, World.emptyMetadata, some (r.naming.snapshotIDToRBDID snap.id)⟩
  have resized : ((w.putVolume (r.naming.imageIDToRBDID c.id)
      (some ⟨source.size, World.emptyMetadata, some (r.naming.snapshotIDToRBDID snap.id)⟩)
      ).putVolume (r.naming.imageIDToRBDID c.id) (some clone)).pool
        (r.naming.imageIDToRBDID c.id) = some clone := by simp
  refine (ensures_closeClone_created live (by simpa using current) (by simpa using auth)
    resized).mono ?_
  rintro _ _ ⟨⟨ok, snapshots, ⟨img, stored, live', available, spec⟩, vol, built, size, set⟩,
    cloned⟩
  refine ⟨ok, by simpa using snapshots, ⟨img, stored, live', available, spec ▸ hasRef⟩, vol,
    built, ?_, size, set⟩
  simpa [built, clone] using cloned

/-- Lines 272-319 on an image whose reference parses and resolves to `digest`: the
snapshot of the digest is found, or else created Pending, and recorded as the image's
reference; the run goes on at line 362 with that copy. -/
theorem Next.ensures_reconcileSnapshot {c : Image} {locator digest : String}
    (guard : c.spec.image ≠ "") (noRef : c.spec.snapshotRef = none)
    (parsed : w.env.parse c.spec.image = some locator)
    (resolved : w.env.registry c.spec.image = some digest)
    (keyed : ∀ snap, w.snapshots digest = some snap → snap.id = digest)
    (current : (w.images c.id).map Image.resourceVersion = some c.resourceVersion)
    (h : ∀ snap, (w.snapshots digest = some snap ∨
        w.snapshots digest = none ∧ snap = newSnapshot locator digest) →
      Cephlet.Ensures r noFail (.setDataPool (c.withSnapshotRef digest).written)
        ({ w with snapshots := Function.update w.snapshots digest (some snap) }.putImage
          (c.withSnapshotRef digest).written) post) :
    Next.Ensures r noFail (reconcileSnapshotStart w.env c, w) post := by
  obtain ⟨old, found, version⟩ := Option.map_eq_some'.mp current
  simp only [reconcileSnapshotStart, guard, noRef, parsed, ne_eq, not_false_eq_true, and_self,
    if_true, Next.ensures_running]
  refine .of_success fun _ => ?_
  simp only [Pc.step, resolved, Bool.false_eq_true, if_false, Next.ensures_running]
  refine .of_success fun _ => ?_
  simp only [Pc.step, Bool.false_eq_true, if_false]
  cases stored : w.snapshots digest with
  | some snap =>
    -- lines 282-287: the snapshot is there; its ID is the digest
    simp only [keyed snap stored, Next.ensures_running]
    refine .of_success fun _ => ?_
    have same : { w with snapshots := Function.update w.snapshots digest (some snap) } = w := by
      rw [← stored, Function.update_eq_self]
    simpa [Pc.step, World.updateImage, found, version, same] using h snap (.inl stored)
  | none =>
    -- lines 294-304: snapshots.Create of a Pending snapshot named by the digest
    simp only [Next.ensures_running]
    refine .of_success fun _ => ?_
    simp only [Pc.step, World.createSnapshot, newSnapshot, stored, Option.isSome_none,
      Bool.false_eq_true, if_false, Next.ensures_running]
    refine .of_success fun _ => ?_
    simpa [Pc.step, World.updateImage, found, version] using h _ (.inr ⟨stored, rfl⟩)

theorem ensures_recorded_created {i : String} {c : Image} {ref : String} {snap : Snapshot}
    {source : Volume} (found : w.images i = some c) (id_eq : c.id = i)
    (live : c.deletedAt = none) (pending : c.status.state ≠ .available)
    (hasRef : c.spec.snapshotRef = some ref) (stored : w.snapshots ref = some snap)
    (keyed : snap.id = ref) (populated : snap.state = .populated)
    (parent : w.pool (r.naming.snapshotIDToRBDID snap.id) = some source)
    (fresh : w.pool (r.naming.imageIDToRBDID i) = none) (auth : (r.fetchAuth w.env).isSome) :
    Ensures r noFail (.openIOContext i) w fun result w' =>
      result = .ok ∧ w'.snapshots = w.snapshots ∧
        ClonedAs r i ref c.spec.limits (r.offBytes c.spec.size) w' := by
  refine .claim found id_eq live pending
    fun c' w' named spec _ deleted stored' pool snapshots env => ?_
  -- reconcileSnapshot's guard fails on the recorded reference
  have start : reconcileSnapshotStart w'.env c' = .running (.setDataPool c') := by
    simp [reconcileSnapshotStart, spec, hasRef]
  rw [start, Next.ensures_running]
  refine (ensures_cloneSource_created (spec ▸ hasRef) (snapshots ▸ stored) keyed populated
    (pool ▸ parent) (by rw [pool, named]; exact fresh) deleted (by simp [named, stored'])
    (env ▸ auth)).mono ?_
  rintro _ _ ⟨ok, snapshots', created⟩
  rw [named, spec] at created
  exact ⟨ok, snapshots'.trans snapshots, created⟩

theorem ensures_reference_recorded {i : String} {img : Image} {locator digest : String}
    (found : w.images i = some img) (id_eq : img.id = i) (live : img.deletedAt = none)
    (pending : img.status.state ≠ .available) (guard : img.spec.image ≠ "")
    (noRef : img.spec.snapshotRef = none)
    (parsed : w.env.parse img.spec.image = some locator)
    (resolved : w.env.registry img.spec.image = some digest)
    (keyed : ∀ snap, w.snapshots digest = some snap → snap.id = digest)
    (waiting : ∀ snap, w.snapshots digest = some snap → snap.state ≠ .populated) :
    Ensures r noFail (.openIOContext i) w fun result w' =>
      result = .ok ∧ w'.pool = w.pool ∧ w'.env = w.env ∧
        (∃ snap, (w.snapshots digest = some snap ∨
            w.snapshots digest = none ∧ snap = newSnapshot locator digest) ∧
          w'.snapshots = Function.update w.snapshots digest (some snap)) ∧
        ∃ c, w'.images i = some c ∧ c.id = i ∧ c.deletedAt = none ∧ c.status = img.status ∧
          c.spec = { img.spec with snapshotRef := some digest } := by
  refine .claim found id_eq live pending
    fun c w' named spec status deleted stored pool snapshots env => ?_
  rw [← spec] at guard noRef parsed resolved
  rw [← env] at parsed resolved
  refine Next.ensures_reconcileSnapshot guard noRef parsed resolved (snapshots ▸ keyed)
    (by simp [named, stored]) fun snap origin => ?_
  rw [snapshots] at origin ⊢
  have recorded : (c.withSnapshotRef digest).written.spec.snapshotRef = some digest := rfl
  refine (ensures_notReady recorded fun snap' found' => ?_).mono ?_
  · -- the recorded snapshot is the one found, which is waiting, or the new Pending one
    simp only [World.putImage_snapshots, Function.update_same, Option.some.injEq] at found'
    subst found'
    rcases origin with existing | ⟨-, rfl⟩
    · exact waiting _ existing
    · simp [newSnapshot]
  rintro result w'' ⟨rfl, -, ok⟩
  refine ⟨ok (by simp), by simp [pool], by simp [env], ⟨snap, origin, by simp⟩,
    (c.withSnapshotRef digest).written, by rw [World.putImage_images, Image.written_id,
      Image.withSnapshotRef_id, named, Function.update_same], named, deleted, status,
    by simp [spec, Image.withSnapshotRef]⟩

/-- Scenario B of the spec. An image whose reference resolves to a digest with no snapshot,
whose volume name is free: a first run in which no call fails creates the digest's snapshot
Pending, records it as the image's reference and returns nil, leaving the image not
Available and the pool as it was. Once the population pipeline has marked that snapshot
Populated, with a volume of any size, a second run clones it, resizes the clone to the
spec's size, sets every limit and makes the image Available; a third run then returns nil
and changes nothing. -/
theorem reference_image_provisioned {i : String} {img : Image} {locator digest : String}
    (found : w.images i = some img) (id_eq : img.id = i) (live : img.deletedAt = none)
    (pending : img.status.state ≠ .available) (guard : img.spec.image ≠ "")
    (noRef : img.spec.snapshotRef = none)
    (parsed : w.env.parse img.spec.image = some locator)
    (resolved : w.env.registry img.spec.image = some digest)
    (missing : w.snapshots digest = none)
    (fresh : w.pool (r.naming.imageIDToRBDID i) = none) (auth : (r.fetchAuth w.env).isSome) :
    Ensures r noFail (.openIOContext i) w fun result w₁ =>
      result = .ok ∧ w₁.pool = w.pool ∧
        w₁.snapshots = Function.update w.snapshots digest (some (newSnapshot locator digest)) ∧
        (∃ c, w₁.images i = some c ∧ c.deletedAt = none ∧ c.status = img.status ∧
          c.spec.snapshotRef = some digest) ∧
        ∀ size, Ensures r noFail (.openIOContext i)
          (w₁.populate r.naming digest (newSnapshot locator digest) size) fun result₂ w₂ =>
            result₂ = .ok ∧
              w₂.snapshots =
                (w₁.populate r.naming digest (newSnapshot locator digest) size).snapshots ∧
              ClonedAs r i digest img.spec.limits (r.offBytes img.spec.size) w₂ ∧
              Ensures r noFail (.openIOContext i) w₂ fun result₃ w₃ =>
                result₃ = .ok ∧ w₃ = w₂ := by
  refine (ensures_reference_recorded found id_eq live pending guard noRef parsed resolved
    (by simp [missing]) (by simp [missing])).mono ?_
  rintro result w₁ ⟨ok, pool, env, ⟨snap, origin, snapshots⟩, c, stored, named, deleted, status,
    spec⟩
  obtain rfl : snap = newSnapshot locator digest := by
    rcases origin with existing | ⟨-, new⟩
    · simp [missing] at existing
    · exact new
  refine ⟨ok, pool, snapshots, ⟨c, stored, deleted, status, by simp [spec]⟩, fun size => ?_⟩
  -- the second run starts on the populated snapshot, whose volume is not the image's
  have populated : (w₁.populate r.naming digest (newSnapshot locator digest) size).snapshots
      digest = some { newSnapshot locator digest with state := .populated } := by simp
  refine (ensures_recorded_created (by simpa using stored) named deleted (status ▸ pending)
    (by simp [spec]) populated rfl rfl
    (show _ = some ⟨size, World.emptyMetadata, none⟩ by simp [newSnapshot])
    (by simp [r.naming.image_ne_snapshot, pool, fresh]) (by simpa [env] using auth)).mono ?_
  rintro _ _ ⟨ok', snapshots', created⟩
  rw [spec] at created
  refine ⟨ok', snapshots', created, ?_⟩
  obtain ⟨⟨_, found', live', available, _⟩, _⟩ := created
  exact ensures_available found' live' available

/-- A freshly submitted image "a" with one limit, whose reference "repo" resolves to the
digest "d", which has no snapshot yet. -/
def sampleReferencedImage : Image :=
  ⟨"a", [], [], none, ⟨"repo", none, 10, sampleLimits⟩, ⟨.pending, none⟩, 0⟩

def sampleReferenced : World :=
  (World.init sampleEnv).putImage sampleReferencedImage

theorem reference_image_provisioned_sample :
    Ensures sampleReconciler noFail (.openIOContext "a") sampleReferenced fun result w₁ =>
      result = .ok ∧ w₁.pool = sampleReferenced.pool ∧
        w₁.snapshots = Function.update sampleReferenced.snapshots "d"
          (some (newSnapshot "repo" "d")) ∧
        (∃ c, w₁.images "a" = some c ∧ c.deletedAt = none ∧ c.status = ⟨.pending, none⟩ ∧
          c.spec.snapshotRef = some "d") ∧
        ∀ size, Ensures sampleReconciler noFail (.openIOContext "a")
          (w₁.populate sampleNaming "d" (newSnapshot "repo" "d") size) fun result₂ w₂ =>
            result₂ = .ok ∧
              w₂.snapshots =
                (w₁.populate sampleNaming "d" (newSnapshot "repo" "d") size).snapshots ∧
              ClonedAs sampleReconciler "a" "d" sampleLimits 10 w₂ ∧
              Ensures sampleReconciler noFail (.openIOContext "a") w₂ fun result₃ w₃ =>
                result₃ = .ok ∧ w₃ = w₂ :=
  reference_image_provisioned rfl (by rfl) (by rfl) (by decide) (by decide) (by rfl) (by rfl)
    (by rfl) (by rfl) (by rfl) (by decide)

/-- An image whose reference resolves to a digest whose snapshot is already Populated,
because another image asked for it first, is provisioned by one run in which no call
fails. The run finds the snapshot instead of creating one: it returns nil, leaves every
snapshot as it was, and the image is Available with a clone of the rounded spec size
that holds every limit. -/
theorem shared_snapshot_provisioned {i : String} {img : Image} {locator digest : String}
    {snap : Snapshot} {source : Volume} (found : w.images i = some img) (id_eq : img.id = i)
    (live : img.deletedAt = none) (pending : img.status.state ≠ .available)
    (guard : img.spec.image ≠ "") (noRef : img.spec.snapshotRef = none)
    (parsed : w.env.parse img.spec.image = some locator)
    (resolved : w.env.registry img.spec.image = some digest)
    (stored : w.snapshots digest = some snap) (keyed : snap.id = digest)
    (populated : snap.state = .populated)
    (parent : w.pool (r.naming.snapshotIDToRBDID digest) = some source)
    (fresh : w.pool (r.naming.imageIDToRBDID i) = none) (auth : (r.fetchAuth w.env).isSome) :
    Ensures r noFail (.openIOContext i) w fun result w' =>
      result = .ok ∧ w'.snapshots = w.snapshots ∧
        ClonedAs r i digest img.spec.limits (r.offBytes img.spec.size) w' := by
  refine .claim found id_eq live pending
    fun c w' named spec _ deleted stored' pool snapshots env => ?_
  rw [← spec] at guard noRef parsed resolved
  rw [← env] at parsed resolved
  have unique : ∀ snap', w'.snapshots digest = some snap' → snap' = snap := by
    simp [snapshots, stored, eq_comm]
  refine Next.ensures_reconcileSnapshot guard noRef parsed resolved
    (fun _ found' => unique _ found' ▸ keyed) (by simp [named, stored']) fun snap' origin => ?_
  obtain rfl : snap' = snap := by
    rcases origin with found' | ⟨missing, -⟩
    · exact unique _ found'
    · simp [snapshots, stored] at missing
  -- recording the snapshot it found rewrites the entry with itself
  have same : Function.update w'.snapshots digest (some snap') = w.snapshots := by
    rw [snapshots, ← stored, Function.update_eq_self]
  refine Ensures.mono (ensures_cloneSource_created rfl (by simp [same, stored]) keyed populated
    (show _ = some source by simp [pool, keyed, parent]) (by simp [pool, named, fresh]) deleted
    (by simp) (by simpa [env] using auth)) ?_
  rintro _ _ ⟨ok, snapshots', created⟩
  exact ⟨ok, by simpa [same] using snapshots',
    by simpa [named, spec, Image.withSnapshotRef] using created⟩

/-- The image "a" of `sampleReferenced`, after another image's run created the snapshot
of "d" and the pipeline populated it. -/
def sampleShared : World :=
  sampleReferenced.populate sampleNaming "d" (newSnapshot "repo" "d") 10

theorem shared_snapshot_provisioned_sample :
    Ensures sampleReconciler noFail (.openIOContext "a") sampleShared fun result w' =>
      result = .ok ∧ w'.snapshots = sampleShared.snapshots ∧
        ClonedAs sampleReconciler "a" "d" sampleLimits 10 w' :=
  shared_snapshot_provisioned rfl (by rfl) (by rfl) (by decide) (by decide) (by rfl) (by rfl)
    (by rfl) (by rfl) (by rfl) (by rfl) (by rfl) (by rfl) (by decide)

end

end Cephlet
