import Cephlet.System.Reference
import Cephlet.System.Safety

/-! Retries of reconcileSnapshot and of createImageFromSnapshot.

processNextWorkItem calls reconcileImage(i) again each time a run returns an error, and
the process may stop a run at any call. On an image whose reference resolves to a digest
with no snapshot, the stretch of the run before any volume is touched (lines 338-356 and
reconcileSnapshot, lines 271-319) writes at most three things: the finalizer, the
snapshot of the digest, and the reference. snapshots.Get comes before snapshots.Create,
and the reference is recorded only once the snapshot is there. So every world that a
sequence of attempts leaves, with any call failing, is one of a few, and from each of
them one run in which no call fails records the reference and returns nil. The create
of an empty image has no such property: a retry after a partial attempt finds its own
volume and fails.

Only the image's own runs are modelled here. A second image whose reference resolves to
the same digest races for the snapshot, and one of the two runs can fail on the other's
Create.

The clone has the defect of the empty create: once a run has cloned the snapshot and
failed after, CloneImage meets the clone on every retry.
-/

set_option autoImplicit false

namespace Cephlet

/-- The worlds that attempts at reconciling image `i` leave, one after another with
nothing in between: each attempt runs to its end or is stopped at some call, and any call
may fail. -/
inductive Attempts (r : ImageReconciler) (i : String) (w₀ : World) : World → Prop
  | start : Attempts r i w₀ w₀
  | run {w w' : World} {result : RunResult} : Attempts r i w₀ w →
      Runs r (fun _ => True) (.openIOContext i) w result w' → Attempts r i w₀ w'
  | stop {w w' : World} {pc : Pc} : Attempts r i w₀ w →
      Steps r (fun _ => True) (.openIOContext i) w pc w' → Attempts r i w₀ w'

/-- The image as a run holds it after lines 351-356: with the finalizer, appended where
it is missing. -/
def Image.withFinalizer (img : Image) : Image :=
  if imageFinalizer ∈ img.finalizers then img
  else img.withFinalizers (img.finalizers ++ [imageFinalizer])

/-- `c` and `img` differ at most in their resource version: the same image, read or
written at another time. -/
def Image.Like (c img : Image) : Prop :=
  { c with resourceVersion := 0 } = { img with resourceVersion := 0 }

section
variable {c img : Image}

@[simp] theorem Image.withFinalizer_id : img.withFinalizer.id = img.id := by
  unfold Image.withFinalizer; split <;> rfl
@[simp] theorem Image.withFinalizer_deletedAt : img.withFinalizer.deletedAt = img.deletedAt := by
  unfold Image.withFinalizer; split <;> rfl
@[simp] theorem Image.withFinalizer_spec : img.withFinalizer.spec = img.spec := by
  unfold Image.withFinalizer; split <;> rfl
@[simp] theorem Image.withFinalizer_status : img.withFinalizer.status = img.status := by
  unfold Image.withFinalizer; split <;> rfl

theorem Image.mem_withFinalizer : imageFinalizer ∈ img.withFinalizer.finalizers := by
  unfold Image.withFinalizer; split <;> simp [Image.withFinalizers, *]

theorem Image.Like.refl (img : Image) : img.Like img := rfl

namespace Image.Like
variable (like : c.Like img)
include like

theorem id : c.id = img.id := (congrArg Image.id like :)
theorem finalizers : c.finalizers = img.finalizers := (congrArg Image.finalizers like :)
theorem deletedAt : c.deletedAt = img.deletedAt := (congrArg Image.deletedAt like :)
theorem spec : c.spec = img.spec := (congrArg Image.spec like :)
theorem status : c.status = img.status := (congrArg Image.status like :)
theorem written : c.written.Like img := like

theorem withSnapshotRef (ref : String) : (c.withSnapshotRef ref).Like (img.withSnapshotRef ref) :=
  (congrArg (Image.withSnapshotRef · ref) like :)

/-- Lines 351-356 append the finalizer to a copy of `img` that misses it. -/
theorem withFinalizer (absent : imageFinalizer ∉ img.finalizers) :
    (c.withFinalizers (img.finalizers ++ [imageFinalizer])).Like img.withFinalizer := by
  rw [Image.withFinalizer, if_neg absent]
  exact (congrArg (Image.withFinalizers · (img.finalizers ++ [imageFinalizer])) like :)

end Image.Like

end

/-- Image `i` of `w₀`: live, not Available, with a reference that parses and resolves to
a digest that has no snapshot. -/
structure Unrecorded (i : String) (img : Image) (locator digest : String) (w₀ : World) :
    Prop where
  found : w₀.images i = some img
  id_eq : img.id = i
  live : img.deletedAt = none
  pending : img.status.state ≠ .available
  guard : img.spec.image ≠ ""
  noRef : img.spec.snapshotRef = none
  parsed : w₀.env.parse img.spec.image = some locator
  resolved : w₀.env.registry img.spec.image = some digest
  missing : w₀.snapshots digest = none

section
variable (i : String) (img : Image) (locator digest : String) (w₀ : World)

/-- The worlds the retries can leave: the environment and the pool as they were, the
digest's snapshot missing or the new Pending one, and image `i`, at any version, as it
was, with the finalizer, or with the reference recorded once the snapshot is there. -/
structure Recording (w : World) : Prop where
  env : w.env = w₀.env
  pool : w.pool = w₀.pool
  snapshots : w.snapshots = w₀.snapshots ∨
    w.snapshots = Function.update w₀.snapshots digest (some (newSnapshot locator digest))
  image : ∃ c, w.images i = some c ∧ (c.Like img ∨ c.Like img.withFinalizer ∨
    c.Like (img.withFinalizer.withSnapshotRef digest) ∧
      w.snapshots digest = some (newSnapshot locator digest))

/-- The points a run of the retries reaches, with the copy it holds there. -/
def Recording.At (w : World) : Pc → Prop
  | .openIOContext j | .imagesGet j => j = i
  | .setFinalizers c => c.Like img.withFinalizer
  | .resolve c l => c.Like img.withFinalizer ∧ l = locator
  | .getSnapshot c l d => c.Like img.withFinalizer ∧ l = locator ∧ d = digest
  | .createSnapshot c l d =>
    c.Like img.withFinalizer ∧ l = locator ∧ d = digest ∧ w.snapshots digest = none
  | .recordSnapshotRef c | .setDataPool c =>
    c.Like (img.withFinalizer.withSnapshotRef digest) ∧
      w.snapshots digest = some (newSnapshot locator digest)
  | .getCloneSource c ref =>
    c.Like (img.withFinalizer.withSnapshotRef digest) ∧ ref = digest ∧
      w.snapshots digest = some (newSnapshot locator digest)
  | _ => False

/-- What one step of such a run leads to: a point of the retries, or the run's end, in a
world the retries can leave. -/
def Recording.After : Next × World → Prop
  | (.running pc, w) => Recording i img locator digest w₀ w ∧ Recording.At i img locator digest w pc
  | (.done _, w) => Recording i img locator digest w₀ w

end

namespace Recording

variable {r : ImageReconciler} {i : String} {img : Image} {locator digest : String}
  {w₀ w : World} (u : Unrecorded i img locator digest w₀)

@[simp] theorem after_done (result : RunResult) (w : World) :
    After i img locator digest w₀ (.done result, w) = Recording i img locator digest w₀ w := rfl

@[simp] theorem after_running (pc : Pc) (w : World) :
    After i img locator digest w₀ (.running pc, w) =
      (Recording i img locator digest w₀ w ∧ At i img locator digest w pc) := rfl

theorem present (inv : Recording i img locator digest w₀ w) : (w.images i).isSome := by
  obtain ⟨_, found, -⟩ := inv.image
  simp [found]

include u

theorem init : Recording i img locator digest w₀ w₀ :=
  ⟨rfl, rfl, .inl rfl, img, u.found, .inl (.refl img)⟩

theorem snapshot_eq (inv : Recording i img locator digest w₀ w) {snap : Snapshot}
    (stored : w.snapshots digest = some snap) : snap = newSnapshot locator digest := by
  rcases inv.snapshots with same | created
  · simp [same, u.missing] at stored
  · simpa [created, eq_comm] using stored

theorem recorded_snapshots (inv : Recording i img locator digest w₀ w) {snap : Snapshot}
    (origin : w.snapshots digest = some snap ∨
      w.snapshots digest = none ∧ snap = newSnapshot locator digest) :
    Function.update w.snapshots digest (some snap) =
      Function.update w₀.snapshots digest (some (newSnapshot locator digest)) := by
  obtain rfl : snap = newSnapshot locator digest := by
    rcases origin with found | ⟨-, new⟩
    · exact snapshot_eq u inv found
    · exact new
  rcases inv.snapshots with same | created
  · rw [same]
  · rw [created, Function.update_idem]

theorem snapshotStart {env : Env} {c : Image} (like : c.Like img.withFinalizer)
    (same : env = w₀.env) : reconcileSnapshotStart env c = .running (.resolve c locator) := by
  simp [reconcileSnapshotStart, like.spec, u.guard, u.noRef, same, u.parsed]

theorem afterGet_claimed {env : Env} {c : Image} (like : c.Like img.withFinalizer)
    (same : env = w₀.env) : Cephlet.afterGet env c = .running (.resolve c locator) := by
  simp [Cephlet.afterGet, like.deletedAt, like.status, like.finalizers, u.live, u.pending,
    Image.mem_withFinalizer, snapshotStart u like same]

theorem afterGet_recorded (env : Env) {c : Image}
    (like : c.Like (img.withFinalizer.withSnapshotRef digest)) :
    Cephlet.afterGet env c = .running (.setDataPool c) := by
  simp [Cephlet.afterGet, like.deletedAt, like.status, like.finalizers, like.spec, u.live,
    u.pending, Image.withSnapshotRef, Image.mem_withFinalizer, reconcileSnapshotStart]

theorem afterGet (inv : Recording i img locator digest w₀ w) {c : Image}
    (stored : w.images i = some c) :
    After i img locator digest w₀ (Cephlet.afterGet w.env c, w) := by
  obtain ⟨c', found, form⟩ := inv.image
  rw [stored, Option.some.injEq] at found
  subst c'
  rcases form with like | like | ⟨like, recorded⟩
  · by_cases mem : imageFinalizer ∈ img.finalizers
    · -- the finalizer is there already, and the run holds the image as it is
      have held : img.withFinalizer = img := if_pos mem
      rw [← held] at like
      rw [afterGet_claimed u like inv.env]
      exact ⟨inv, like, rfl⟩
    · simpa [Cephlet.afterGet, like.deletedAt, like.status, like.finalizers, u.live, u.pending,
        mem] using ⟨inv, like.withFinalizer mem⟩
  · rw [afterGet_claimed u like inv.env]
    exact ⟨inv, like, rfl⟩
  · rw [afterGet_recorded u _ like]
    exact ⟨inv, like, recorded⟩

theorem putImage (inv : Recording i img locator digest w₀ w) {c : Image}
    (held : c.Like img.withFinalizer ∨ c.Like (img.withFinalizer.withSnapshotRef digest) ∧
      w.snapshots digest = some (newSnapshot locator digest)) :
    Recording i img locator digest w₀ (w.putImage c.written) := by
  have named : c.id = i := by
    rcases held with like | ⟨like, -⟩ <;> simp [like.id, u.id_eq]
  refine ⟨inv.env, inv.pool, inv.snapshots, c.written,
    by rw [World.putImage_images, Image.written_id, named, Function.update_same], .inr ?_⟩
  exact held.imp Image.Like.written fun ⟨like, recorded⟩ => ⟨like.written, recorded⟩

theorem step (inv : Recording i img locator digest w₀ w) {pc : Pc}
    (point : At i img locator digest w pc) {choice : Choice} {outcome : Next × World}
    (step : pc.step r choice w = outcome) : After i img locator digest w₀ outcome := by
  subst step
  cases fail : choice.fail
  case true =>
    -- every call of the stretch ends the run where it is when it fails
    cases pc <;> simp only [At] at point <;>
      simp only [Pc.step, fail, if_true, Next.fail, after_done] <;> exact inv
  cases pc <;> simp only [At] at point <;> simp only [Pc.step, fail, Bool.false_eq_true, if_false]
  case openIOContext => exact ⟨inv, point⟩
  case imagesGet j =>
    subst j
    obtain ⟨c, stored⟩ := Option.isSome_iff_exists.mp (present inv)
    simpa [stored] using afterGet u inv stored
  case setFinalizers c =>
    split
    · -- a conflict or a missing image ends the run without a change
      obtain ⟨-, rfl⟩ := World.updateImage_eq_ok.mp ‹_›
      rw [snapshotStart u point.written inv.env]
      exact ⟨putImage u inv (.inl point), point.written, rfl⟩
    · exact inv
  case resolve c l =>
    obtain ⟨like, hl⟩ := point
    subst l
    simp only [like.spec, Image.withFinalizer_spec, inv.env, u.resolved, after_running]
    exact ⟨inv, like, rfl, rfl⟩
  case getSnapshot c l d =>
    obtain ⟨like, hl, hd⟩ := point
    subst l d
    cases stored : w.snapshots digest with
    | none => exact ⟨inv, like, rfl, rfl, stored⟩
    | some snap =>
      obtain rfl := snapshot_eq u inv stored
      exact ⟨inv, like.withSnapshotRef _, stored⟩
  case createSnapshot c l d =>
    obtain ⟨like, hl, hd, missing⟩ := point
    subst l d
    have same : w.snapshots = w₀.snapshots := by
      rcases inv.snapshots with same | created
      · exact same
      · simp [created] at missing
    obtain ⟨c', found, form⟩ := inv.image
    have form : c'.Like img ∨ c'.Like img.withFinalizer := by
      rcases form with like' | like' | ⟨-, recorded⟩
      · exact .inl like'
      · exact .inr like'
      · simp [missing] at recorded
    simp only [World.createSnapshot, newSnapshot, missing, Option.isSome_none,
      Bool.false_eq_true, if_false, after_running]
    exact ⟨⟨inv.env, inv.pool, .inr (by rw [same]; rfl), c', found, form.imp_right .inl⟩,
      like.withSnapshotRef _, by simp [newSnapshot]⟩
  case recordSnapshotRef c =>
    obtain ⟨like, recorded⟩ := point
    split
    · obtain ⟨-, rfl⟩ := World.updateImage_eq_ok.mp ‹_›
      exact ⟨putImage u inv (.inr ⟨like, recorded⟩), like.written, by simpa using recorded⟩
    · exact inv
  case setDataPool c =>
    obtain ⟨like, recorded⟩ := point
    simpa [provision, like.spec, Image.withSnapshotRef] using ⟨inv, like, rfl, recorded⟩
  case getCloneSource c ref =>
    obtain ⟨-, href, recorded⟩ := point
    subst ref
    simpa [recorded, newSnapshot] using inv

theorem runs {pc : Pc} {w' : World} {result : RunResult}
    (run : Runs r (fun _ => True) pc w result w') (inv : Recording i img locator digest w₀ w)
    (point : At i img locator digest w pc) : Recording i img locator digest w₀ w' := by
  induction run with
  | done _ _ last => exact step u inv point last
  | next _ _ first _ ih =>
    have ⟨inv', point'⟩ := step u inv point first
    exact ih inv' point'

theorem steps {pc pc' : Pc} {w' : World} (run : Steps r (fun _ => True) pc w pc' w')
    (inv : Recording i img locator digest w₀ w) (point : At i img locator digest w pc) :
    Recording i img locator digest w₀ w' := by
  induction run with
  | refl => exact inv
  | next _ _ first _ ih =>
    have ⟨inv', point'⟩ := step u inv point first
    exact ih inv' point'

theorem attempts (attempts : Attempts r i w₀ w) : Recording i img locator digest w₀ w := by
  induction attempts with
  | start => exact init u
  | run _ run ih => exact runs u run ih rfl
  | stop _ run ih => exact steps u run ih rfl

/-- From a world the retries can leave, one run in which no call fails records the
reference and returns nil; the new snapshot is the only change to the snapshot store, and
the pool is as it was. -/
theorem converges (inv : Recording i img locator digest w₀ w) :
    Ensures r noFail (.openIOContext i) w fun result w' =>
      result = .ok ∧ w'.pool = w₀.pool ∧
        w'.snapshots = Function.update w₀.snapshots digest (some (newSnapshot locator digest)) ∧
        ∃ c, w'.images i = some c ∧ c.deletedAt = none ∧ c.status = img.status ∧
          c.spec = { img.spec with snapshotRef := some digest } := by
  have keyed : ∀ snap, w.snapshots digest = some snap → snap.id = digest := fun _ stored => by
    rw [snapshot_eq u inv stored]; rfl
  have waiting : ∀ snap, w.snapshots digest = some snap → snap.state ≠ .populated :=
    fun _ stored => by simp [snapshot_eq u inv stored, newSnapshot]
  -- the image as it was or with the finalizer: reconcileSnapshot records the reference
  have unrecorded : ∀ c, w.images i = some c → c.id = i → c.deletedAt = none →
      c.status = img.status → c.spec = img.spec → Ensures r noFail (.openIOContext i) w
        fun result w' => result = .ok ∧ w'.pool = w₀.pool ∧
          w'.snapshots = Function.update w₀.snapshots digest (some (newSnapshot locator digest)) ∧
          ∃ c, w'.images i = some c ∧ c.deletedAt = none ∧ c.status = img.status ∧
            c.spec = { img.spec with snapshotRef := some digest } := by
    intro c stored id_eq live status spec
    refine (ensures_reference_recorded stored id_eq live (status ▸ u.pending) (spec ▸ u.guard)
      (spec ▸ u.noRef) (by rw [spec, inv.env]; exact u.parsed)
      (by rw [spec, inv.env]; exact u.resolved) keyed waiting).mono ?_
    rintro result w' ⟨ok, pool, -, ⟨snap, origin, snapshots⟩, c', stored', -, live', status',
      spec'⟩
    exact ⟨ok, pool.trans inv.pool, snapshots.trans (recorded_snapshots u inv origin), c',
      stored', live', status'.trans status, by rw [spec', spec]⟩
  obtain ⟨c, stored, form⟩ := inv.image
  rcases form with like | like | ⟨like, recorded⟩
  · exact unrecorded c stored (by simp [like.id, u.id_eq]) (by simp [like.deletedAt, u.live])
      like.status like.spec
  · exact unrecorded c stored (by simp [like.id, u.id_eq]) (by simp [like.deletedAt, u.live])
      (by simp [like.status]) (by simp [like.spec])
  · -- the reference is recorded already: the snapshot is not Populated, and the run ends
    refine .reconcile stored ?_
    rw [afterGet_recorded u _ like, Next.ensures_running]
    refine (ensures_notReady (by simp [like.spec, Image.withSnapshotRef])
      fun _ stored' => waiting _ stored').mono ?_
    rintro result w' ⟨same, -, ok⟩
    subst w'
    have same : w.snapshots = Function.update w₀.snapshots digest
        (some (newSnapshot locator digest)) := by
      rcases inv.snapshots with same | created
      · simp [same, u.missing] at recorded
      · exact created
    exact ⟨ok (by simp [recorded]), inv.pool, same, c, stored,
      by simp [like.deletedAt, Image.withSnapshotRef, u.live],
      by simp [like.status, Image.withSnapshotRef], by simp [like.spec, Image.withSnapshotRef]⟩

end Recording

/-- Retries of reconcileSnapshot converge. Take a live image that is not Available, whose
reference parses and resolves to a digest with no snapshot. Any sequence of attempts at
reconciling it, each run to its end or stopped at any call, with any call failing, leaves
the pool as it was and at most the new Pending snapshot of the digest. From the world it
leaves, one further run in which no call fails returns nil. That run records the digest
as the image's reference and leaves the image live with its status. The new snapshot is
then the only change to the snapshot store. -/
theorem snapshot_retries_converge {r : ImageReconciler} {i : String} {img : Image}
    {locator digest : String} {w₀ w : World} (start : Unrecorded i img locator digest w₀)
    (attempts : Attempts r i w₀ w) :
    w.pool = w₀.pool ∧ (w.snapshots = w₀.snapshots ∨
      w.snapshots = Function.update w₀.snapshots digest (some (newSnapshot locator digest))) ∧
      Ensures r noFail (.openIOContext i) w fun result w' =>
        result = .ok ∧ w'.pool = w₀.pool ∧
          w'.snapshots = Function.update w₀.snapshots digest (some (newSnapshot locator digest)) ∧
          ∃ c, w'.images i = some c ∧ c.deletedAt = none ∧ c.status = img.status ∧
            c.spec = { img.spec with snapshotRef := some digest } := by
  have inv := Recording.attempts start attempts
  exact ⟨inv.pool, inv.snapshots, Recording.converges start inv⟩

/-- `sampleReferenced` after an attempt that wrote the finalizer and created the snapshot
of "d", and failed to record it. -/
def sampleSnapshotCreated : World :=
  { sampleReferenced.putImage
      ⟨"a", [], [imageFinalizer], none, ⟨"repo", none, 10, sampleLimits⟩, ⟨.pending, none⟩, 1⟩ with
    snapshots := Function.update sampleReferenced.snapshots "d" (some (newSnapshot "repo" "d")) }

theorem snapshot_retries_converge_sample :
    sampleSnapshotCreated.pool = sampleReferenced.pool ∧
      (sampleSnapshotCreated.snapshots = sampleReferenced.snapshots ∨
        sampleSnapshotCreated.snapshots =
          Function.update sampleReferenced.snapshots "d" (some (newSnapshot "repo" "d"))) ∧
      Ensures sampleReconciler noFail (.openIOContext "a") sampleSnapshotCreated
        fun result w' => result = .ok ∧ w'.pool = sampleReferenced.pool ∧
          w'.snapshots = Function.update sampleReferenced.snapshots "d"
            (some (newSnapshot "repo" "d")) ∧
          ∃ c, w'.images "a" = some c ∧ c.deletedAt = none ∧ c.status = ⟨.pending, none⟩ ∧
            c.spec = ⟨"repo", some "d", 10, sampleLimits⟩ :=
  snapshot_retries_converge
    (show Unrecorded "a" sampleReferencedImage "repo" "d" sampleReferenced from
      ⟨rfl, rfl, rfl, by decide, by decide, rfl, rfl, rfl, rfl⟩)
    (show Attempts sampleReconciler "a" sampleReferenced sampleSnapshotCreated from
      .run .start <| .next ⟨false, ""⟩ trivial (by rfl) <| .next ⟨false, ""⟩ trivial (by rfl) <|
      .next ⟨false, ""⟩ trivial (by rfl) <| .next ⟨false, ""⟩ trivial (by rfl) <|
      .next ⟨false, ""⟩ trivial (by rfl) <| .next ⟨false, ""⟩ trivial (by rfl) <|
      .done ⟨true, ""⟩ trivial (by rfl))

section
variable {r : ImageReconciler} {admits : Sys → Action → Prop} {s : Sys} {i : String}
  {img : Image}

/-- A retry of an image whose clone a failed run left behind: the snapshot it references
is Populated and its volume is there, so the run reaches CloneImage, which meets the clone
and fails with ErrExist, however often it is retried. -/
theorem retry_after_partial_clone_fails (reach : Reachable r admits s)
    (found : s.world.images i = some img) (live : img.deletedAt = none)
    (pending : img.status.state ≠ .available) {ref : String} {snap : Snapshot}
    (hasRef : img.spec.snapshotRef = some ref) (stored : s.world.snapshots ref = some snap)
    (populated : snap.state = .populated)
    (parent : (s.world.pool (r.naming.snapshotIDToRBDID snap.id)).isSome)
    (present : (s.world.pool (r.naming.imageIDToRBDID i)).isSome) :
    Ensures r noFail (.openIOContext i) s.world fun result w' =>
      result = .error ⟨[cloneContext, "failed to clone rbd image"], .alreadyExists⟩ ∧
        w' = s.world := by
  have inv := (reach.sysInv (fun no : False => no.elim) : SysInv r False s) i
  obtain ⟨_, found', mem⟩ := inv.volume_claimed present
  rw [show s.world.images i = _ from found', Option.some.injEq] at found
  subst found
  have id_eq := inv.stored_id _ found'
  obtain ⟨source, parent⟩ := Option.isSome_iff_exists.mp parent
  refine .reconcile found' ?_
  simp only [afterGet, live, pending, mem, hasRef, reconcileSnapshotStart, Option.isSome_none,
    Bool.false_eq_true, if_false, if_true, reduceCtorEq, and_false, Next.ensures_running]
  refine .of_success fun _ => ?_
  simp only [Pc.step, provision, hasRef, Bool.false_eq_true, if_false, Next.ensures_running]
  refine .of_success fun _ => ?_
  simp only [Pc.step, stored, populated, Bool.false_eq_true, if_false,
    if_true, Next.ensures_running]
  refine .of_success fun _ => ?_
  simp only [Pc.step, Bool.false_eq_true, if_false, Next.ensures_running]
  refine .of_success fun _ => ?_
  simp [Pc.step, World.cloneVolume, parent, id_eq, present]

end

/-- An image whose first run recorded the snapshot of "d", and whose second run, once the
snapshot was populated, cloned it and then failed to open the clone. -/
def clonedThenFailed : List Action :=
  [.submit "a" [] "repo" 10 noLimits, .start "a"] ++ List.replicate 9 (.succeed "a") ++
    [.populate "d" 10, .start "a"] ++ List.replicate 6 (.succeed "a") ++ [.failCall "a"]

theorem retry_after_failed_open_clone :
    Ensures sampleReconciler noFail (.openIOContext "a")
      (Sys.ofTrace sampleReconciler sampleEnv clonedThenFailed).world fun result w' =>
        result = .error ⟨[cloneContext, "failed to clone rbd image"], .alreadyExists⟩ ∧
          w' = (Sys.ofTrace sampleReconciler sampleEnv clonedThenFailed).world :=
  retry_after_partial_clone_fails
    (Reachable.ofTrace (fun _ _ _ => trivial : ∀ s a, a ∈ clonedThenFailed → anyAction s a)
      (by decide))
    (show _ = some ⟨"a", [], [imageFinalizer], none, ⟨"repo", some "d", 10, noLimits⟩,
      ⟨.pending, none⟩, 2⟩ by decide) rfl (by decide) rfl
    (show _ = some ⟨"d", [(imageDigestLabel, "d")], "repo@d", .populated⟩ by decide) rfl
    (by decide) (by decide)

end Cephlet
