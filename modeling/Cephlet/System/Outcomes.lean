import Cephlet.Reconcile.Isolation
import Cephlet.System.Safety

/-! What one more reconcileImage run does from a reachable state, when none of
its calls fails.

The system's invariant supplies what the paths of `Cephlet.Reconcile.Paths`
assume of the stored image: its ID, a single finalizer, and the finalizer
wherever a volume exists. From it: the deletion path converges and is then a
no-op; a volume left behind by a failed first run makes every retry of an
empty image fail; the not-ready return panics when the snapshot is missing; and
the access handle names the image ID, not its volume. Every reachable state also
keys its images by their IDs, which is what the isolation of runs assumes.
-/

set_option autoImplicit false

namespace Cephlet

section
variable {r : ImageReconciler} {admits : Sys → Action → Prop} {s : Sys} {i : String}
  {img : Image}

theorem Reachable.keyed (reach : Reachable r admits s) : s.world.Keyed := fun id img found =>
  ((reach.sysInv (fun no : False => no.elim) : SysInv r False s) id).stored_id img found

theorem deletion_converges (reach : Reachable r admits s) (found : s.world.images i = some img)
    (deleted : img.deletedAt.isSome) :
    Ensures r noFail (.openIOContext i) s.world (fun result w' =>
      result = .ok ∧ w'.pool (r.naming.imageIDToRBDID i) = none ∧ DeletionDone i w') ∧
    ∀ w', DeletionDone i w' →
      Ensures r noFail (.openIOContext i) w' fun result w'' => result = .ok ∧ w'' = w' := by
  have inv := (reach.sysInv (fun no : False => no.elim) : SysInv r False s) i
  refine ⟨?_, fun _ done => ensures_deletionDone done⟩
  by_cases mem : imageFinalizer ∈ img.finalizers
  · refine (ensures_deletion found (inv.stored_id img found) deleted mem).mono ?_
    rintro result w' ⟨ok, gone, stored⟩
    refine ⟨ok, gone, fun _ found' => ?_⟩
    rw [stored, Option.some.injEq] at found'
    subst found'
    exact ⟨deleted, finalizer_not_mem_erase (inv.finalizer_once img found)⟩
  · have done : DeletionDone i s.world := fun _ found' => by
      rw [found, Option.some.injEq] at found'
      exact found' ▸ ⟨deleted, mem⟩
    have gone : s.world.pool (r.naming.imageIDToRBDID i) = none :=
      Option.not_isSome_iff_eq_none.mp fun present => by
        obtain ⟨_, found', mem'⟩ := inv.volume_claimed present
        rw [show s.world.images i = _ from found', Option.some.injEq] at found
        exact mem (found ▸ mem')
    exact (ensures_deletionDone done).mono fun _ _ ⟨ok, same⟩ => ⟨ok, same ▸ gone, same ▸ done⟩

end

/-- An Available image marked deleted, after a deletion attempt whose finalizer
update failed. -/
def deletedAfterFailedAttempt : List Action :=
  provisionedTrace ++ [.markDeleted "a" 1, .start "a"] ++ List.replicate 3 (.succeed "a") ++
    [.failCall "a"]

theorem deletion_converges_after_failed_attempt :
    let w := (Sys.ofTrace sampleReconciler sampleEnv deletedAfterFailedAttempt).world
    Ensures sampleReconciler noFail (.openIOContext "a") w (fun result w' =>
      result = .ok ∧ w'.pool "img_a" = none ∧ DeletionDone "a" w') ∧
    ∀ w', DeletionDone "a" w' →
      Ensures sampleReconciler noFail (.openIOContext "a") w' fun result w'' =>
        result = .ok ∧ w'' = w' :=
  deletion_converges
    (Reachable.ofTrace (fun _ _ _ => trivial : ∀ s a, a ∈ deletedAfterFailedAttempt → anyAction s a)
      (by decide))
    (show _ = some ⟨"a", [], [imageFinalizer], some 1, ⟨"", none, 10, sampleLimits⟩,
      ⟨.available, some ⟨"mon", "pool/a", "admin", "key", "wwn"⟩⟩, 3⟩ by decide) rfl

section
variable {r : ImageReconciler} {admits : Sys → Action → Prop} {s : Sys} {i : String}
  {img : Image}

/-- A retry of an empty image whose volume a failed run left behind: CreateImage meets
the volume and fails with ErrExist, however often it is retried. -/
theorem retry_after_partial_create_fails (reach : Reachable r admits s)
    (found : s.world.images i = some img) (live : img.deletedAt = none)
    (pending : img.status.state ≠ .available) (empty : img.spec.image = "")
    (noRef : img.spec.snapshotRef = none)
    (present : (s.world.pool (r.naming.imageIDToRBDID i)).isSome) :
    Ensures r noFail (.openIOContext i) s.world fun result w' =>
      result =
          .error ⟨["failed to create empty image", "failed to create rbd image"], .alreadyExists⟩ ∧
        w' = s.world := by
  have inv := (reach.sysInv (fun no : False => no.elim) : SysInv r False s) i
  obtain ⟨_, found', mem⟩ := inv.volume_claimed present
  rw [show s.world.images i = _ from found', Option.some.injEq] at found
  subst found
  have id_eq := inv.stored_id _ found'
  refine .reconcile found' ?_
  simp only [afterGet, live, pending, mem, empty, reconcileSnapshotStart, Option.isSome_none,
    Bool.false_eq_true, if_false, if_true, ne_eq, not_true_eq_false, false_and,
    Next.ensures_running]
  exact ensures_createExisting noRef (id_eq ▸ present)

end

theorem retry_after_failed_fetchAuth :
    let w := (Sys.ofTrace sampleReconciler sampleEnv createdThenFailed).world
    Ensures sampleReconciler noFail (.openIOContext "a") w fun result w' =>
      result =
          .error ⟨["failed to create empty image", "failed to create rbd image"], .alreadyExists⟩ ∧
        w' = w :=
  retry_after_partial_create_fails
    (Reachable.ofTrace (fun _ _ _ => trivial : ∀ s a, a ∈ createdThenFailed → anyAction s a)
      (by decide))
    (show _ = some ⟨"a", [], [imageFinalizer], none, ⟨"", none, 10, noLimits⟩, ⟨.pending, none⟩,
      1⟩ by decide) rfl (by decide) rfl rfl (by decide)

section
variable {r : ImageReconciler} {admits : Sys → Action → Prop} {s : Sys} {i : String}
  {img : Image}

/-- A live image waiting on a snapshot that is not Populated: the run touches no volume
and keeps the status; it returns nil when the snapshot exists, and panics when it does
not (line 453). -/
theorem not_ready_run (reach : Reachable r admits s) {ref : String}
    (found : s.world.images i = some img) (live : img.deletedAt = none)
    (pending : img.status.state ≠ .available) (hasRef : img.spec.snapshotRef = some ref)
    (notPopulated : ∀ snap, s.world.snapshots ref = some snap → snap.state ≠ .populated) :
    Ensures r noFail (.openIOContext i) s.world fun result w' =>
      w'.pool = s.world.pool ∧ (∃ img', w'.images i = some img' ∧ img'.status = img.status) ∧
        (s.world.snapshots ref = none → result = .panic) ∧
        ((s.world.snapshots ref).isSome → result = .ok) := by
  have id_eq :=
    ((reach.sysInv (fun no : False => no.elim) : SysInv r False s) i).stored_id img found
  refine .claim found id_eq live pending fun c w' _ spec status _ stored pool snapshots _ => ?_
  -- reconcileSnapshot's guard fails on the recorded reference
  have start : reconcileSnapshotStart w'.env c = .running (.setDataPool c) := by
    simp [reconcileSnapshotStart, spec, hasRef]
  rw [start, Next.ensures_running]
  refine (ensures_notReady (spec ▸ hasRef) (snapshots ▸ notPopulated)).mono ?_
  rintro _ _ ⟨same, ready⟩
  rw [snapshots] at ready
  exact ⟨same ▸ pool, ⟨c, same ▸ stored, status⟩, ready⟩

end

/-- An image whose run recorded the snapshot reference "d" and returned not ready,
after which the snapshot was deleted. -/
def snapshotDeleted : List Action :=
  .submit "a" [] "repo" 10 noLimits :: .start "a" :: List.replicate 9 (.succeed "a") ++
    [.deleteSnapshot "d"]

theorem missing_snapshot_panics :
    let w := (Sys.ofTrace sampleReconciler sampleEnv snapshotDeleted).world
    Ensures sampleReconciler noFail (.openIOContext "a") w fun result w' =>
      w'.pool = w.pool ∧ (∃ img', w'.images "a" = some img' ∧ img'.status = ⟨.pending, none⟩) ∧
        (w.snapshots "d" = none → result = .panic) ∧ ((w.snapshots "d").isSome → result = .ok) :=
  not_ready_run
    (Reachable.ofTrace (fun _ _ _ => trivial : ∀ s a, a ∈ snapshotDeleted → anyAction s a)
      (by decide))
    (show _ = some ⟨"a", [], [imageFinalizer], none, ⟨"repo", some "d", 10, noLimits⟩,
      ⟨.pending, none⟩, 2⟩ by decide) rfl (by decide) rfl
    fun _ found => (Option.some_ne_none _ (found.symm.trans (by decide))).elim

section
variable {r : ImageReconciler} {admits : Sys → Action → Prop} {s : Sys} {i : String}
  {img : Image}

end

/-- Two images whose references resolve to "d": both runs look the snapshot up before
either creates it, and "a" creates it first. -/
def racingSnapshotCreates : List Action :=
  [.submit "a" [] "repo" 10 noLimits, .submit "b" [] "repo" 10 noLimits, .start "a", .start "b"] ++
    List.replicate 5 (.succeed "a") ++ List.replicate 5 (.succeed "b") ++ [.succeed "a"]

/-- The loser's snapshots.Create meets "a"'s snapshot: its run returns the error of lines
305-307 and leaves "b" without a snapshot reference. -/
theorem concurrent_snapshot_create_fails :
    Reachable sampleReconciler anyAction
        (Sys.ofTrace sampleReconciler sampleEnv racingSnapshotCreates) ∧
      Sys.Leads sampleReconciler anyAction
        (Sys.ofTrace sampleReconciler sampleEnv racingSnapshotCreates)
        (Sys.ofTrace sampleReconciler sampleEnv (racingSnapshotCreates ++ [.succeed "b"])) ∧
      ((Sys.ofTrace sampleReconciler sampleEnv racingSnapshotCreates).runs "b").map (fun pc =>
        (pc.step sampleReconciler ⟨false, "wwn"⟩
          (Sys.ofTrace sampleReconciler sampleEnv racingSnapshotCreates).world).1) =
        some (Next.fail ["failed to reconcile snapshot", "failed to create snapshot"]
          .alreadyExists) ∧
      (Sys.ofTrace sampleReconciler sampleEnv (racingSnapshotCreates ++ [.succeed "b"])).runs "b" =
        none ∧
      ((Sys.ofTrace sampleReconciler sampleEnv
        (racingSnapshotCreates ++ [.succeed "b"])).world.images "b").map
          (fun img => img.spec.snapshotRef) = some none :=
  ⟨Reachable.ofTrace (fun _ _ _ => trivial) (by decide),
    Sys.Leads.ofTrace_append (fun _ _ _ => trivial) (by decide), by decide, by decide, by decide⟩

end Cephlet
