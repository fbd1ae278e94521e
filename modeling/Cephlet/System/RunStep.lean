import Cephlet.System.Invariant

/-! The step of a run keeps the invariant of its image.

One lemma per kind of program point: a continuation to the next call, a write
of the run's copy to the store, a change to the image's volume. `advance`
dispatches over the program points of `Pc.step`.
-/

set_option autoImplicit false

namespace Cephlet

theorem finalizer_not_mem_erase {finalizers : List String}
    (once : finalizers.count imageFinalizer ≤ 1) :
    imageFinalizer ∉ deleteSliceElement finalizers imageFinalizer := by
  rw [deleteSliceElement, ← List.count_eq_zero, List.count_erase_self]
  omega

theorem count_append_finalizer {finalizers : List String} (absent : imageFinalizer ∉ finalizers) :
    (finalizers ++ [imageFinalizer]).count imageFinalizer = 1 := by
  simp [List.count_append, List.count_eq_zero_of_not_mem absent]

section
variable {r : ImageReconciler} {env : Env} {frozen : Prop} {i : String}

namespace ImageInv

variable {img? : Option Image} {vol : Option Volume} {reg : Prop} {pc : Pc}

theorem goto {pc' : Pc} (inv : ImageInv r env frozen i ⟨img?, vol, some pc, reg⟩)
    (copy : CopyInv r env i pc') (stored : pc'.expects.holds img?) (volume : VolumeInv vol pc')
    (registered : pc'.copy.isSome → reg) : ImageInv r env frozen i ⟨img?, vol, some pc', reg⟩ :=
  { inv with
    registered_of_copy := fun _ found => by cases found; exact registered
    run_copy := fun _ found => by cases found; exact copy
    run_stored := fun _ found => by cases found; exact stored
    run_volume := fun _ found => by cases found; exact volume }

theorem written {c : Image} {next : Option Pc}
    (inv : ImageInv r env frozen i ⟨img?, vol, some pc, reg⟩)
    (registered : reg) (id_eq : c.id = i) (once : c.finalizers.count imageFinalizer ≤ 1)
    (claimed : vol.isSome → imageFinalizer ∈ c.finalizers)
    (available : c.deletedAt = none → c.status.state = .available →
      Provisioned r env c ∧ ∃ v, vol = some v ∧ LimitsSet c.spec.limits.entries v)
    (copy : ∀ pc', next = some pc' → CopyInv r env i pc')
    (stored : ∀ pc', next = some pc' → pc'.expects.holds (some c))
    (volume : ∀ pc', next = some pc' → VolumeInv vol pc') :
    ImageInv r env frozen i ⟨some c, vol, next, reg⟩ where
  stored_id := by rintro _ ⟨⟩; exact id_eq
  finalizer_once := by rintro _ ⟨⟩; exact once
  registered_of_image := fun _ => registered
  registered_of_copy := fun _ _ _ => registered
  volume_claimed := fun some => ⟨c, rfl, claimed some⟩
  available := by
    rintro _ ⟨⟩ live state
    obtain ⟨provisioned, v, rfl, -⟩ := available live state
    exact ⟨provisioned, rfl⟩
  limits_set := by
    rintro - _ ⟨⟩ live state
    exact (available live state).2
  run_copy := copy
  run_stored := stored
  run_volume := volume

theorem volumeSet {ref : Option String} {volume : Option Volume} {pc' : Pc}
    (inv : ImageInv r env frozen i ⟨img?, vol, some pc, reg⟩) (held : (Expect.held ref).holds img?)
    (copy : CopyInv r env i pc') (stored : pc'.expects.holds img?)
    (volumeInv : VolumeInv volume pc')
    (registered : reg) : ImageInv r env frozen i ⟨img?, volume, some pc', reg⟩ := by
  obtain ⟨img, rfl, mem, pending, -⟩ := held
  exact
  { inv with
    registered_of_copy := fun _ _ _ => registered
    volume_claimed := fun _ => ⟨img, rfl, mem⟩
    available := by rintro _ ⟨⟩ _ state; exact absurd state pending
    limits_set := by rintro - _ ⟨⟩ _ state; exact absurd state pending
    run_copy := fun _ found => by cases found; exact copy
    run_stored := fun _ found => by cases found; exact stored
    run_volume := fun _ found => by cases found; exact volumeInv }

theorem volumeRemoved {ref : Option String} {status : ImageStatus} {pc' : Pc}
    (inv : ImageInv r env frozen i ⟨img?, vol, some pc, reg⟩)
    (doomed : (Expect.doomed ref status).holds img?)
    (copy : CopyInv r env i pc') (stored : pc'.expects.holds img?) (volumeInv : VolumeInv none pc')
    (registered : reg) : ImageInv r env frozen i ⟨img?, none, some pc', reg⟩ :=
  { inv with
    registered_of_copy := fun _ _ _ => registered
    volume_claimed := by simp
    available := fun img same live _ => absurd (doomed img same).1 (by simp [live])
    limits_set := fun _ img same live _ => absurd (doomed img same).1 (by simp [live])
    run_copy := fun _ found => by cases found; exact copy
    run_stored := fun _ found => by cases found; exact stored
    run_volume := fun _ found => by cases found; exact volumeInv }

end ImageInv

theorem Claimed.withSnapshotRef {c : Image} (claimed : Claimed i c) (ref : String) :
    Claimed i (c.withSnapshotRef ref) :=
  ⟨claimed.id_eq, claimed.finalizer_mem, claimed.finalizer_once, claimed.pending, claimed.live⟩

theorem Claimed.written {c : Image} (claimed : Claimed i c) : Claimed i c.written :=
  ⟨claimed.id_eq, claimed.finalizer_mem, claimed.finalizer_once, claimed.pending, claimed.live⟩

theorem snapshotStart_run {env' : Env} {c : Image} {pc' : Pc}
    (found : (reconcileSnapshotStart env' c).run = some pc') :
    (pc' = .setDataPool c) ∨ (c.spec.snapshotRef = none ∧ ∃ locator, pc' = .resolve c locator) := by
  unfold reconcileSnapshotStart at found
  split at found
  · rename_i guard
    split at found
    · cases found
    · cases found
      exact .inr ⟨guard.2, _, rfl⟩
  · cases found
    exact .inl rfl

theorem snapshotStart_copy {env' : Env} {c : Image} {pc' : Pc} (claimed : Claimed i c)
    (found : (reconcileSnapshotStart env' c).run = some pc') : CopyInv r env i pc' := by
  rcases snapshotStart_run found with rfl | ⟨none, _, rfl⟩
  · exact claimed
  · exact ⟨claimed, none⟩

theorem snapshotStart_stored {env' : Env} {c : Image} {pc' : Pc} (claimed : Claimed i c)
    (found : (reconcileSnapshotStart env' c).run = some pc') : pc'.expects.holds (some c) := by
  rcases snapshotStart_run found with rfl | ⟨none, _, rfl⟩
  · exact ⟨c, rfl, claimed.finalizer_mem, claimed.pending, rfl⟩
  · exact ⟨c, rfl, claimed.finalizer_mem, claimed.pending, none⟩

theorem snapshotStart_volume {env' : Env} {c : Image} {vol : Option Volume} {pc' : Pc}
    (found : (reconcileSnapshotStart env' c).run = some pc') : VolumeInv vol pc' := by
  rcases snapshotStart_run found with rfl | ⟨-, _, rfl⟩ <;> trivial

namespace ImageInv

theorem afterGet {w : World} {img : Image}
    (inv : ImageInv r w.env frozen i (w.view r i (some (.imagesGet i))))
    (found : w.images i = some img) :
    ImageInv r w.env frozen i (w.view r i (Cephlet.afterGet w.env img).run) := by
  simp only [World.view, found] at inv ⊢
  have id_eq := inv.stored_id img rfl
  have once := inv.finalizer_once img rfl
  have registered := inv.registered_of_image rfl
  unfold Cephlet.afterGet deleteImage
  split_ifs with deleted mem available mem'
  · exact inv.goto ⟨id_eq, deleted, mem, once⟩ (by rintro _ ⟨⟩; exact ⟨deleted, rfl, rfl⟩) trivial
      (fun _ => registered)
  · exact inv.stop
  · exact inv.stop
  · have claimed : Claimed i img :=
      ⟨id_eq, mem', once, available, Option.not_isSome_iff_eq_none.mp deleted⟩
    exact inv.written registered id_eq once (fun _ => mem') (fun _ state => absurd state available)
      (fun _ next => snapshotStart_copy claimed next)
      (fun _ next => snapshotStart_stored claimed next) (fun _ next => snapshotStart_volume next)
  · refine inv.goto ⟨id_eq, by simp [Image.withFinalizers], ?_, available,
      Option.not_isSome_iff_eq_none.mp deleted⟩
      (by rintro _ ⟨⟩; exact ⟨available, rfl⟩) trivial (fun _ => registered)
    simpa [Image.withFinalizers] using count_append_finalizer mem'

theorem advance {w : World} {pc : Pc} (choice : Choice)
    (inv : ImageInv r w.env frozen i (w.view r i (some pc))) :
    ImageInv r w.env frozen i ((pc.step r choice w).2.view r i (pc.step r choice w).1.run) := by
  have copy := inv.run_copy pc rfl
  have stored : pc.expects.holds (w.images i) := inv.run_stored pc rfl
  have volume : VolumeInv (w.pool (r.naming.imageIDToRBDID i)) pc := inv.run_volume pc rfl
  have registered : pc.copy.isSome → i ∈ w.imageIds := inv.registered_of_copy pc rfl
  cases pc with
  | openIOContext id =>
    simp only [Pc.step]; split
    · exact inv.stop
    · exact inv.goto copy trivial trivial (by simp [Pc.copy])
  | imagesGet id =>
    cases (copy : id = i)
    simp only [Pc.step]; split
    · exact inv.stop
    · split
      · exact inv.stop
      · exact inv.afterGet ‹_›
  | removeImage c =>
    obtain ⟨rfl, deleted, mem, once⟩ := copy
    simp only [Pc.step]; split
    · exact inv.stop
    · simp only [World.view_removeVolume, Next.run]
      exact inv.volumeRemoved stored ⟨rfl, deleted, finalizer_not_mem_erase once⟩ stored rfl
        (registered rfl)
  | removeFinalizer c =>
    obtain ⟨rfl, deleted, absent⟩ := copy
    simp only [Pc.step]; split
    · exact inv.stop
    · split
      · obtain ⟨-, rfl⟩ := World.updateImage_eq_ok.mp ‹_›
        simp only [World.view_putImage, Image.written_id, Next.run]
        exact inv.written (registered rfl) rfl (by simp [List.count_eq_zero_of_not_mem absent])
          (fun some => by simp [show w.pool _ = none from volume] at some)
          (fun live _ => by simp [show c.deletedAt = none from live] at deleted) (by simp)
          (by simp) (by simp)
      · exact inv.stop
      · exact inv.stop
  | setFinalizers c =>
    have claimed : Claimed i c := copy
    obtain rfl := claimed.id_eq
    simp only [Pc.step]; split
    · exact inv.stop
    · split
      · obtain ⟨-, rfl⟩ := World.updateImage_eq_ok.mp ‹_›
        simp only [World.view_putImage, Image.written_id]
        exact inv.written (registered rfl) rfl claimed.finalizer_once
          (fun _ => claimed.finalizer_mem) (fun _ state => absurd state claimed.pending)
          (fun _ next => snapshotStart_copy claimed.written next)
          (fun _ next => snapshotStart_stored claimed.written next)
          (fun _ next => snapshotStart_volume next)
      · exact inv.stop
  | resolve c locator =>
    simp only [Pc.step]; split
    · exact inv.stop
    · split
      · exact inv.stop
      · exact inv.goto copy stored trivial (fun _ => registered rfl)
  | getSnapshot c locator digest =>
    simp only [Pc.step]; split
    · exact inv.stop
    · split
      · exact inv.goto (copy.1.withSnapshotRef _) stored trivial (fun _ => registered rfl)
      · exact inv.goto copy stored trivial (fun _ => registered rfl)
  | createSnapshot c locator digest =>
    simp only [Pc.step]; split
    · exact inv.stop
    · split
      · obtain ⟨-, rfl⟩ := World.createSnapshot_eq_ok.mp ‹_›
        simp only [World.view_snapshots]
        exact inv.goto (copy.1.withSnapshotRef _) stored trivial (fun _ => registered rfl)
      · exact inv.stop
  | recordSnapshotRef c =>
    have claimed : Claimed i c := copy
    obtain rfl := claimed.id_eq
    simp only [Pc.step]; split
    · exact inv.stop
    · split
      · obtain ⟨-, rfl⟩ := World.updateImage_eq_ok.mp ‹_›
        simp only [World.view_putImage, Image.written_id]
        exact inv.written (registered rfl) rfl claimed.finalizer_once
          (fun _ => claimed.finalizer_mem) (fun _ state => absurd state claimed.pending)
          (by rintro _ ⟨⟩; exact claimed.written)
          (by rintro _ ⟨⟩; exact ⟨_, rfl, claimed.finalizer_mem, claimed.pending, rfl⟩)
          (by rintro _ ⟨⟩; trivial)
      · exact inv.stop
  | setDataPool c =>
    simp only [Pc.step]; split
    · exact inv.stop
    · unfold provision; split
      · exact inv.goto ⟨copy, ‹_›⟩ (by simpa [Pc.expects] using stored) trivial
          (fun _ => registered rfl)
      · exact inv.goto copy (by simpa [Pc.expects] using stored) trivial (fun _ => registered rfl)
  | getCloneSource c ref =>
    simp only [Pc.step]; split
    · exact inv.stop
    · split
      · exact inv.stop
      · split
        · exact inv.goto copy.1 stored trivial (fun _ => registered rfl)
        · exact inv.stop
  | openSourceContext c snap =>
    simp only [Pc.step]; split
    · exact inv.stop
    · exact inv.goto copy stored trivial (fun _ => registered rfl)
  | cloneImage c snap =>
    have claimed : Claimed i c := copy
    obtain rfl := claimed.id_eq
    simp only [Pc.step]; split
    · exact inv.stop
    · split
      · obtain ⟨_, -, -, rfl⟩ := World.cloneVolume_eq_ok.mp ‹_›
        simp only [World.view_putVolume]
        exact inv.volumeSet stored claimed stored rfl (registered rfl)
      · exact inv.stop
  | openClone c =>
    obtain rfl := (show Claimed i c from copy).id_eq
    simp only [Pc.step]; split
    · exact inv.stop
    · split
      · exact inv.goto copy stored (by simp [VolumeInv, World.view, *]) (fun _ => registered rfl)
      · exact inv.stop
  | resizeClone c =>
    have claimed : Claimed i c := copy
    obtain rfl := claimed.id_eq
    simp only [Pc.step]; split
    · exact inv.goto copy stored volume (fun _ => registered rfl)
    · split
      · obtain ⟨_, -, rfl⟩ := World.resizeVolume_eq_ok.mp ‹_›
        simp only [World.view_putVolume]
        exact inv.volumeSet stored claimed stored rfl (registered rfl)
      · exact inv.goto copy stored volume (fun _ => registered rfl)
  | closeAfterResize c cause =>
    simp only [Pc.step]; split
    · exact inv.stop
    · exact inv.stop
  | closeClone c =>
    simp only [Pc.step]; split
    · exact inv.stop
    · unfold afterProvision; split
      · obtain ⟨vol, found⟩ := Option.isSome_iff_exists.mp (volume : VolumeInv _ (.closeClone c))
        refine inv.goto copy stored ⟨vol, found, ?_⟩ (fun _ => registered rfl)
        simp [LimitsSet, *]
      · exact inv.goto copy stored volume (fun _ => registered rfl)
  | createImage c =>
    have claimed : Claimed i c := copy
    obtain rfl := claimed.id_eq
    simp only [Pc.step]; split
    · exact inv.stop
    · split
      · obtain ⟨-, rfl⟩ := World.createVolume_eq_ok.mp ‹_›
        simp only [World.view_putVolume]
        unfold afterProvision; split
        · exact inv.volumeSet stored claimed stored ⟨_, rfl, by simp [LimitsSet, *]⟩
            (registered rfl)
        · exact inv.volumeSet stored claimed stored rfl (registered rfl)
      · exact inv.stop
  | openForLimits c =>
    obtain rfl := (show Claimed i c from copy).id_eq
    simp only [Pc.step]; split
    · exact inv.stop
    · split
      · rename_i found
        exact inv.goto copy stored ⟨_, found, [], rfl, LimitsSet.nil _⟩ (fun _ => registered rfl)
      · exact inv.stop
  | setLimits c rest =>
    have claimed : Claimed i c := copy
    obtain rfl := claimed.id_eq
    obtain ⟨vol, found, done, entries, set⟩ := volume
    simp only [Pc.step]
    unfold setLimitsStep
    split
    · split
      · exact inv.stop
      · exact inv.goto copy stored ⟨vol, found, by rw [entries, List.append_nil]; exact set⟩
          (fun _ => registered rfl)
    · rename_i limit value rest
      split
      · exact inv.goto copy stored (by simp [VolumeInv, found]) (fun _ => registered rfl)
      · split
        · obtain ⟨_, same, rfl⟩ := World.setVolumeMetadata_eq_ok.mp ‹_›
          rw [found] at same
          cases same
          simp only [World.view_putVolume]
          exact inv.volumeSet stored claimed stored
            ⟨_, rfl, done ++ [(limit, value)], by simp [entries], set.snoc (Limits.fresh entries)⟩
            (registered rfl)
        · exact inv.goto copy stored (by simp [VolumeInv, found]) (fun _ => registered rfl)
  | closeAfterLimit c limit cause =>
    simp only [Pc.step]; split
    · exact inv.stop
    · exact inv.stop
  | fetchAuth c =>
    have claimed : Claimed i c := copy
    simp only [Pc.step]; split
    · exact inv.stop
    · split
      · exact inv.stop
      · exact inv.stop
      · rename_i key reply
        exact inv.goto ⟨claimed.id_eq, claimed.finalizer_mem, claimed.finalizer_once,
            claimed.live, _, key, choice.wwn, ImageReconciler.fetchAuth_eq_some.mpr ⟨reply, rfl⟩,
            rfl⟩
          stored volume (fun _ => registered rfl)
  | setAvailable c =>
    obtain ⟨rfl, mem, once, -, provisioned⟩ := copy
    obtain ⟨vol, found, set⟩ := volume
    simp only [Pc.step]; split
    · exact inv.stop
    · split
      · obtain ⟨-, rfl⟩ := World.updateImage_eq_ok.mp ‹_›
        simp only [World.view_putImage, Image.written_id, Next.run]
        exact inv.written (registered rfl) rfl once (fun _ => mem)
          (fun _ _ => ⟨provisioned, vol, found, set⟩) (by simp) (by simp) (by simp)
      · exact inv.stop

end ImageInv

end

end Cephlet
