import Cephlet.Reconcile.Paths

/-! Isolation of reconcileImage runs.

A run on image `i` writes image `i`'s stored object and its volume, and may create the
snapshot of a digest. Whatever call fails, it changes no other image and no other
volume, and it never changes or removes a snapshot that is there. So runs on different
images meet only in the snapshot store, where each can add a Pending snapshot. This
holds where the store keys each image by its ID (`World.Keyed`), as it does in every
state the system reaches.
-/

set_option autoImplicit false

namespace Cephlet

/-- Each stored image carries the ID it is stored under. -/
def World.Keyed (w : World) : Prop :=
  ∀ id img, w.images id = some img → img.id = id

/-- What a run on image `i` leaves of `w₀` in `w`: the same environment and image IDs,
every other image and every other volume as they were, every snapshot that was there,
and only Pending snapshots besides. -/
structure Isolated (r : ImageReconciler) (i : String) (w₀ w : World) : Prop where
  env : w.env = w₀.env
  imageIds : w.imageIds = w₀.imageIds
  images : ∀ id, id ≠ i → w.images id = w₀.images id
  pool : ∀ name, name ≠ r.naming.imageIDToRBDID i → w.pool name = w₀.pool name
  snapshots : ∀ digest snap, w₀.snapshots digest = some snap → w.snapshots digest = some snap
  created : ∀ digest snap, w.snapshots digest = some snap → w₀.snapshots digest = none →
    snap.state = .pending

namespace Isolated

variable {r : ImageReconciler} {i : String} {w₀ w₁ w₂ : World}

theorem refl (w : World) : Isolated r i w w :=
  ⟨rfl, rfl, fun _ _ => rfl, fun _ _ => rfl, fun _ _ => id, fun _ _ found missing => by
    simp [found] at missing⟩

theorem trans (first : Isolated r i w₀ w₁) (second : Isolated r i w₁ w₂) :
    Isolated r i w₀ w₂ where
  env := second.env.trans first.env
  imageIds := second.imageIds.trans first.imageIds
  images id ne := (second.images id ne).trans (first.images id ne)
  pool name ne := (second.pool name ne).trans (first.pool name ne)
  snapshots digest snap found := second.snapshots digest snap (first.snapshots digest snap found)
  created digest snap found missing := by
    cases middle : w₁.snapshots digest with
    | none => exact second.created digest snap found middle
    | some snap' =>
      -- the snapshot was there after the first stretch, so it is the same one
      obtain rfl : snap' = snap := by
        simpa [found] using (second.snapshots digest snap' middle).symm
      exact first.created digest snap' middle missing

end Isolated

section
variable (r : ImageReconciler) (choice : Choice) (w : World)

/-- A step writes the snapshot store only through snapshots.Create of a new snapshot,
which is Pending. -/
theorem Pc.step_snapshots (pc : Pc) :
    (pc.step r choice w).2.snapshots = w.snapshots ∨
      ∃ snap, snap.state = .pending ∧ w.snapshots snap.id = none ∧
        (pc.step r choice w).2.snapshots = Function.update w.snapshots snap.id (some snap) := by
  cases fail : choice.fail
  case true =>
    -- a failed call leaves the world as it was
    left
    cases pc <;> (simp only [Pc.step, setLimitsStep, fail, if_true]; try split) <;> rfl
  cases pc
  case createSnapshot img locator digest =>
    simp only [Pc.step, fail, Bool.false_eq_true, if_false]
    split
    · obtain ⟨absent, rfl⟩ := World.createSnapshot_eq_ok.mp ‹_›
      exact .inr ⟨_, rfl, absent, rfl⟩
    · exact .inl rfl
  -- every other call writes at most an image or a volume
  all_goals
    left
    simp only [Pc.step, setLimitsStep, fail, Bool.false_eq_true, if_false] <;> (repeat' split) <;>
      (try simp only [World.updateImage_eq_ok, World.createVolume_eq_ok,
        World.cloneVolume_eq_ok, World.resizeVolume_eq_ok, World.setVolumeMetadata_eq_ok] at *) <;>
      first
      | rfl
      | (obtain ⟨-, rfl⟩ := ‹_ ∧ _›; rfl)
      | (obtain ⟨_, -, -, rfl⟩ := ‹∃ _, _›; rfl)

theorem Pc.step_isolated (pc : Pc) : Isolated r pc.id w (pc.step r choice w).2 := by
  have touches := Pc.step_touches r choice w pc
  refine ⟨touches.env, touches.imageIds, fun _ ne => touches.images_ne ne,
    fun _ ne => touches.pool_ne ne, ?_, ?_⟩ <;>
    rcases Pc.step_snapshots r choice w pc with same | ⟨snap, pending, absent, created⟩
  -- the snapshots that were there are kept
  · exact fun _ _ found => same ▸ found
  · intro digest snap' found
    have ne : digest ≠ snap.id := fun same => by simp [same, absent] at found
    simpa [created, Function.update_noteq ne] using found
  -- and the one added is Pending
  · exact fun _ _ found missing => by simp [same, missing] at found
  · intro digest snap' found missing
    by_cases same : digest = snap.id
    · subst same
      simp only [created, Function.update_same, Option.some.injEq] at found
      exact found ▸ pending
    · simp [created, Function.update_noteq same, missing] at found

end

section
variable {r : ImageReconciler} {choice : Choice} {w : World} {pc pc' : Pc}

theorem World.Keyed.putImage (keyed : w.Keyed) (img : Image) : (w.putImage img).Keyed := by
  intro id c found
  by_cases same : id = img.id
  · subst same
    simp only [World.putImage_images, Function.update_same, Option.some.injEq] at found
    exact found ▸ rfl
  · exact keyed id c (by simpa [Function.update_noteq same] using found)

theorem Touches.keyed {w' : World} (h : Touches r pc w w') (keyed : w.Keyed) : w'.Keyed := by
  cases h with
  | image img => exact keyed.putImage img.written
  | _ => exact keyed

theorem Pc.step_id (keyed : w.Keyed) (running : (pc.step r choice w).1 = .running pc') :
    pc'.id = pc.id := by
  cases fail : choice.fail
  case true =>
    cases pc <;> simp only [Pc.step, setLimitsStep, fail, if_true, Next.fail] at running <;>
      (try split at running) <;> cases running <;> rfl
  cases pc with
  | openIOContext id =>
    simp only [Pc.step, fail, Bool.false_eq_true, if_false, Next.running.injEq] at running
    exact running ▸ rfl
  | imagesGet id =>
    simp only [Pc.step, fail, Bool.false_eq_true, if_false] at running
    split at running
    · cases running
    · rename_i img found
      rw [← keyed id img found]
      simp only [afterGet, deleteImage, reconcileSnapshotStart] at running
      (repeat' split at running) <;> cases running <;> rfl
  | _ =>
    simp only [Pc.step, setLimitsStep, fail, Bool.false_eq_true, if_false, Next.fail, provision,
      afterProvision, reconcileSnapshotStart] at running
    (repeat' split at running) <;> cases running <;> rfl

end

/-- A run from any point, with any of its calls failing, is isolated to the image that
point reconciles. -/
theorem Runs.isolated {r : ImageReconciler} {allowed : Choice → Prop} {pc : Pc} {w w' : World}
    {result : RunResult} (run : Runs r allowed pc w result w') (keyed : w.Keyed) :
    Isolated r pc.id w w' := by
  induction run with
  | @done pc w _ _ choice _ last =>
    have step := Pc.step_isolated r choice w pc
    rwa [last] at step
  | @next pc _ w _ _ _ choice _ first _ ih =>
    have step := Pc.step_isolated r choice w pc
    have keyed' := (Pc.step_touches r choice w pc).keyed keyed
    rw [first] at step keyed'
    exact step.trans (Pc.step_id keyed (by rw [first]) ▸ ih keyed')

/-- Isolation of reconcileImage runs. In a store that keys each image by its ID, a run
on image `i` that ends, with any of its calls failing, leaves the environment and the
image IDs as they were. It changes no image other than `i` and no volume other than
ImageIDToRBDID(i), keeps every snapshot that was there, and adds only Pending ones. -/
theorem run_isolated {r : ImageReconciler} {allowed : Choice → Prop} {i : String}
    {w w' : World} {result : RunResult} (keyed : w.Keyed)
    (run : Runs r allowed (.openIOContext i) w result w') : Isolated r i w w' :=
  run.isolated keyed

/-- The image of `sampleSubmitted` after one run that wrote the finalizer and failed at the
data pool. -/
theorem run_isolated_sample :
    ∃ result w', Runs sampleReconciler (fun _ => True) (.openIOContext "a") sampleSubmitted
      result w' ∧ Isolated sampleReconciler "a" sampleSubmitted w' := by
  have keyed : sampleSubmitted.Keyed := fun id img found => by
    by_cases same : id = "a"
    · subst same
      simp only [sampleSubmitted, World.putImage_images, Function.update_same,
        Option.some.injEq] at found
      exact found ▸ rfl
    · simp [sampleSubmitted, World.init, Function.update_noteq same] at found
  have run : Runs sampleReconciler (fun _ => True) (.openIOContext "a") sampleSubmitted _ _ :=
    .next ⟨false, ""⟩ trivial (by rfl) <| .next ⟨false, ""⟩ trivial (by rfl) <|
      .next ⟨false, ""⟩ trivial (by rfl) <| .done ⟨true, ""⟩ trivial (by rfl)
  exact ⟨_, _, run, run_isolated keyed run⟩

end Cephlet
