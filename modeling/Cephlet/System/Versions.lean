import Cephlet.System.Safety

/-! The store's versions: the reconciler never reverts a write of the submitter.

Every images.Update is a compare-and-write against the version its writer fetched, and
every write moves the version on. A run's copy of its image is therefore never ahead of
the stored object, and a copy of the stored version holds the submitter's fields the
store holds (`Current`). So a run writes its copy only over the object it fetched or last
wrote, and carries that object's labels, DeletedAt and spec unchanged: no step of a run
changes what the submitter wrote, and a DeletedAt once set stays.
-/

set_option autoImplicit false

namespace Cephlet

/-- A run's copy `c` of the stored image: never of a later version, and of the stored
version only with the submitter's fields the store holds. -/
def Current (c stored : Image) : Prop :=
  c.resourceVersion ≤ stored.resourceVersion ∧
    (stored.resourceVersion = c.resourceVersion → stored.submitterFields = c.submitterFields)

/-- The run on an image holds a current copy of it. -/
def View.Current (v : View) : Prop :=
  ∀ pc c stored, v.run = some pc → pc.copy = some c → v.image = some stored →
    Cephlet.Current c stored

namespace Current

variable {c c' stored : Image}

theorem of_sameVersion (same : c.SameVersion stored) : Current c stored :=
  ⟨same.1.le, fun _ => same.2.symm⟩

theorem sameVersion (same : c'.SameVersion c) (current : Current c stored) :
    Current c' stored :=
  ⟨same.1 ▸ current.1, fun eq => (current.2 (eq.trans same.1)).trans same.2.symm⟩

theorem written (same : c'.SameVersion c) : Current c' c.written :=
  ⟨by simp [same.1], fun eq => by simp [same.1] at eq⟩

theorem edit {frozen : Prop} {old new : Image} (current : Current c old)
    (edit : SubmitterEdit frozen old new) : Current c new := by
  have later := edit.version_lt
  have behind := current.1
  exact ⟨by omega, fun eq => by omega⟩

end Current

section
variable {r : ImageReconciler} {choice : Choice} {w : World} {pc : Pc} {i : String}

/-- A run's step writes image `i` only over the version its copy holds, which carries the
stored submitter's fields, so the stored image keeps them. -/
theorem Pc.step_submitterFields (owned : pc.id = i)
    (current : ∀ c stored, pc.copy = some c → w.images i = some stored → Current c stored)
    {new : Image} (found : (pc.step r choice w).2.images i = some new) :
    ∃ old, w.images i = some old ∧ new.submitterFields = old.submitterFields := by
  have touched := Pc.step_touches r choice w pc
  generalize (pc.step r choice w).2 = w' at touched found
  cases touched with
  | image c copy version =>
    obtain rfl : c.id = i := (Pc.id_of_copy copy).symm.trans owned
    obtain ⟨old, stored, same⟩ := Option.map_eq_some'.mp version
    simp only [World.putImage_images, Image.written_id, Function.update_same,
      Option.some.injEq] at found
    subst found
    exact ⟨old, stored, by simpa using ((current c old copy stored).2 same).symm⟩
  | _ => exact ⟨new, by simpa using found, rfl⟩

variable {frozen : Prop} {run : Option Pc} {v : View}

theorem View.Current.advance (inv : ImageInv r w.env frozen i (w.view r i (some pc)))
    (current : (w.view r i (some pc)).Current) (choice : Choice) :
    ((pc.step r choice w).2.view r i (pc.step r choice w).1.run).Current := by
  intro pc' c' stored' running copy' found'
  simp only [World.view] at running found'
  have owned : pc.id = i := (inv.run_copy pc rfl).id_eq
  have running' : (pc.step r choice w).1 = .running pc' := by
    revert running
    cases (pc.step r choice w).1 <;> simp [Next.run]
  rcases Pc.step_copy running' copy' with ⟨id, img, rfl, same, found, version⟩ |
    ⟨c, copy, version | ⟨written, version⟩⟩
  · -- images.Get copied the stored image
    obtain rfl : id = i := owned
    rw [same, found, Option.some.injEq] at found'
    exact found' ▸ .of_sameVersion version
  · -- the copy kept its version: the stored image is as it was, or the copy written
    have named : c.id = i := (Pc.id_of_copy copy).symm.trans owned
    have touched := Pc.step_touches r choice w pc
    generalize (pc.step r choice w).2 = w' at touched found'
    cases touched with
    | image c₁ copy₁ _ =>
      rw [copy, Option.some.injEq] at copy₁
      subst copy₁
      rw [World.putImage_images, Image.written_id, named, Function.update_same,
        Option.some.injEq] at found'
      exact found' ▸ .written version
    | _ => exact .sameVersion version (current pc c stored' rfl copy (by simpa using found'))
  · -- the run wrote its copy, and goes on with the version it stored
    have named : c.id = i := (Pc.id_of_copy copy).symm.trans owned
    rw [written, World.putImage_images, Image.written_id, named, Function.update_same,
      Option.some.injEq] at found'
    exact found' ▸ .of_sameVersion version

theorem View.Current.targetStep (inv : ImageInv r w.env frozen i (w.view r i run))
    (current : (w.view r i run).Current) (step : TargetStep r frozen w i run v) : v.Current := by
  cases step with
  | start => rintro _ _ _ ⟨⟩ ⟨⟩
  | advance pc choice => exact current.advance inv choice
  | stop => rintro _ _ _ ⟨⟩
  | submit run labels image size limits fresh =>
    intro pc c _ found copy _
    exact absurd (inv.registered_of_copy pc found (by simp [copy])) fresh
  | edit run old new found edit =>
    rintro pc c _ running copy ⟨⟩
    exact (current pc c old running copy (by simp [World.view, found])).edit edit
  | purge => rintro _ _ _ _ _ ⟨⟩

end

section
variable {r : ImageReconciler} {admits : Sys → Action → Prop} {s s' : Sys} {a : Action}

theorem Reachable.current (reach : Reachable r admits s) (i : String) : (s.view r i).Current := by
  induction reach generalizing i with
  | init env => rintro _ _ _ ⟨⟩
  | step a reach _ h ih =>
    have inv : SysInv r False _ := reach.sysInv False.elim
    by_cases target : a.target = some i
    · exact (ih i).targetStep (inv i) (Sys.step_target h target False.elim)
    · rw [Sys.step_view_of_ne h inv.owned target]
      exact ih i

/-- A step keeps the submitter's fields of a registered image, unless it is an update of
the submitter's to it. -/
theorem Sys.step_image (inv : SysInv r False s) (current : ∀ i, (s.view r i).Current)
    (h : s.step r a = some s') {i : String} (registered : i ∈ s.world.imageIds) {new : Image}
    (found : s'.world.images i = some new) :
    ∃ old, s.world.images i = some old ∧ (new.submitterFields = old.submitterFields ∨
      a.edits = some i ∧ SubmitterEdit False old new) := by
  by_cases target : a.target = some i
  · cases a <;> simp only [Action.target, Option.some.injEq, reduceCtorEq] at target <;>
      subst target
    · -- start
      simp only [Sys.step, Sys.setRun] at h
      split at h <;> cases h
      exact ⟨new, found, .inl rfl⟩
    · -- a step of the run
      obtain ⟨pc, running, rfl⟩ := Option.map_eq_some'.mp h
      obtain ⟨old, stored, same⟩ := Pc.step_submitterFields (inv.owned _ pc running)
        (fun c stored copy found => current _ pc c stored running copy found) found
      exact ⟨old, stored, .inl same⟩
    · -- stop
      obtain ⟨_, _, rfl⟩ := Option.map_eq_some'.mp h
      exact ⟨new, found, .inl rfl⟩
    · -- images.Create of a registered ID fails
      simp [Sys.step, registered] at h
    -- the submitter's updates, and a purge, which leaves nothing stored
    all_goals first
      | (obtain ⟨old, new', stored, rfl, edit⟩ := Sys.step_edit h rfl
         simp only [World.setImage_images, Function.update_same, Option.some.injEq] at found
         subst found
         exact ⟨old, stored, .inr ⟨rfl, { edit with limits_eq := False.elim }⟩⟩)
      | (simp only [Sys.step] at h
         split at h <;> (try split_ifs at h) <;> cases h
         simp at found)
  · have same : s'.world.images i = s.world.images i :=
      congrArg View.image (Sys.step_view_of_ne h inv.owned target)
    exact ⟨new, same ▸ found, .inl rfl⟩

/-- From a reachable state on, a registered image keeps a property of its stored object
that every admitted step keeps. -/
theorem Reachable.image_keeps {i : String} {R : Image → Prop} (reach : Reachable r anyAction s)
    (registered : i ∈ s.world.imageIds) (now : ∀ img, s.world.images i = some img → R img)
    (step : ∀ s a old new, admits s a → R old → (new.submitterFields = old.submitterFields ∨
      a.edits = some i ∧ SubmitterEdit False old new) → R new)
    (leads : Sys.Leads r admits s s') : ∀ img, s'.world.images i = some img → R img := by
  have kept : Reachable r anyAction s' ∧ i ∈ s'.world.imageIds ∧
      ∀ img, s'.world.images i = some img → R img := by
    induction leads with
    | refl => exact ⟨reach, registered, now⟩
    | tail _ next ih =>
      obtain ⟨reach', registered', kept⟩ := ih
      obtain ⟨a, admitted, h⟩ := next
      refine ⟨.step a reach' trivial h, Sys.step_imageIds_subset h registered', fun img found => ?_⟩
      obtain ⟨old, found', change⟩ :=
        Sys.step_image (reach'.sysInv False.elim) reach'.current h registered' found
      exact step _ a old img admitted (kept old found') change
  exact kept.2.2

/-- The reconciler never reverts the submitter's writes. Take a reachable state in which
image `i` is stored. In every later state, whatever the runs and the submitter do, a
DeletedAt that was set keeps its value, and the next run on `i` takes the deletion path.
And as long as the submitter does not update `i`, its labels, DeletedAt, and spec but for
the snapshot reference stay as they are. -/
theorem submitter_writes_survive {i : String} {img : Image} (reach : Reachable r anyAction s)
    (found : s.world.images i = some img) :
    (∀ s', Sys.Leads r anyAction s s' → img.deletedAt.isSome → ∀ img',
      s'.world.images i = some img' →
        img'.deletedAt = img.deletedAt ∧ afterGet s'.world.env img' = deleteImage img') ∧
    ∀ s', Sys.Leads r (fun _ a => a.edits ≠ some i) s s' → ∀ img',
      s'.world.images i = some img' → img'.submitterFields = img.submitterFields := by
  have registered : i ∈ s.world.imageIds :=
    ((reach.sysInv False.elim : SysInv r False s) i).registered_of_image
      (by simp [Sys.view, World.view, found])
  have now : ∀ {R : Image → Prop}, R img → ∀ img', s.world.images i = some img' → R img' :=
    fun holds img' found' => by rw [found, Option.some.injEq] at found'; exact found' ▸ holds
  refine ⟨fun s' leads deleted img' found' => ?_, fun s' leads => ?_⟩
  · have kept := reach.image_keeps (R := fun img' => img'.deletedAt = img.deletedAt) registered
      (now rfl) (fun _ _ old new _ same change => by
        rcases change with fields | ⟨-, edit⟩
        · exact (congrArg SubmitterFields.deletedAt fields).trans same
        · exact (edit.deleted_keep (same ▸ deleted)).trans same) leads img' found'
    exact ⟨kept, by simp [afterGet, kept, deleted]⟩
  · exact reach.image_keeps registered (now rfl) (fun _ _ old new other same change =>
      change.elim (·.trans same) fun ⟨edits, _⟩ => absurd edits other) leads

end

/-- Image "a"'s run fetched it; the submitter then marked it deleted and relabelled it. -/
def editedDuringRun : List Action :=
  [.submit "a" [] "" 10 noLimits, .start "a", .succeed "a", .succeed "a", .markDeleted "a" 1,
    .relabel "a" [("tier", "gold")]]

/-- The run's finalizer write (line 353) meets the submitter's newer version and fails with
a conflict, so its next step keeps the deletion mark and the labels. -/
theorem submitter_writes_survive_sample :
    ((∀ s', Sys.Leads sampleReconciler anyAction
        (Sys.ofTrace sampleReconciler sampleEnv editedDuringRun) s' →
      (some 1 : Option Nat).isSome → ∀ img', s'.world.images "a" = some img' →
        img'.deletedAt = some 1 ∧ afterGet s'.world.env img' = deleteImage img') ∧
    ∀ s', Sys.Leads sampleReconciler (fun _ a => a.edits ≠ some "a")
        (Sys.ofTrace sampleReconciler sampleEnv editedDuringRun) s' →
      ∀ img', s'.world.images "a" = some img' →
        img'.submitterFields = ⟨[("tier", "gold")], some 1, "", 10, noLimits⟩) ∧
    ((Sys.ofTrace sampleReconciler sampleEnv (editedDuringRun ++ [.succeed "a"])).world.images
      "a").map (fun img => (img.deletedAt, img.labels)) = some (some 1, [("tier", "gold")]) :=
  ⟨submitter_writes_survive (Reachable.ofTrace (fun _ _ _ => trivial) (by decide))
    (show _ = some ⟨"a", [("tier", "gold")], [], some 1, ⟨"", none, 10, noLimits⟩,
      ⟨.pending, none⟩, 2⟩ by decide), by decide⟩

end Cephlet
