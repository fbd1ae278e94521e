import Cephlet.System.RunStep
import Cephlet.System.Trace

/-! Safety of the whole system: the invariant of every image holds in every
reachable state.

What it gives: no backend volume outlives its image's finalizer, a live
Available image carries the credentials fetchAuth returned and its volume holds
its limits, and what the reconciler writes once (the snapshot reference, the
Available status) is never written again while the image exists.
-/

set_option autoImplicit false

namespace Cephlet

/-- How an image may change from one state to a later one: a snapshot reference
once set stays, so does an Available status, and a purged image stays purged. -/
def Evolves : Option Image → Option Image → Prop
  | none, some _ => False
  | some old, some new =>
    (∀ ref, old.spec.snapshotRef = some ref → new.spec.snapshotRef = some ref) ∧
      (old.status.state = .available → new.status = old.status)
  | _, none => True

theorem Evolves.refl : ∀ img : Option Image, Evolves img img
  | none => trivial
  | some _ => ⟨fun _ => id, fun _ => rfl⟩

theorem Evolves.trans : ∀ {a b c : Option Image}, Evolves a b → Evolves b c → Evolves a c := by
  intro a b c first second
  cases c with
  | none => cases a <;> trivial
  | some c =>
    cases b with
    | none => exact second.elim
    | some b =>
      cases a with
      | none => exact first.elim
      | some a =>
        obtain ⟨ref, status⟩ := first
        obtain ⟨ref', status'⟩ := second
        exact ⟨fun _ set => ref' _ (ref _ set), fun available =>
          (status' (by rw [status available]; exact available)).trans (status available)⟩

theorem Evolves.of_edit {frozen : Prop} {old new : Image} (edit : SubmitterEdit frozen old new) :
    Evolves (some old) (some new) :=
  ⟨fun _ set => edit.snapshotRef_eq ▸ set, fun _ => edit.status_eq⟩

theorem Pc.copy_evolves {pc : Pc} {c stored : Image} (copy : pc.copy = some c)
    (h : pc.expects.holds (some stored)) : Evolves (some stored) (some c) := by
  cases pc <;> simp only [Pc.copy, Option.some.injEq, reduceCtorEq] at copy <;> subst copy <;>
    simp_all [Pc.expects, Expect.holds, Evolves]

section
variable {r : ImageReconciler} {frozen : Prop} {i : String} {w : World} {run : Option Pc}
  {v : View}

theorem ImageInv.targetStep (inv : ImageInv r w.env frozen i (w.view r i run))
    (step : TargetStep r frozen w i run v) : ImageInv r w.env frozen i v := by
  cases step with
  | start => exact inv.start
  | advance pc choice => exact inv.advance choice
  | stop pc => exact inv.stop
  | submit run labels image size limits fresh =>
    exact inv.submit fresh (List.mem_append_right _ (List.mem_singleton_self i)) labels image size
      limits
  | edit run old new found edit =>
    simp only [World.view, found] at inv
    exact inv.edit edit
  | purge run old found empty =>
    simp only [World.view, found] at inv
    exact inv.purge empty

theorem TargetStep.evolves (inv : ImageInv r w.env frozen i (w.view r i run))
    (step : TargetStep r frozen w i run v) (registered : i ∈ w.imageIds) :
    Evolves (w.images i) v.image := by
  cases step with
  | start | stop => exact Evolves.refl _
  | advance pc choice =>
    have owned : pc.id = i := (inv.run_copy pc rfl).id_eq
    have stored : pc.expects.holds (w.images i) := inv.run_stored pc rfl
    have touched := Pc.step_touches r choice w pc
    show Evolves (w.images i) ((pc.step r choice w).2.images i)
    generalize (pc.step r choice w).2 = w' at touched ⊢
    cases touched with
    | keep | snapshot | volume => exact Evolves.refl _
    | image c copy current =>
      obtain rfl : c.id = i := (Pc.id_of_copy copy).symm.trans owned
      obtain ⟨img, found, -⟩ := Option.map_eq_some'.mp current
      rw [found] at stored ⊢
      simpa [Evolves] using Pc.copy_evolves copy stored
  | submit _ _ _ _ _ fresh => exact absurd registered fresh
  | edit _ _ _ found edit => rw [found]; exact Evolves.of_edit edit
  | purge _ _ found => rw [found]; trivial

end

def SysInv (r : ImageReconciler) (frozen : Prop) (s : Sys) : Prop :=
  ∀ i, ImageInv r s.world.env frozen i (s.view r i)

namespace SysInv

variable {r : ImageReconciler} {frozen : Prop} {s s' : Sys} {a : Action}

theorem init (env : Env) : SysInv r frozen (Sys.init env) := fun _ => ImageInv.init

theorem owned (inv : SysInv r frozen s) (id : String) (pc : Pc) (found : s.runs id = some pc) :
    pc.id = id :=
  ((inv id).run_copy pc found).id_eq

theorem step (inv : SysInv r frozen s) (h : s.step r a = some s')
    (keeps : frozen → limitsFrozen s a) : SysInv r frozen s' := by
  intro i
  rw [Sys.step_env h]
  by_cases target : a.target = some i
  · exact (inv i).targetStep (Sys.step_target h target keeps)
  · rw [Sys.step_view_of_ne h inv.owned target]
    exact inv i

theorem step_evolves {i : String} (inv : SysInv r False s) (h : s.step r a = some s')
    (registered : i ∈ s.world.imageIds) : Evolves (s.world.images i) (s'.world.images i) := by
  by_cases target : a.target = some i
  · exact TargetStep.evolves (inv i) (Sys.step_target h target fun no : False => no.elim)
      registered
  · rw [show s'.world.images i = s.world.images i from
      congrArg View.image (Sys.step_view_of_ne h inv.owned target)]
    exact Evolves.refl _

end SysInv

section
variable {r : ImageReconciler} {admits : Sys → Action → Prop} {s : Sys}

/-- The invariant holds in every reachable state; its limits part where no admitted
action changes an image's limits. -/
theorem Reachable.sysInv {frozen : Prop} (reach : Reachable r admits s)
    (keeps : frozen → ∀ s a, admits s a → limitsFrozen s a) : SysInv r frozen s := by
  induction reach with
  | init env => exact SysInv.init env
  | step a _ admitted h inv => exact inv.step h fun frozen => keeps frozen _ a admitted

theorem Reachable.leads {s' : Sys} (reach : Reachable r admits s)
    (leads : Sys.Leads r admits s s') :
    Reachable r admits s' := by
  induction leads with
  | refl => exact reach
  | tail _ step reach' =>
    obtain ⟨a, admitted, h⟩ := step
    exact .step a reach' admitted h

theorem no_orphaned_volume (reach : Reachable r admits s) (id : String)
    (present : (s.world.pool (r.naming.imageIDToRBDID id)).isSome) :
    ∃ img, s.world.images id = some img ∧ imageFinalizer ∈ img.finalizers :=
  ((reach.sysInv (fun no : False => no.elim) : SysInv r False s) id).volume_claimed present

end

/-- An image whose first run created its volume, then failed at fetchAuth. -/
def createdThenFailed : List Action :=
  .submit "a" [] "" 10 noLimits :: .start "a" :: List.replicate 5 (.succeed "a") ++ [.failCall "a"]

theorem no_orphaned_volume_after_failure :
    ∃ img, (Sys.ofTrace sampleReconciler sampleEnv createdThenFailed).world.images "a" = some img ∧
      imageFinalizer ∈ img.finalizers :=
  no_orphaned_volume
    (Reachable.ofTrace (fun _ _ _ => trivial : ∀ s a, a ∈ createdThenFailed → anyAction s a)
      (by decide)) "a" (by decide)

section
variable {r : ImageReconciler} {admits : Sys → Action → Prop} {s : Sys}

theorem Reachable.evolves {i : String} {img : Image} (reach : Reachable r admits s)
    (found : s.world.images i = some img) {s' : Sys} (leads : Sys.Leads r admits s s') :
    Evolves (some img) (s'.world.images i) ∧ i ∈ s'.world.imageIds := by
  induction leads with
  | refl =>
    rw [← found]
    have inv : SysInv r False s := reach.sysInv False.elim
    exact ⟨Evolves.refl _, (inv i).registered_of_image (by simp [Sys.view, World.view, found])⟩
  | tail leads step ih =>
    obtain ⟨a, _, h⟩ := step
    have inv : SysInv r False _ := (reach.leads leads).sysInv False.elim
    exact ⟨ih.1.trans (inv.step_evolves h ih.2), Sys.step_imageIds_subset h ih.2⟩

theorem available_image_provisioned (reach : Reachable r limitsFrozen s) (i : String) :
    (∀ img, s.world.images i = some img → img.deletedAt = none →
      img.status.state = .available →
        (∃ user key wwn, r.fetchAuth s.world.env = some (user, key) ∧
          img.status.access = some ⟨r.monitors, r.pool ++ "/" ++ i, user, key, wwn⟩) ∧
        ∃ vol, s.world.pool (r.naming.imageIDToRBDID i) = some vol ∧
          ∀ entry ∈ img.spec.limits.entries,
            vol.metadata (limitMetadataPrefix ++ entry.1) = some (formatInt entry.2)) ∧
    ∀ img, s.world.images i = some img →
      ∀ s', Sys.Leads r limitsFrozen s s' → Evolves (some img) (s'.world.images i) := by
  have inv := (reach.sysInv fun _ _ _ frozen => frozen : SysInv r True s) i
  refine ⟨fun img found live available => ⟨?_, ?_⟩, fun img found _ leads =>
    (reach.evolves found leads).1⟩
  · obtain ⟨⟨user, key, wwn, auth, status⟩, -⟩ := inv.available img found live available
    refine ⟨user, key, wwn, auth, ?_⟩
    rw [status, ImageReconciler.provisioned_status, inv.stored_id img found]
  · exact inv.limits_set trivial img found live available

end

/-- An image with one limit, provisioned by one run. -/
def provisionedTrace : List Action :=
  .submit "a" [] "" 10 sampleLimits :: .start "a" :: List.replicate 10 (.succeed "a")

theorem available_image_provisioned_sample :
    let s := Sys.ofTrace sampleReconciler sampleEnv provisionedTrace
    (∀ img, s.world.images "a" = some img → img.deletedAt = none →
      img.status.state = .available →
        (∃ user key wwn, sampleReconciler.fetchAuth s.world.env = some (user, key) ∧
          img.status.access = some ⟨"mon", "pool" ++ "/" ++ "a", user, key, wwn⟩) ∧
        ∃ vol, s.world.pool "img_a" = some vol ∧
          ∀ entry ∈ img.spec.limits.entries,
            vol.metadata (limitMetadataPrefix ++ entry.1) = some (formatInt entry.2)) ∧
    ∀ img, s.world.images "a" = some img →
      ∀ s', Sys.Leads sampleReconciler limitsFrozen s s' →
        Evolves (some img) (s'.world.images "a") :=
  available_image_provisioned
    (Reachable.ofTrace (limitsFrozen_of_no_respec (by decide)) (by decide)) "a"

end Cephlet
