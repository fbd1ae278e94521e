import Cephlet.Reconcile.Run

/-! The system the reconciler runs in: reconcileImage runs of many images at
once, each a program point, together with the submitter, the store's purge,
and the external population pipeline.

Runs of one image never overlap (the work queue hands an ID to one worker at a
time, `runs` keeps at most one per ID); runs of different images interleave at
every call. Any call may fail (`Choice.fail`) and any run may stop (`stop`).
-/

set_option autoImplicit false

namespace Cephlet

structure Sys where
  world : World
  runs : String → Option Pc

def Sys.init (env : Env) : Sys := ⟨World.init env, fun _ => none⟩

inductive Action where
  | start (id : String)
  | advance (id : String) (choice : Choice)
  | stop (id : String)
  | submit (id : String) (labels : List (String × String)) (image : String) (size : Nat)
      (limits : Limits)
  | markDeleted (id : String) (time : Nat)
  | relabel (id : String) (labels : List (String × String))
  | respec (id : String) (image : String) (size : Nat) (limits : Limits)
  | purge (id : String)
  | populate (digest : String) (size : Nat)
  | deleteSnapshot (digest : String)

/-- The image the submitter creates: no finalizer, no snapshot reference, pending, at the
first version. -/
def submittedImage (id : String) (labels : List (String × String)) (image : String) (size : Nat)
    (limits : Limits) : Image :=
  ⟨id, labels, [], none, ⟨image, none, size, limits⟩, ⟨.pending, none⟩, 0⟩

def Next.run : Next → Option Pc
  | .running pc => some pc
  | .done _ => none

namespace World

def setImage (w : World) (id : String) (img : Option Image) : World :=
  { w with images := Function.update w.images id img }

def setSnapshot (w : World) (digest : String) (snap : Option Snapshot) : World :=
  { w with snapshots := Function.update w.snapshots digest snap }

/-- images.Create with a fresh ID. -/
def submit (w : World) (img : Image) : World :=
  { w.setImage img.id (some img) with imageIds := w.imageIds ++ [img.id] }

/-- The population pipeline imports the snapshot's content into its volume and marks
it Populated. -/
def populate (w : World) (naming : Naming) (digest : String) (snap : Snapshot) (size : Nat) :
    World :=
  (w.setSnapshot digest (some { snap with state := .populated })).putVolume
    (naming.snapshotIDToRBDID digest) (some ⟨size, emptyMetadata, none⟩)

@[simp] theorem populate_env (w : World) (naming : Naming) (digest : String) (snap : Snapshot)
    (size : Nat) : (w.populate naming digest snap size).env = w.env := rfl
@[simp] theorem populate_images (w : World) (naming : Naming) (digest : String) (snap : Snapshot)
    (size : Nat) : (w.populate naming digest snap size).images = w.images := rfl
@[simp] theorem populate_snapshots (w : World) (naming : Naming) (digest : String)
    (snap : Snapshot) (size : Nat) : (w.populate naming digest snap size).snapshots =
      Function.update w.snapshots digest (some { snap with state := .populated }) := rfl
@[simp] theorem populate_pool (w : World) (naming : Naming) (digest : String) (snap : Snapshot)
    (size : Nat) : (w.populate naming digest snap size).pool =
      Function.update w.pool (naming.snapshotIDToRBDID digest) (some ⟨size, emptyMetadata, none⟩) :=
  rfl

@[simp] theorem setImage_env (w : World) (id : String) (img : Option Image) :
    (w.setImage id img).env = w.env := rfl
@[simp] theorem setImage_images (w : World) (id : String) (img : Option Image) :
    (w.setImage id img).images = Function.update w.images id img := rfl
@[simp] theorem setImage_imageIds (w : World) (id : String) (img : Option Image) :
    (w.setImage id img).imageIds = w.imageIds := rfl
@[simp] theorem setImage_snapshots (w : World) (id : String) (img : Option Image) :
    (w.setImage id img).snapshots = w.snapshots := rfl
@[simp] theorem setImage_pool (w : World) (id : String) (img : Option Image) :
    (w.setImage id img).pool = w.pool := rfl

end World

namespace Sys

def setRun (s : Sys) (id : String) (run : Option Pc) : Sys :=
  { s with runs := Function.update s.runs id run }

/-- A write of the submitter's to image `id`'s stored object; the store moves its version
on. -/
def editImage (s : Sys) (id : String) (edit : Image → Image) : Option Sys :=
  (s.world.images id).map fun img =>
    { s with world := s.world.setImage id (some (edit img).written) }

def step (r : ImageReconciler) (s : Sys) : Action → Option Sys
  | .start id => if s.runs id = none then some (s.setRun id (some (reconcileImage id))) else none
  | .advance id choice => (s.runs id).map fun pc =>
      ⟨(pc.step r choice s.world).2, Function.update s.runs id (pc.step r choice s.world).1.run⟩
  | .stop id => (s.runs id).map fun _ => s.setRun id none
  | .submit id labels image size limits =>
      if id ∈ s.world.imageIds then none
      else some { s with world := s.world.submit (submittedImage id labels image size limits) }
  | .markDeleted id time => match s.world.images id with
      | some img =>
        if img.deletedAt = none then some { s with
          world := s.world.setImage id (some (Image.written { img with deletedAt := some time })) }
        else none
      | none => none
  | .relabel id labels => s.editImage id fun img => { img with labels := labels }
  | .respec id image size limits => s.editImage id fun img =>
      { img with spec := { img.spec with image := image, size := size, limits := limits } }
  | .purge id => match s.world.images id with
      | some img =>
        if img.deletedAt.isSome ∧ img.finalizers = [] then
          some { s with world := s.world.setImage id none }
        else none
      | none => none
  | .populate digest size => match s.world.snapshots digest with
      | some snap =>
        if snap.state = .pending then
          some { s with world := s.world.populate r.naming digest snap size }
        else none
      | none => none
  | .deleteSnapshot digest =>
      (s.world.snapshots digest).map fun _ => { s with world := s.world.setSnapshot digest none }

end Sys

/-- The states the system reaches from an empty store and pool, through actions
`admits` lets happen. -/
inductive Reachable (r : ImageReconciler) (admits : Sys → Action → Prop) : Sys → Prop
  | init (env : Env) : Reachable r admits (Sys.init env)
  | step {s s' : Sys} (a : Action) :
      Reachable r admits s → admits s a → s.step r a = some s' → Reachable r admits s'

def anyAction (_ : Sys) (_ : Action) : Prop := True

/-- What the system holds for one image: its stored object, its volume, its run,
and whether the store has ever assigned its ID. -/
structure View where
  image : Option Image
  volume : Option Volume
  run : Option Pc
  registered : Prop

def World.view (r : ImageReconciler) (w : World) (id : String) (run : Option Pc) : View :=
  ⟨w.images id, w.pool (r.naming.imageIDToRBDID id), run, id ∈ w.imageIds⟩

def Sys.view (r : ImageReconciler) (s : Sys) (id : String) : View :=
  s.world.view r id (s.runs id)

section
variable (r : ImageReconciler) (w : World) (run : Option Pc)

@[simp] theorem World.view_putImage (img : Image) {id : String} (same : img.id = id) :
    (w.putImage img).view r id run =
      ⟨some img, w.pool (r.naming.imageIDToRBDID id), run, id ∈ w.imageIds⟩ := by
  subst same
  simp [World.view]

@[simp] theorem World.view_putVolume (id : String) (volume : Option Volume) :
    (w.putVolume (r.naming.imageIDToRBDID id) volume).view r id run =
      ⟨w.images id, volume, run, id ∈ w.imageIds⟩ := by
  simp [World.view]

@[simp] theorem World.view_removeVolume (id : String) :
    (w.removeVolume (r.naming.imageIDToRBDID id)).view r id run =
      ⟨w.images id, none, run, id ∈ w.imageIds⟩ := by
  simp [World.removeVolume, World.view]

@[simp] theorem World.view_snapshots (id : String) (snapshots : String → Option Snapshot) :
    ({ w with snapshots := snapshots } : World).view r id run = w.view r id run := rfl

end

def Action.movesRun : Action → Bool
  | .start _ | .advance _ _ | .stop _ => true
  | _ => false

def Action.target : Action → Option String
  | .start id | .advance id _ | .stop id | .submit id _ _ _ _ | .markDeleted id _
  | .relabel id _ | .respec id _ _ _ | .purge id => some id
  | .populate _ _ | .deleteSnapshot _ => none

namespace Sys

variable {r : ImageReconciler} {s s' : Sys} {a : Action}

theorem step_env (h : s.step r a = some s') : s'.world.env = s.world.env := by
  cases a <;> simp only [step, editImage] at h <;> (repeat' split at h) <;>
    (try simp only [Option.map_eq_some', Option.some.injEq] at h) <;>
    (try obtain ⟨_, -, rfl⟩ := h) <;> (try rfl)
  exact (Pc.step_touches _ _ _ _).env

theorem step_imageIds_subset (h : s.step r a = some s') : s.world.imageIds ⊆ s'.world.imageIds := by
  cases a <;> simp only [step, editImage] at h <;> (repeat' split at h) <;>
    (try simp only [Option.map_eq_some', Option.some.injEq] at h) <;>
    (try obtain ⟨_, -, rfl⟩ := h) <;> (try exact fun _ => id)
  · exact fun _ => by simp [(Pc.step_touches _ _ _ _).imageIds]
  · exact fun _ member => by simp [World.submit, member]

theorem step_start_runs {id : String} (h : s.step r (.start id) = some s') :
    s.runs id = none ∧ s'.runs = Function.update s.runs id (some (.openIOContext id)) := by
  simp only [step] at h
  split at h
  · cases h
    exact ⟨‹_›, rfl⟩
  · cases h

theorem step_advance_runs {id : String} {choice : Choice}
    (h : s.step r (.advance id choice) = some s') :
    ∃ pc, s.runs id = some pc ∧
      s'.runs = Function.update s.runs id (pc.step r choice s.world).1.run := by
  obtain ⟨pc, found, rfl⟩ := Option.map_eq_some'.mp h
  exact ⟨pc, found, rfl⟩

theorem step_runs_of_world (h : s.step r a = some s') (world : a.movesRun = false) :
    s'.runs = s.runs := by
  cases a <;> simp only [Action.movesRun, reduceCtorEq] at world <;>
    simp only [step, editImage] at h <;>
    (repeat' split at h) <;> (try simp only [Option.map_eq_some', Option.some.injEq] at h) <;>
    (try obtain ⟨_, _, rfl⟩ := h) <;> rfl

/-- An action changes the view of no image but its target; a run's step changes
only its own image's, given that every run reconciles the ID it is filed under. -/
theorem step_view_of_ne (h : s.step r a = some s')
    (owned : ∀ id pc, s.runs id = some pc → pc.id = id) {i : String}
    (ne : a.target ≠ some i) : s'.view r i = s.view r i := by
  cases a <;> simp only [Action.target, ne_eq, Option.some.injEq] at ne <;>
    simp only [step, editImage] at h <;> (repeat' split at h) <;>
    (try simp only [Option.map_eq_some', Option.some.injEq] at h) <;>
    (try obtain ⟨_, _, rfl⟩ := h)
  all_goals simp only [view, World.view, setRun, World.submit, World.populate, submittedImage,
    World.setImage_images, World.setImage_imageIds, World.setImage_pool,
    World.putVolume_images, World.putVolume_pool, World.putVolume_imageIds, World.setSnapshot,
    Function.update_noteq (Ne.symm ne)]
  · rename_i pc found
    have touched := Pc.step_touches r ‹Choice› s.world pc
    have same := owned _ pc found
    simp only [touched.images_ne (same ▸ Ne.symm ne), touched.imageIds,
      touched.pool_ne (fun eq => ne (r.naming.image_injective (same ▸ eq)).symm)]
  · simp [Ne.symm ne]
  · simp [Function.update_noteq (r.naming.image_ne_snapshot _ _)]

end Sys

/-- An update of the submitter's: it keeps what the reconciler owns (finalizers, status,
snapshot reference), keeps a DeletedAt once set, and moves the version on. -/
structure SubmitterEdit (frozen : Prop) (old new : Image) : Prop where
  id_eq : new.id = old.id
  finalizers_eq : new.finalizers = old.finalizers
  status_eq : new.status = old.status
  snapshotRef_eq : new.spec.snapshotRef = old.spec.snapshotRef
  deleted_keep : old.deletedAt.isSome → new.deletedAt = old.deletedAt
  limits_eq : frozen → new.spec.limits = old.spec.limits
  version_lt : old.resourceVersion < new.resourceVersion

theorem SubmitterEdit.deleted_mono {frozen : Prop} {old new : Image}
    (edit : SubmitterEdit frozen old new) (deleted : old.deletedAt.isSome) :
    new.deletedAt.isSome := by
  rwa [edit.deleted_keep deleted]

/-- The image an update of the submitter's is to: its delete mark, its labels, its spec. -/
def Action.edits : Action → Option String
  | .markDeleted id _ | .relabel id _ | .respec id _ _ _ => some id
  | _ => none

/-- The submitter does not change an image's limits after creation. -/
def limitsFrozen (s : Sys) : Action → Prop
  | .respec id _ _ limits => ∀ img, s.world.images id = some img → limits = img.spec.limits
  | _ => True

/-- What an action does to the view of the image it targets, given its run. -/
inductive TargetStep (r : ImageReconciler) (frozen : Prop) (w : World) (i : String) :
    Option Pc → View → Prop
  | start : TargetStep r frozen w i none (w.view r i (some (.openIOContext i)))
  | advance (pc : Pc) (choice : Choice) : TargetStep r frozen w i (some pc)
      ((pc.step r choice w).2.view r i (pc.step r choice w).1.run)
  | stop (pc : Pc) : TargetStep r frozen w i (some pc) (w.view r i none)
  | submit (run : Option Pc) (labels : List (String × String)) (image : String) (size : Nat)
      (limits : Limits) : i ∉ w.imageIds → TargetStep r frozen w i run
        ⟨some (submittedImage i labels image size limits), w.pool (r.naming.imageIDToRBDID i), run,
          i ∈ w.imageIds ++ [i]⟩
  | edit (run : Option Pc) (old new : Image) : w.images i = some old →
      SubmitterEdit frozen old new →
      TargetStep r frozen w i run
        ⟨some new, w.pool (r.naming.imageIDToRBDID i), run, i ∈ w.imageIds⟩
  | purge (run : Option Pc) (old : Image) : w.images i = some old → old.finalizers = [] →
      TargetStep r frozen w i run ⟨none, w.pool (r.naming.imageIDToRBDID i), run, i ∈ w.imageIds⟩

namespace Sys

variable {r : ImageReconciler} {s s' : Sys} {a : Action}

theorem view_setRun_self (s : Sys) (id : String) (run : Option Pc) :
    (s.setRun id run).view r id = s.world.view r id run := by
  simp [view, setRun]

theorem view_setImage_self (s : Sys) (id : String) (img : Option Image) :
    ({ s with world := s.world.setImage id img } : Sys).view r id =
      ⟨img, s.world.pool (r.naming.imageIDToRBDID id), s.runs id, id ∈ s.world.imageIds⟩ := by
  simp [view, World.view]

theorem step_edit {i : String} (h : s.step r a = some s') (edits : a.edits = some i) :
    ∃ old new, s.world.images i = some old ∧
      s' = { s with world := s.world.setImage i (some new) } ∧
      SubmitterEdit (limitsFrozen s a) old new := by
  cases a <;> simp only [Action.edits, Option.some.injEq, reduceCtorEq] at edits <;>
    subst edits <;> simp only [step, editImage, Option.map_eq_some'] at h
  case markDeleted time =>
    split at h
    · rename_i old found
      split_ifs at h with live
      cases h
      exact ⟨old, _, found, rfl, rfl, rfl, rfl, rfl, fun deleted => by simp [live] at deleted,
        fun _ => rfl, by simp⟩
    · cases h
  all_goals
    obtain ⟨old, found, rfl⟩ := h
    exact ⟨old, _, found, rfl, rfl, rfl, rfl, rfl, fun _ => rfl,
      fun frozen => by first | rfl | exact frozen old found, by simp⟩

theorem step_target {frozen : Prop} {i : String} (h : s.step r a = some s')
    (target : a.target = some i) (keeps : frozen → limitsFrozen s a) :
    TargetStep r frozen s.world i (s.runs i) (s'.view r i) := by
  cases edits : a.edits
  case some id =>
    have same : id = i := by
      cases a <;>
        simp only [Action.edits, Action.target, Option.some.injEq, reduceCtorEq] at edits target <;>
        exact edits.symm.trans target
    subst same
    obtain ⟨old, new, found, rfl, edit⟩ := step_edit h edits
    rw [view_setImage_self]
    exact .edit _ old new found
      { edit with limits_eq := fun frozen => edit.limits_eq (keeps frozen) }
  cases a <;> simp only [Action.target, Option.some.injEq, reduceCtorEq] at target <;>
    simp only [Action.edits, reduceCtorEq] at edits <;>
    subst target <;> simp only [step, Option.map_eq_some'] at h
  case start =>
    split at h
    · cases h
      rw [view_setRun_self, ‹s.runs _ = none›]
      exact .start
    · cases h
  case advance choice =>
    obtain ⟨pc, found, rfl⟩ := h
    rw [found]
    simpa [view] using TargetStep.advance pc choice
  case stop =>
    obtain ⟨pc, found, rfl⟩ := h
    rw [view_setRun_self, found]
    exact .stop pc
  case submit id labels image size limits =>
    split at h
    · cases h
    · cases h
      have step : TargetStep r frozen s.world id (s.runs id) _ :=
        .submit (s.runs id) labels image size limits ‹_›
      simpa [view, World.view, World.submit, submittedImage] using step
  case purge =>
    split at h
    · split at h
      · rename_i img found cond
        cases h
        rw [view_setImage_self]
        exact .purge _ img found cond.2
      · cases h
    · cases h

end Sys

end Cephlet
