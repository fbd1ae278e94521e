import Cephlet.Controller.Queue
import Cephlet.System.Trace

/-! The controller that Start runs (lines 135-196): the image and snapshot
event handlers feeding the work queue, and the workers of
processNextWorkItem (lines 198-217) running reconcileImage.

The image handler is notified when the write happens. The submitter's create
and delete reach it; its label and spec updates, and the reconciler's own
writes, are Updated events it ignores. Populating a snapshot is an Updated
event for the snapshot handler that the informer delivers later, after any
number of other steps; its images.List, made at delivery, may fail. A
worker's step is a step of the system's run (`Sys.step`).
-/

set_option autoImplicit false

namespace Cephlet

inductive EventType where
  | created
  | updated
  | deleted
  deriving DecidableEq, Repr

/-- The image handler (lines 140-145): every notification but Updated adds the ID. -/
def imageHandler (q : WorkQueue) (type : EventType) (id : String) : WorkQueue :=
  if type = .updated then q else q.add id

/-- The snapshot handler (lines 154-170): a snapshot Updated to Populated adds every
listed image that references it; a failed images.List is logged and dropped. -/
def snapshotHandler (q : WorkQueue) (type : EventType) (snap : Snapshot)
    (listed : Option (List Image)) : WorkQueue :=
  if type ≠ .updated ∨ snap.state ≠ .populated then q
  else match listed with
    | none => q
    | some images => images.foldl
        (fun q img => if img.spec.snapshotRef = some snap.id then q.add img.id else q) q

/-- processNextWorkItem once reconcileImage has returned: AddRateLimited on an error,
Forget otherwise, and the deferred Done; a panic ends the process. -/
def processed (q : WorkQueue) (id : String) : Next → WorkQueue × Bool
  | .running _ => (q, false)
  | .done .ok => (q.done id, false)
  | .done (.error _) => ((q.addRateLimited id).done id, false)
  | .done .panic => (q.done id, true)

structure Ctl where
  sys : Sys
  queue : WorkQueue
  /-- The snapshot notifications the informer has yet to deliver, oldest first. -/
  pending : List Snapshot
  crashed : Bool

def Ctl.init (env : Env) : Ctl := ⟨Sys.init env, .empty, [], false⟩

inductive CtlAction where
  | submit (id : String) (labels : List (String × String)) (image : String) (size : Nat)
      (limits : Limits)
  | markDeleted (id : String) (time : Nat)
  | relabel (id : String) (labels : List (String × String))
  | respec (id : String) (image : String) (size : Nat) (limits : Limits)
  | purge (id : String)
  | populate (digest : String) (size : Nat)
  /-- The informer hands the oldest snapshot notification to the snapshot handler. -/
  | deliver (listFails : Bool)
  | deleteSnapshot (digest : String)
  /-- A worker's Get, and the start of its reconcileImage. -/
  | get
  /-- The next call of the run on `id`. -/
  | advance (id : String) (choice : Choice)
  /-- The backoff of a parked ID ends. -/
  | fire (id : String)

namespace Ctl

/-- A write of the submitter or the store's, with its notification to the image handler. -/
def write (r : ImageReconciler) (c : Ctl) (a : Action) (type : EventType) (id : String) :
    Option Ctl :=
  (c.sys.step r a).map fun sys => { c with sys := sys, queue := imageHandler c.queue type id }

/-- processNextWorkItem (lines 198-217) up to its call of reconcileImage: Get hands a
worker the first queued ID, and the run on it starts. The run's calls are `advance` steps,
and `processed` is the rest of processNextWorkItem once the run has returned. -/
def processNextWorkItem (r : ImageReconciler) (c : Ctl) : Option Ctl :=
  match c.queue.get with
  | some (id, q) => (c.sys.step r (.start id)).map fun sys => { c with sys := sys, queue := q }
  | none => none

def step (r : ImageReconciler) (c : Ctl) (a : CtlAction) : Option Ctl :=
  if c.crashed then none else
  match a with
  | .submit id labels image size limits =>
    c.write r (.submit id labels image size limits) .created id
  | .markDeleted id time => c.write r (.markDeleted id time) .deleted id
  | .relabel id labels => c.write r (.relabel id labels) .updated id
  | .respec id image size limits => c.write r (.respec id image size limits) .updated id
  | .purge id => c.write r (.purge id) .deleted id
  | .populate digest size =>
    (c.sys.step r (.populate digest size)).bind fun sys =>
      (sys.world.snapshots digest).map fun snap =>
        { c with sys := sys, pending := c.pending ++ [snap] }
  | .deliver listFails =>
    match c.pending with
    | snap :: rest => some { c with
        queue := snapshotHandler c.queue .updated snap
          (if listFails then none else some c.sys.world.listImages)
        pending := rest }
    | [] => none
  | .deleteSnapshot digest =>
    (c.sys.step r (.deleteSnapshot digest)).map fun sys => { c with sys := sys }
  | .get => c.processNextWorkItem r
  | .advance id choice =>
    match c.sys.runs id, c.sys.step r (.advance id choice) with
    | some pc, some sys =>
      let (q, crashed) := processed c.queue id (pc.step r choice c.sys.world).1
      some ⟨sys, q, c.pending, crashed⟩
    | _, _ => none
  | .fire id => (c.queue.fire id).map fun q => { c with queue := q }

def run (r : ImageReconciler) : Ctl → List CtlAction → Option Ctl
  | c, [] => some c
  | c, a :: rest => (c.step r a).bind fun c' => run r c' rest

def ofTrace (r : ImageReconciler) (env : Env) (acts : List CtlAction) : Ctl :=
  (run r (init env) acts).getD (init env)

end Ctl

inductive Ctl.Reachable (r : ImageReconciler) : Ctl → Prop
  | init (env : Env) : Ctl.Reachable r (Ctl.init env)
  | step {c c' : Ctl} (a : CtlAction) : Ctl.Reachable r c → c.step r a = some c' →
      Ctl.Reachable r c'

namespace Ctl

variable {r : ImageReconciler} {c c' : Ctl} {a : CtlAction}

theorem step_sys (h : c.step r a = some c') :
    c'.sys = c.sys ∨ ∃ a', c.sys.step r a' = some c'.sys := by
  cases crashed : c.crashed
  case true => simp [step, crashed] at h
  cases a <;> simp only [step, write, processNextWorkItem, crashed, Bool.false_eq_true, if_false,
    Option.map_eq_some', Option.bind_eq_some] at h
  case populate => obtain ⟨_, found, _, -, rfl⟩ := h; exact .inr ⟨_, found⟩
  case deliver => split at h <;> cases h; exact .inl rfl
  case get =>
    split at h
    · obtain ⟨_, found, rfl⟩ := Option.map_eq_some'.mp h
      exact .inr ⟨_, found⟩
    · cases h
  case advance => split at h <;> cases h; exact .inr ⟨_, ‹_›⟩
  case fire => obtain ⟨_, -, rfl⟩ := h; exact .inl rfl
  all_goals obtain ⟨_, found, rfl⟩ := h; exact .inr ⟨_, found⟩

theorem Reachable.toSys (reach : Ctl.Reachable r c) : Cephlet.Reachable r anyAction c.sys := by
  induction reach with
  | init env => exact .init env
  | step a _ h reach =>
    rcases step_sys h with same | ⟨a', step⟩
    · exact same ▸ reach
    · exact .step a' reach trivial step

theorem Reachable.run {acts : List CtlAction} (reach : Ctl.Reachable r c)
    (h : Ctl.run r c acts = some c') : Ctl.Reachable r c' := by
  induction acts generalizing c with
  | nil => cases h; exact reach
  | cons a rest ih =>
    obtain ⟨c₁, step, h⟩ := Option.bind_eq_some.mp h
    exact ih (.step a reach step) h

theorem Reachable.ofTrace {env : Env} {acts : List CtlAction}
    (runs : (Ctl.run r (Ctl.init env) acts).isSome) :
    Ctl.Reachable r (Ctl.ofTrace r env acts) := by
  obtain ⟨c, h⟩ := Option.isSome_iff_exists.mp runs
  rw [Ctl.ofTrace, h]
  exact (Reachable.init env).run h

end Ctl

/-! ### One run per ID -/

namespace WorkQueue

variable {q : WorkQueue} {id : String}

theorem Valid.imageHandler (valid : q.Valid) (type : EventType) (id : String) :
    (imageHandler q type id).Valid ∧ (imageHandler q type id).processing = q.processing := by
  unfold Cephlet.imageHandler
  split_ifs
  · exact ⟨valid, rfl⟩
  · exact ⟨valid.add id, add_processing q id⟩

theorem Valid.snapshotHandler (valid : q.Valid) (type : EventType) (snap : Snapshot)
    (listed : Option (List Image)) :
    (snapshotHandler q type snap listed).Valid ∧
      (snapshotHandler q type snap listed).processing = q.processing := by
  unfold Cephlet.snapshotHandler
  split_ifs
  · exact ⟨valid, rfl⟩
  · cases listed with
    | none => exact ⟨valid, rfl⟩
    | some images =>
      induction images generalizing q with
      | nil => exact ⟨valid, rfl⟩
      | cons img rest ih =>
        simp only [List.foldl_cons]
        split_ifs
        · exact (ih (valid.add img.id)).imp id fun same => same.trans (add_processing q img.id)
        · exact ih valid

theorem Valid.processed (valid : q.Valid) (held : id ∈ q.processing) (next : Next) :
    (processed q id next).1.Valid ∧ ∀ x, x ∈ (processed q id next).1.processing ↔
      if x = id then next.run.isSome = true else x ∈ q.processing := by
  have erased : ∀ x, x ∈ q.processing.erase id ↔ if x = id then False else x ∈ q.processing :=
    fun x => by split_ifs with same <;> simp [same, valid.processing_nodup.mem_erase_iff]
  cases next with
  | running pc =>
    exact ⟨valid, fun x => by
      by_cases same : x = id <;> simp [Cephlet.processed, same, held, Next.run]⟩
  | done result =>
    cases result with
    | ok => exact ⟨valid.done held, by simpa [Cephlet.processed, Next.run] using erased⟩
    | error failure =>
      exact ⟨(valid.addRateLimited id).done (by simpa using held),
        by simpa [Cephlet.processed, Next.run] using erased⟩
    | panic => exact ⟨valid.done held, by simpa [Cephlet.processed, Next.run] using erased⟩

end WorkQueue

/-- The controller's bookkeeping: the queue's own, and a run in flight exactly for the
IDs a worker holds. -/
structure Ctl.Inv (c : Ctl) : Prop where
  queue_valid : c.queue.Valid
  in_flight : ∀ id, (c.sys.runs id).isSome ↔ id ∈ c.queue.processing

namespace Ctl

variable {r : ImageReconciler} {c c' : Ctl} {a : CtlAction}

theorem inv_init (env : Env) : (Ctl.init env).Inv :=
  ⟨WorkQueue.valid_empty, fun _ => by simp [Ctl.init, Sys.init, WorkQueue.empty]⟩

theorem Inv.keep (inv : c.Inv) {sys : Sys} {q : WorkQueue} {pending : List Snapshot}
    {crashed : Bool} (runs : sys.runs = c.sys.runs) (valid : q.Valid)
    (processing : q.processing = c.queue.processing) :
    Ctl.Inv ⟨sys, q, pending, crashed⟩ :=
  ⟨valid, fun id => by simpa only [runs, processing] using inv.in_flight id⟩

theorem Inv.update (inv : c.Inv) {sys : Sys} {q : WorkQueue} {pending : List Snapshot}
    {crashed : Bool} {id : String} {run : Option Pc}
    (runs : sys.runs = Function.update c.sys.runs id run) (valid : q.Valid)
    (processing : ∀ x, x ∈ q.processing ↔
      if x = id then run.isSome = true else x ∈ c.queue.processing) :
    Ctl.Inv ⟨sys, q, pending, crashed⟩ := by
  refine ⟨valid, fun x => ?_⟩
  rw [processing x, runs]
  by_cases same : x = id
  · subst same
    simp
  · simpa [same] using inv.in_flight x

theorem Inv.step (inv : c.Inv) (h : c.step r a = some c') : c'.Inv := by
  have valid := inv.queue_valid
  cases crashed : c.crashed
  case true => simp [Ctl.step, crashed] at h
  cases a with
  | submit | markDeleted | relabel | respec | purge =>
    simp only [Ctl.step, crashed, Bool.false_eq_true, if_false, Ctl.write,
      Option.map_eq_some'] at h
    obtain ⟨sys, step, rfl⟩ := h
    obtain ⟨valid', processing⟩ := valid.imageHandler _ _
    exact inv.keep (Sys.step_runs_of_world step rfl) valid' processing
  | populate digest size =>
    simp only [Ctl.step, crashed, Bool.false_eq_true, if_false, Option.bind_eq_some,
      Option.map_eq_some'] at h
    obtain ⟨sys, step, _, -, rfl⟩ := h
    exact inv.keep (Sys.step_runs_of_world step rfl) valid rfl
  | deliver listFails =>
    simp only [Ctl.step, crashed, Bool.false_eq_true, if_false] at h
    split at h
    · cases h
      exact inv.keep rfl (valid.snapshotHandler _ _ _).1 (valid.snapshotHandler _ _ _).2
    · cases h
  | deleteSnapshot digest =>
    simp only [Ctl.step, crashed, Bool.false_eq_true, if_false, Option.map_eq_some'] at h
    obtain ⟨sys, step, rfl⟩ := h
    exact inv.keep (Sys.step_runs_of_world step rfl) valid rfl
  | get =>
    simp only [Ctl.step, processNextWorkItem, crashed, Bool.false_eq_true, if_false] at h
    split at h
    · rename_i id q got
      obtain ⟨sys, step, rfl⟩ := Option.map_eq_some'.mp h
      obtain ⟨valid', -, processing⟩ := valid.get got
      exact inv.update (Sys.step_start_runs step).2 valid' fun x => by
        by_cases same : x = id <;> simp [processing, same]
    · cases h
  | advance id choice =>
    simp only [Ctl.step, crashed, Bool.false_eq_true, if_false] at h
    split at h
    · rename_i pc sys found step
      cases h
      obtain ⟨pc', found', runs⟩ := Sys.step_advance_runs step
      rw [found, Option.some.injEq] at found'
      subst found'
      have held := (inv.in_flight id).mp (by simp [found])
      obtain ⟨valid', processing⟩ := valid.processed held (pc.step r choice c.sys.world).1
      exact inv.update runs valid' processing
    · cases h
  | fire id =>
    simp only [Ctl.step, crashed, Bool.false_eq_true, if_false, Option.map_eq_some'] at h
    obtain ⟨q, fired, rfl⟩ := h
    obtain ⟨valid', processing⟩ := valid.fire fired
    exact inv.keep rfl valid' processing

theorem Reachable.inv (reach : Ctl.Reachable r c) : c.Inv := by
  induction reach with
  | init env => exact inv_init env
  | step a _ h inv => exact inv.step h

theorem Inv.get_starts (inv : c.Inv) (alive : c.crashed = false) (queued : c.queue.queue ≠ []) :
    (c.step r .get).isSome := by
  obtain ⟨id, rest, queue⟩ := List.exists_cons_of_ne_nil queued
  have idle : c.sys.runs id = none := Option.not_isSome_iff_eq_none.mp fun running =>
    inv.queue_valid.queued_idle id (by simp [queue]) ((inv.in_flight id).mp running)
  simp [Ctl.step, processNextWorkItem, alive, WorkQueue.get, queue, Sys.step, idle]

/-- The work queue serialises the runs of an image: an ID is queued at most once, a run
is in flight exactly for the IDs the workers hold, and a worker's Get always starts a run. -/
theorem one_run_per_image (reach : Ctl.Reachable r c) :
    c.queue.queue.Nodup ∧ (∀ id, (c.sys.runs id).isSome ↔ id ∈ c.queue.processing) ∧
      (c.crashed = false → c.queue.queue ≠ [] → (c.step r .get).isSome) :=
  let inv := reach.inv
  ⟨inv.queue_valid.queue_nodup, inv.in_flight, inv.get_starts⟩

end Ctl

/-- Two images submitted, and the first handed to a worker. -/
def twoSubmitted : List CtlAction :=
  [.submit "a" [] "" 10 noLimits, .submit "b" [] "repo" 10 noLimits, .get]

theorem one_run_per_image_sample :
    let c := Ctl.ofTrace sampleReconciler sampleEnv twoSubmitted
    c.queue.queue.Nodup ∧ (∀ id, (c.sys.runs id).isSome ↔ id ∈ c.queue.processing) ∧
      (c.crashed = false → c.queue.queue ≠ [] → (c.step sampleReconciler .get).isSome) :=
  Ctl.one_run_per_image (Ctl.Reachable.ofTrace (by decide))

/-- Image `id` is live, not Available, and its snapshot reference names a Populated
snapshot. -/
def Awaits (w : World) (id : String) : Prop :=
  ∃ img, w.images id = some img ∧ img.deletedAt = none ∧ img.status.state ≠ .available ∧
    (img.spec.snapshotRef.bind w.snapshots).map Snapshot.state = some .populated

/-- Something will reconcile `id`: it is queued, in flight, or parked for a retry. -/
def Ctl.Scheduled (c : Ctl) (id : String) : Prop :=
  id ∈ c.queue.queue ∨ id ∈ c.queue.processing ∨ id ∈ c.queue.waiting

instance (c : Ctl) (id : String) : Decidable (c.Scheduled id) :=
  inferInstanceAs (Decidable (_ ∨ _ ∨ _))

/-- An image whose run found its snapshot Pending, and whose snapshot was then
populated; the snapshot handler's images.List failed on its notification. -/
def wakeupLost : List CtlAction :=
  [.submit "a" [] "repo" 10 noLimits, .get] ++ List.replicate 9 (.advance "a" ⟨false, "wwn"⟩) ++
    [.populate "d" 10, .deliver true]

theorem populated_snapshot_wakeup_lost :
    Ctl.Reachable sampleReconciler (Ctl.ofTrace sampleReconciler sampleEnv wakeupLost) ∧
      Awaits (Ctl.ofTrace sampleReconciler sampleEnv wakeupLost).sys.world "a" ∧
      ¬ (Ctl.ofTrace sampleReconciler sampleEnv wakeupLost).Scheduled "a" ∧
      (Ctl.ofTrace sampleReconciler sampleEnv wakeupLost).pending = [] :=
  ⟨Ctl.Reachable.ofTrace (by decide),
    ⟨⟨"a", [], [imageFinalizer], none, ⟨"repo", some "d", 10, noLimits⟩, ⟨.pending, none⟩, 2⟩,
      by decide, rfl, by decide, by decide⟩,
    by decide, by decide⟩

end Cephlet
