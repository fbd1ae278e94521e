import Cephlet.Controller.Start
import Cephlet.System.Safety

/-! No image owed a run is forgotten while images.List succeeds and no snapshot is
deleted.

An image needs another run of reconcileImage while it is live and not
Available, or marked deleted with the finalizer still on it. The controller
owes it one while its ID is scheduled: queued, held by a worker, or parked for
a retry; the queue keeps every dirty ID queued or held, so an Add that finds
its ID dirty loses nothing. An image the controller does not schedule is
settled: it needs no run, or it references a stored snapshot that is not
Populated yet, or whose Populated notification the informer has still to
deliver; on that delivery the snapshot handler (lines 154-170) lists the images
and queues each one that references it. A run that fetched its image before the
submitter marked it deleted cannot write its stale copy back, and may return
nil without deleting it; the Deleted notification marked the ID dirty
meanwhile, so Done queues it again. Every state reached through actions whose
images.List succeeds, and which delete no snapshot, keeps each image scheduled
or settled. A List that fails drops the notification, and with it the image; a
deleted snapshot strands every image that references it.
-/

set_option autoImplicit false

namespace Cephlet

/-! ### What the queue owes -/

namespace WorkQueue

def Scheduled (q : WorkQueue) (id : String) : Prop :=
  id ∈ q.queue ∨ id ∈ q.processing ∨ id ∈ q.waiting

def Covered (q : WorkQueue) : Prop :=
  ∀ id ∈ q.dirty, id ∈ q.queue ∨ id ∈ q.processing

variable {q q' : WorkQueue} {id : String}

theorem Covered.add (covered : q.Covered) (id : String) :
    (q.add id).Covered ∧ ∀ x, q.Scheduled x ∨ x = id → (q.add id).Scheduled x := by
  unfold WorkQueue.add
  split_ifs with dirty processing
  · refine ⟨covered, fun x => ?_⟩
    rintro (scheduled | rfl)
    · exact scheduled
    · exact (covered x dirty).elim .inl (.inr ∘ .inl)
  · refine ⟨fun x mem => ?_, fun x => ?_⟩
    · rcases List.mem_append.mp mem with old | new
      · exact covered x old
      · exact .inr (List.mem_singleton.mp new ▸ processing)
    · rintro (scheduled | rfl)
      · exact scheduled
      · exact .inr (.inl processing)
  · refine ⟨fun x mem => ?_, fun x => ?_⟩
    · rcases List.mem_append.mp mem with old | new
      · exact (covered x old).imp_left (List.mem_append_left _)
      · exact .inl (List.mem_append_right _ new)
    · rintro ((queued | held | parked) | rfl)
      · exact .inl (List.mem_append_left _ queued)
      · exact .inr (.inl held)
      · exact .inr (.inr parked)
      · exact .inl (List.mem_append_right _ (List.mem_singleton_self _))

theorem Covered.get (covered : q.Covered) (h : q.get = some (id, q')) :
    q'.Covered ∧ ∀ x, q.Scheduled x → q'.Scheduled x := by
  unfold WorkQueue.get at h
  split at h
  · cases h
  · rename_i first rest queued
    obtain ⟨rfl, rfl⟩ := Prod.mk.inj (Option.some.inj h)
    have moved : ∀ x ∈ q.queue, x ∈ rest ∨ x ∈ q.processing ++ [first] := fun x mem => by
      rw [queued] at mem
      rcases List.mem_cons.mp mem with rfl | later
      · exact .inr (List.mem_append_right _ (List.mem_singleton_self _))
      · exact .inl later
    refine ⟨fun x mem => ?_, fun x => ?_⟩
    · rcases covered x (List.mem_of_mem_erase mem) with queued' | held
      · exact moved x queued'
      · exact .inr (List.mem_append_left _ held)
    · rintro (queued' | held | parked)
      · exact (moved x queued').elim .inl (.inr ∘ .inl)
      · exact .inr (.inl (List.mem_append_left _ held))
      · exact .inr (.inr parked)

@[simp] theorem done_waiting (q : WorkQueue) (id : String) : (q.done id).waiting = q.waiting := by
  unfold done; split_ifs <;> rfl

@[simp] theorem done_dirty (q : WorkQueue) (id : String) : (q.done id).dirty = q.dirty := by
  unfold done; split_ifs <;> rfl

theorem Covered.done (covered : q.Covered) (id : String) :
    (q.done id).Covered ∧ ∀ x, x ≠ id → q.Scheduled x → (q.done id).Scheduled x := by
  have queued : ∀ x ∈ q.queue, x ∈ (q.done id).queue := fun x mem => by
    unfold WorkQueue.done; split_ifs
    · exact List.mem_append_left _ mem
    · exact mem
  have held : ∀ x ∈ q.processing, x ≠ id → x ∈ (q.done id).processing := fun x mem ne => by
    rw [done_processing]; exact (List.mem_erase_of_ne ne).mpr mem
  refine ⟨fun x mem => ?_, fun x ne => ?_⟩
  · rw [done_dirty] at mem
    by_cases same : x = id
    · subst same
      unfold WorkQueue.done
      simp [mem]
    · exact (covered x mem).imp (queued x) (held x · same)
  · rintro (queued' | held' | parked)
    · exact .inl (queued x queued')
    · exact .inr (.inl (held x held' ne))
    · exact .inr (.inr (by simpa using parked))

theorem mem_addRateLimited_waiting (q : WorkQueue) (id : String) :
    id ∈ (q.addRateLimited id).waiting := by
  unfold addRateLimited
  split_ifs with parked
  · exact parked
  · exact List.mem_append_right _ (List.mem_singleton_self _)

theorem Covered.addRateLimited (covered : q.Covered) (id : String) :
    (q.addRateLimited id).Covered ∧
      ∀ x, q.Scheduled x ∨ x = id → (q.addRateLimited id).Scheduled x := by
  unfold WorkQueue.addRateLimited
  split_ifs with parked
  · refine ⟨covered, fun x => ?_⟩
    rintro (scheduled | rfl)
    · exact scheduled
    · exact .inr (.inr parked)
  · refine ⟨covered, fun x => ?_⟩
    rintro ((queued | held | parked') | rfl)
    · exact .inl queued
    · exact .inr (.inl held)
    · exact .inr (.inr (List.mem_append_left _ parked'))
    · exact .inr (.inr (List.mem_append_right _ (List.mem_singleton_self _)))

theorem Covered.fire (covered : q.Covered) (h : q.fire id = some q') :
    q'.Covered ∧ ∀ x, q.Scheduled x → q'.Scheduled x := by
  unfold WorkQueue.fire at h
  split_ifs at h
  cases h
  have unparked : ({ q with waiting := q.waiting.erase id } : WorkQueue).Covered := covered
  refine ⟨(unparked.add id).1, fun x before => (unparked.add id).2 x ?_⟩
  by_cases same : x = id
  · exact .inr same
  · rcases before with queued | held | parked
    · exact .inl (.inl queued)
    · exact .inl (.inr (.inl held))
    · exact .inl (.inr (.inr ((List.mem_erase_of_ne same).mpr parked)))

/-! The dirty IDs: every Add marks its ID, and only Get clears the mark of the ID it
hands out. -/

@[simp] theorem mem_add_dirty {x : String} : x ∈ (q.add id).dirty ↔ x ∈ q.dirty ∨ x = id := by
  unfold WorkQueue.add
  split_ifs with dirty
  · exact ⟨.inl, fun h => h.elim (fun mem => mem) fun same => same ▸ dirty⟩
  all_goals simp

theorem dirty_get (h : q.get = some (id, q')) {x : String} (other : x ≠ id) (mem : x ∈ q.dirty) :
    x ∈ q'.dirty := by
  unfold WorkQueue.get at h
  split at h
  · cases h
  · obtain ⟨rfl, rfl⟩ := Prod.mk.inj (Option.some.inj h)
    exact (List.mem_erase_of_ne other).mpr mem

@[simp] theorem addRateLimited_dirty (q : WorkQueue) (id : String) :
    (q.addRateLimited id).dirty = q.dirty := by
  unfold addRateLimited; split_ifs <;> rfl

theorem dirty_fire (h : q.fire id = some q') {x : String} (mem : x ∈ q.dirty) : x ∈ q'.dirty := by
  unfold WorkQueue.fire at h
  split_ifs at h
  cases h
  exact mem_add_dirty.mpr (.inl mem)

theorem mem_done_queue (dirty : id ∈ q.dirty) : id ∈ (q.done id).queue := by
  unfold WorkQueue.done
  simp [dirty]

end WorkQueue

section
variable {q : WorkQueue} {id : String}

theorem dirty_imageHandler {x : String} (type : EventType) (id : String) (mem : x ∈ q.dirty) :
    x ∈ (imageHandler q type id).dirty := by
  unfold imageHandler
  split_ifs
  · exact mem
  · exact WorkQueue.mem_add_dirty.mpr (.inl mem)

theorem mem_imageHandler_dirty {type : EventType} (notified : type ≠ .updated) (id : String) :
    id ∈ (imageHandler q type id).dirty := by
  simp [imageHandler, notified]

theorem dirty_snapshotHandler {x : String} (type : EventType) (snap : Snapshot)
    (listed : Option (List Image)) (mem : x ∈ q.dirty) :
    x ∈ (snapshotHandler q type snap listed).dirty := by
  unfold snapshotHandler
  split_ifs
  · exact mem
  · cases listed with
    | none => exact mem
    | some images =>
      induction images generalizing q with
      | nil => exact mem
      | cons img rest ih =>
        simp only [List.foldl_cons]
        split_ifs
        · exact ih (WorkQueue.mem_add_dirty.mpr (.inl mem))
        · exact ih mem

@[simp] theorem dirty_processed (q : WorkQueue) (id : String) (next : Next) :
    (processed q id next).1.dirty = q.dirty := by
  cases next with
  | running => rfl
  | done result => cases result <;> simp [processed]

theorem WorkQueue.Covered.imageHandler (covered : q.Covered) (type : EventType) (id : String) :
    (imageHandler q type id).Covered ∧
      ∀ x, q.Scheduled x ∨ (x = id ∧ type ≠ .updated) → (imageHandler q type id).Scheduled x := by
  unfold Cephlet.imageHandler
  split_ifs with updated
  · refine ⟨covered, fun x => ?_⟩
    rintro (scheduled | ⟨-, other⟩)
    · exact scheduled
    · exact absurd updated other
  · exact ⟨(covered.add id).1, fun x h => (covered.add id).2 x (h.imp_right And.left)⟩

theorem WorkQueue.Covered.snapshotHandler (covered : q.Covered) (snap : Snapshot)
    (images : List Image) :
    (snapshotHandler q .updated snap (some images)).Covered ∧
      ∀ x, q.Scheduled x ∨ (snap.state = .populated ∧
          ∃ img ∈ images, img.spec.snapshotRef = some snap.id ∧ img.id = x) →
        (snapshotHandler q .updated snap (some images)).Scheduled x := by
  by_cases populated : snap.state = .populated
  case neg =>
    simp only [Cephlet.snapshotHandler, populated, ne_eq, not_false_eq_true, or_true, if_true]
    exact ⟨covered, fun x h => by simpa [populated] using h⟩
  simp only [Cephlet.snapshotHandler, populated, ne_eq, not_true_eq_false, or_self, if_false,
    true_and]
  induction images generalizing q with
  | nil => exact ⟨covered, fun x h => h.resolve_right (by simp)⟩
  | cons img rest ih =>
    simp only [List.foldl_cons]
    split_ifs with refers
    · obtain ⟨covered', added⟩ := covered.add img.id
      refine ⟨(ih covered').1, fun x h => (ih covered').2 x ?_⟩
      rcases h with scheduled | ⟨img', mem, refers', rfl⟩
      · exact .inl (added _ (.inl scheduled))
      · rcases List.mem_cons.mp mem with rfl | later
        · exact .inl (added _ (.inr rfl))
        · exact .inr ⟨img', later, refers', rfl⟩
    · refine ⟨(ih covered).1, fun x h => (ih covered).2 x ?_⟩
      rcases h with scheduled | ⟨img', mem, refers', rfl⟩
      · exact .inl scheduled
      · rcases List.mem_cons.mp mem with rfl | later
        · exact absurd refers' refers
        · exact .inr ⟨img', later, refers', rfl⟩

/-- processNextWorkItem's bookkeeping keeps every other ID scheduled, and the worker's
own while its run goes on, after it returned an error, or when it was added meanwhile. -/
theorem WorkQueue.Covered.processed (covered : q.Covered) (held : id ∈ q.processing)
    (next : Next) :
    (processed q id next).1.Covered ∧
      (∀ x, x ≠ id → q.Scheduled x → (processed q id next).1.Scheduled x) ∧
      ((∀ result, next = .done result → ∃ failure, result = .error failure) ∨ id ∈ q.dirty →
        (processed q id next).1.Scheduled id) := by
  cases next with
  | running pc => exact ⟨covered, fun _ _ scheduled => scheduled, fun _ => .inr (.inl held)⟩
  | done result =>
    cases result with
    | ok =>
      refine ⟨(covered.done id).1, (covered.done id).2, fun owed => .inl ?_⟩
      rcases owed with ended | dirty
      · obtain ⟨_, ⟨⟩⟩ := ended .ok rfl
      · exact WorkQueue.mem_done_queue dirty
    | panic =>
      refine ⟨(covered.done id).1, (covered.done id).2, fun owed => .inl ?_⟩
      rcases owed with ended | dirty
      · obtain ⟨_, ⟨⟩⟩ := ended .panic rfl
      · exact WorkQueue.mem_done_queue dirty
    | error failure =>
      obtain ⟨parkedCovered, parked⟩ := covered.addRateLimited id
      refine ⟨(parkedCovered.done id).1, fun x ne scheduled =>
        (parkedCovered.done id).2 x ne (parked x (.inl scheduled)), fun _ => .inr (.inr ?_)⟩
      simp only [Cephlet.processed, WorkQueue.done_waiting]
      exact WorkQueue.mem_addRateLimited_waiting q id

end


/-! ### Snapshots and the references to them -/

def SnapshotsKeyed (w : World) : Prop :=
  ∀ key snap, w.snapshots key = some snap → snap.id = key

/-- Image `i` references the snapshot `ref`: its stored object records it, or its run's
copy holds it. -/
def Sys.Refers (s : Sys) (i ref : String) : Prop :=
  (∃ img, s.world.images i = some img ∧ img.spec.snapshotRef = some ref) ∨
    ∃ pc c, s.runs i = some pc ∧ pc.copy = some c ∧ c.spec.snapshotRef = some ref

/-- Every snapshot an image references is stored. -/
def Sys.RefsStored (s : Sys) : Prop :=
  ∀ i ref, s.Refers i ref → (s.world.snapshots ref).isSome

namespace Sys

variable {r : ImageReconciler} {s s' : Sys} {a : Action}

theorem step_snapshot (h : s.step r a = some s') {key : String} {snap : Snapshot}
    (found : s'.world.snapshots key = some snap) :
    s.world.snapshots key = some snap ∨ (snap.id = key ∧ snap.state = .pending) ∨
      ∃ size old, a = .populate key size ∧ s.world.snapshots key = some old ∧
        snap = { old with state := .populated } := by
  cases a with
  | advance id choice =>
    obtain ⟨pc, -, rfl⟩ := Option.map_eq_some'.mp h
    have touched := Pc.step_touches r choice s.world pc
    generalize (pc.step r choice s.world).2 = w' at touched found
    cases touched with
    | snapshot created pending =>
      by_cases same : key = created.id
      · subst same
        simp only [Function.update_same, Option.some.injEq] at found
        subst found
        exact .inr (.inl ⟨rfl, pending⟩)
      · exact .inl (by simpa [Function.update_noteq same] using found)
    | _ => exact .inl (by simpa using found)
  | populate digest size =>
    simp only [step] at h
    split at h
    · rename_i old stored
      split_ifs at h
      cases h
      by_cases same : key = digest
      · subst same
        simp only [World.populate, World.setSnapshot, World.putVolume_snapshots,
          Function.update_same, Option.some.injEq] at found
        exact .inr (.inr ⟨size, old, rfl, stored, found.symm⟩)
      · exact .inl (by simpa [World.populate, World.setSnapshot, Function.update_noteq same]
          using found)
    · cases h
  | deleteSnapshot digest =>
    obtain ⟨_, -, rfl⟩ := Option.map_eq_some'.mp h
    by_cases same : key = digest
    · subst same
      simp [World.setSnapshot] at found
    · exact .inl (by simpa [World.setSnapshot, Function.update_noteq same] using found)
  | _ =>
    left
    simp only [step, editImage, setRun] at h
    (repeat' split at h) <;> (try simp only [Option.map_eq_some', Option.some.injEq] at h) <;>
      (try obtain ⟨_, _, rfl⟩ := h)
    all_goals simpa [World.submit] using found

theorem step_keyed (h : s.step r a = some s') (keyed : SnapshotsKeyed s.world) :
    SnapshotsKeyed s'.world := fun key snap found => by
  rcases step_snapshot h found with kept | ⟨id_eq, -⟩ | ⟨_, old, -, stored, rfl⟩
  · exact keyed key snap kept
  · exact id_eq
  · exact keyed key old stored

theorem step_populated (h : s.step r a = some s') {key : String}
    (populated : (s'.world.snapshots key).map Snapshot.state = some .populated) :
    (s.world.snapshots key).map Snapshot.state = some .populated ∨
      ∃ size, a = .populate key size := by
  obtain ⟨snap, found, state⟩ := Option.map_eq_some'.mp populated
  rcases step_snapshot h found with kept | ⟨-, pending⟩ | ⟨size, -, rfl, -, -⟩
  · exact .inl (by rw [kept]; exact congrArg some state)
  · exact absurd (pending.symm.trans state) (by decide)
  · exact .inr ⟨size, rfl⟩

theorem step_snapshot_isSome (h : s.step r a = some s') (notDelete : ∀ d, a ≠ .deleteSnapshot d)
    {key : String} (stored : (s.world.snapshots key).isSome) :
    (s'.world.snapshots key).isSome := by
  cases a with
  | advance id choice =>
    obtain ⟨pc, -, rfl⟩ := Option.map_eq_some'.mp h
    have touched := Pc.step_touches r choice s.world pc
    generalize (pc.step r choice s.world).2 = w' at touched
    cases touched with
    | snapshot created _ =>
      by_cases same : key = created.id
      · subst same
        simp
      · simpa [Function.update_noteq same] using stored
    | _ => simpa using stored
  | populate digest size =>
    simp only [step] at h
    split at h
    · split_ifs at h
      cases h
      by_cases same : key = digest
      · simp [same, World.populate, World.setSnapshot]
      · simpa [World.populate, World.setSnapshot, Function.update_noteq same] using stored
    · cases h
  | deleteSnapshot digest => exact absurd rfl (notDelete digest)
  | _ =>
    simp only [step, editImage, setRun] at h
    (repeat' split at h) <;> (try simp only [Option.map_eq_some', Option.some.injEq] at h) <;>
      (try obtain ⟨_, _, rfl⟩ := h)
    all_goals simpa [World.submit] using stored

/-- A step makes an image reference a snapshot only by naming one stored after it. -/
theorem step_refers (inv : SysInv r False s) (h : s.step r a = some s') {i ref : String}
    (refers : s'.Refers i ref) :
    s.Refers i ref ∨ ∃ key snap, s'.world.snapshots key = some snap ∧ snap.id = ref := by
  by_cases target : a.target = some i
  case neg =>
    have same := step_view_of_ne h inv.owned target
    have image : s'.world.images i = s.world.images i := congrArg View.image same
    have run : s'.runs i = s.runs i := congrArg View.run same
    simp only [Refers, image, run] at refers
    exact .inl refers
  cases a with
  | advance x choice =>
    obtain rfl : x = i := by simpa [Action.target] using target
    obtain ⟨pc, running, rfl⟩ := Option.map_eq_some'.mp h
    have owned := inv.owned _ pc running
    rcases refers with ⟨img, found, hasRef⟩ | ⟨pc', c', found', copy', hasRef⟩
    · -- the stored image: as it was, or the run's copy written
      have touched := Pc.step_touches r choice s.world pc
      generalize (pc.step r choice s.world).2 = w' at touched found
      cases touched with
      | image c copy _ =>
        rw [World.putImage_images, Image.written_id, ← Pc.id_of_copy copy, owned,
          Function.update_same, Option.some.injEq] at found
        subst found
        exact .inl (.inr ⟨pc, c, running, copy, hasRef⟩)
      | _ => exact .inl (.inl ⟨img, by simpa using found, hasRef⟩)
    · have next : (pc.step r choice s.world).1 = .running pc' := by
        revert found'
        simp only [Function.update_same]
        cases (pc.step r choice s.world).1 <;> simp [Next.run]
      rcases Pc.step_copy_ref next copy' with ⟨y, img, rfl, found, same⟩ | ⟨c, copy, same⟩ |
        ⟨key, snap, stored, same⟩
      · obtain rfl : y = x := owned
        exact .inl (.inl ⟨img, found, same ▸ hasRef⟩)
      · exact .inl (.inr ⟨pc, c, running, copy, same ▸ hasRef⟩)
      · exact .inr ⟨key, snap, stored, Option.some.inj (same.symm.trans hasRef)⟩
  | markDeleted x _ | relabel x _ | respec x _ _ _ =>
    obtain rfl : x = i := by simpa [Action.target] using target
    obtain ⟨old, new, stored, rfl, edit⟩ := step_edit h rfl
    refine .inl (refers.imp (fun ⟨img, found, hasRef⟩ => ⟨old, stored, ?_⟩) fun held => held)
    simp only [World.setImage_images, Function.update_same, Option.some.injEq] at found
    subst found
    rw [← edit.snapshotRef_eq]
    exact hasRef
  | start x =>
    -- the new run holds no copy
    obtain rfl : x = i := by simpa [Action.target] using target
    simp only [step, setRun] at h
    split at h <;> cases h
    refine .inl (refers.imp (fun stored => stored) fun ⟨pc, c, found, copy, _⟩ => ?_)
    simp only [Function.update_same, Option.some.injEq] at found
    simp [← found, Pc.copy] at copy
  | stop x =>
    obtain rfl : x = i := by simpa [Action.target] using target
    obtain ⟨_, _, rfl⟩ := Option.map_eq_some'.mp h
    refine .inl (refers.imp (fun stored => stored) fun ⟨pc, c, found, _⟩ => ?_)
    simp [setRun] at found
  | submit x labels image size limits =>
    -- the new image references nothing
    obtain rfl : x = i := by simpa [Action.target] using target
    simp only [step] at h
    split at h <;> cases h
    refine .inl (refers.imp (fun ⟨img, found, hasRef⟩ => ?_) fun held => held)
    simp only [World.submit, World.setImage_images, submittedImage, Function.update_same,
      Option.some.injEq] at found
    subst found
    simp at hasRef
  | purge x =>
    obtain rfl : x = i := by simpa [Action.target] using target
    simp only [step] at h
    split at h
    · split_ifs at h
      cases h
      refine .inl (refers.imp (fun ⟨img, found, _⟩ => ?_) fun held => held)
      simp at found
    · cases h
  | populate | deleteSnapshot => simp [Action.target] at target

theorem RefsStored.step (refs : s.RefsStored) (inv : SysInv r False s)
    (h : s.step r a = some s') (keyed : SnapshotsKeyed s.world)
    (notDelete : ∀ d, a ≠ .deleteSnapshot d) : s'.RefsStored := fun i ref refers => by
  rcases step_refers inv h refers with before | ⟨key, snap, stored, rfl⟩
  · exact step_snapshot_isSome h notDelete (refs i ref before)
  · rw [step_keyed h keyed key snap stored, stored]
    rfl

theorem step_populate {digest : String} {size : Nat}
    (h : s.step r (.populate digest size) = some s') :
    ∃ snap, s.world.snapshots digest = some snap ∧
      s' = { s with world := s.world.populate r.naming digest snap size } := by
  simp only [step] at h
  split at h
  · split_ifs at h
    cases h
    exact ⟨_, ‹_›, rfl⟩
  · cases h

end Sys

/-! ### Settled images -/

/-- The snapshot `ref` is stored, and the snapshot handler has still to hear of its
population: it is not Populated, or its Populated notification is still to be delivered. -/
def Waiting (w : World) (pending : List Snapshot) (ref : String) : Prop :=
  ∃ snap, w.snapshots ref = some snap ∧
    (snap.state ≠ .populated ∨ ∃ event ∈ pending, event.id = ref ∧ event.state = .populated)

/-- Image `id` is owed no run: it is gone, marked deleted with its finalizer released,
Available, or it references a waiting snapshot, whose notification will queue it. -/
def Settled (w : World) (pending : List Snapshot) (id : String) : Prop :=
  ∀ img, w.images id = some img →
    (img.deletedAt.isSome → imageFinalizer ∉ img.finalizers) ∧
    (img.deletedAt = none → img.status.state ≠ .available →
      ∃ ref, img.spec.snapshotRef = some ref ∧ Waiting w pending ref)

section
variable {r : ImageReconciler} {s s' : Sys} {a : Action} {w w' : World}
  {pending pending' : List Snapshot} {ref : String}

theorem Waiting.step (h : s.step r a = some s') (notPopulate : ∀ key size, a ≠ .populate key size)
    (notDelete : ∀ d, a ≠ .deleteSnapshot d) (waiting : Waiting s.world pending ref) :
    Waiting s'.world pending ref := by
  obtain ⟨snap, stored, heard⟩ := waiting
  obtain ⟨snap', stored'⟩ :=
    Option.isSome_iff_exists.mp
      (Sys.step_snapshot_isSome h notDelete (show (s.world.snapshots ref).isSome by simp [stored]))
  refine ⟨snap', stored', heard.imp_left fun waiting populated => ?_⟩
  rcases Sys.step_populated h (show (s'.world.snapshots ref).map Snapshot.state = some .populated
      by simp [stored', populated]) with before | ⟨size, same⟩
  · exact waiting (by simpa [stored] using before)
  · exact notPopulate ref size same

theorem Waiting.tail {event : Snapshot} (waiting : Waiting w (event :: pending) ref)
    (other : event.id = ref → event.state ≠ .populated) : Waiting w pending ref := by
  obtain ⟨snap, stored, heard⟩ := waiting
  refine ⟨snap, stored, heard.imp_right fun ⟨event', mem, named, populated⟩ => ?_⟩
  rcases List.mem_cons.mp mem with rfl | later
  · exact absurd populated (other named)
  · exact ⟨event', later, named, populated⟩

namespace Settled

variable {id : String}

theorem mono (settled : Settled w pending id)
    (image : ∀ img, w'.images id = some img → ∃ old, w.images id = some old ∧
      old.deletedAt = img.deletedAt ∧ old.finalizers = img.finalizers ∧ old.status = img.status ∧
      old.spec.snapshotRef = img.spec.snapshotRef)
    (waiting : ∀ ref, Waiting w pending ref → Waiting w' pending' ref) :
    Settled w' pending' id := by
  intro img found
  obtain ⟨old, found', deleted, finalizers, status, sameRef⟩ := image img found
  obtain ⟨released, owed⟩ := settled old found'
  refine ⟨fun doomed => finalizers ▸ released (deleted ▸ doomed), fun live pending => ?_⟩
  obtain ⟨ref, hasRef, waiting'⟩ := owed (deleted ▸ live) (status ▸ pending)
  exact ⟨ref, sameRef ▸ hasRef, waiting ref waiting'⟩

variable {x : String}

/-- A step keeps an image settled unless it submits the image or marks it deleted (both
notify the image handler), populates or deletes a snapshot, or is a step of the image's
own run. -/
theorem step (inv : SysInv r False s) (h : s.step r a = some s')
    (settled : Settled s.world pending x)
    (notPopulate : ∀ key size, a ≠ .populate key size) (notDelete : ∀ d, a ≠ .deleteSnapshot d)
    (notSubmit : ∀ labels image size limits, a ≠ .submit x labels image size limits)
    (notMark : ∀ time, a ≠ .markDeleted x time)
    (notAdvance : ∀ choice, a ≠ .advance x choice) : Settled s'.world pending x := by
  refine settled.mono (fun img found => ?_) fun _ => Waiting.step h notPopulate notDelete
  by_cases target : a.target = some x
  · cases a with
    | advance id choice =>
      obtain rfl : id = x := by simpa [Action.target] using target
      exact absurd rfl (notAdvance choice)
    | submit id labels image size limits =>
      obtain rfl : id = x := by simpa [Action.target] using target
      exact absurd rfl (notSubmit labels image size limits)
    | markDeleted id time =>
      obtain rfl : id = x := by simpa [Action.target] using target
      exact absurd rfl (notMark time)
    | populate | deleteSnapshot => simp [Action.target] at target
    | start id | stop id | relabel id _ | respec id _ _ _ | purge id =>
      obtain rfl : id = x := by simpa [Action.target] using target
      simp only [Sys.step, Sys.editImage, Sys.setRun] at h
      (repeat' split at h) <;> (try simp only [Option.map_eq_some', Option.some.injEq] at h) <;>
        (try obtain ⟨_, _, rfl⟩ := h)
      all_goals
        (try simp only [World.setImage_images, Function.update_same, Option.some.injEq] at found)
        (try subst found)
        simp_all
  · have same : s'.world.images x = s.world.images x :=
      congrArg View.image (Sys.step_view_of_ne h inv.owned target)
    exact ⟨img, same ▸ found, rfl, rfl, rfl, rfl⟩

theorem populate (keyed : SnapshotsKeyed s.world) {digest : String} {size : Nat}
    (h : s.step r (.populate digest size) = some s') {event : Snapshot}
    (notified : s'.world.snapshots digest = some event) (settled : Settled s.world pending x) :
    Settled s'.world (pending ++ [event]) x := by
  obtain ⟨snap, stored, rfl⟩ := Sys.step_populate h
  refine settled.mono (fun img found => ⟨img, found, rfl, rfl, rfl, rfl⟩) fun ref waiting => ?_
  by_cases same : ref = digest
  · -- the snapshot's own notification is now pending
    subst same
    simp only [World.populate_snapshots, Function.update_same, Option.some.injEq] at notified
    subst notified
    exact ⟨{ snap with state := .populated }, by simp,
      .inr ⟨{ snap with state := .populated }, by simp, keyed ref snap stored, rfl⟩⟩
  · obtain ⟨snap', stored', heard⟩ := waiting
    exact ⟨snap', by simpa [Function.update_noteq same] using stored',
      heard.imp_right fun ⟨event', mem, named, populated⟩ =>
        ⟨event', List.mem_append_left _ mem, named, populated⟩⟩

theorem deliver {event : Snapshot} (settled : Settled w (event :: pending) x) :
    Settled w pending x ∨ event.state = .populated ∧
      ∃ img, w.images x = some img ∧ img.spec.snapshotRef = some event.id := by
  by_cases heard : event.state = .populated ∧
      ∃ img, w.images x = some img ∧ img.spec.snapshotRef = some event.id
  · exact .inr heard
  refine .inl fun img found => ⟨(settled img found).1, fun live pending => ?_⟩
  obtain ⟨ref, hasRef, waiting⟩ := (settled img found).2 live pending
  exact ⟨ref, hasRef, waiting.tail fun named populated =>
    heard ⟨populated, img, found, named ▸ hasRef⟩⟩

end Settled

end

theorem Sys.step_deleted {r : ImageReconciler} {s s' : Sys} {a : Action} (inv : SysInv r False s)
    (h : s.step r a = some s') {x : String} {img : Image} (found : s'.world.images x = some img)
    (deleted : img.deletedAt.isSome) :
    (∃ old, s.world.images x = some old ∧ old.deletedAt.isSome) ∨
      (∃ time, a = .markDeleted x time) ∨ ∃ choice, a = .advance x choice := by
  by_cases target : a.target = some x
  · cases a with
    | advance id choice =>
      obtain rfl : id = x := by simpa [Action.target] using target
      exact .inr (.inr ⟨choice, rfl⟩)
    | markDeleted id time =>
      obtain rfl : id = x := by simpa [Action.target] using target
      exact .inr (.inl ⟨time, rfl⟩)
    | populate | deleteSnapshot => simp [Action.target] at target
    | start id | stop id | submit id _ _ _ _ | relabel id _ | respec id _ _ _ | purge id =>
      obtain rfl : id = x := by simpa [Action.target] using target
      left
      simp only [step, editImage, setRun] at h
      (repeat' split at h) <;> (try simp only [Option.map_eq_some', Option.some.injEq] at h) <;>
        (try obtain ⟨_, _, rfl⟩ := h)
      all_goals
        (try simp only [World.submit, submittedImage, World.setImage_images, Function.update_same,
          Option.some.injEq] at found)
        (try subst found)
        simp_all [submittedImage]
  · have same : s'.world.images x = s.world.images x :=
      congrArg View.image (Sys.step_view_of_ne h inv.owned target)
    exact .inl ⟨img, same ▸ found, deleted⟩

/-- A run that ends without an error leaves its image settled, or the image was marked
deleted while the run held a live copy. -/
theorem ImageInv.settled_of_done {r : ImageReconciler} {frozen : Prop} {i : String} {w : World}
    {pc : Pc} {choice : Choice} {result : RunResult}
    (inv : ImageInv r w.env frozen i (w.view r i (some pc)))
    (refs : ∀ c ref, pc.copy = some c → c.spec.snapshotRef = some ref → (w.snapshots ref).isSome)
    (done : (pc.step r choice w).1 = .done result) (notError : ∀ failure, result ≠ .error failure)
    (pending : List Snapshot) :
    Settled (pc.step r choice w).2 pending i ∨ (pc.step r choice w).2 = w ∧
      ∃ c, pc.copy = some c ∧ c.deletedAt = none ∧
        ∃ img, w.images i = some img ∧ img.deletedAt.isSome := by
  have copy := inv.run_copy pc rfl
  have stored : pc.expects.holds (w.images i) := inv.run_stored pc rfl
  rcases Pc.step_done done notError with ⟨id, rfl, same, ended⟩ |
    ⟨c, rfl, written | ⟨same, gone⟩⟩ | ⟨c, ref, rfl, same, notReady⟩ | ⟨c, rfl, written⟩
  · -- images.Get found the image gone, deleted and released, or Available
    cases (copy : id = i)
    refine .inl ?_
    rw [same]
    intro img found
    rcases ended img found with ⟨deleted, released⟩ | ⟨live, available⟩
    · exact ⟨fun _ => released, fun live => by simp [live] at deleted⟩
    · exact ⟨fun deleted => by simp [live] at deleted, fun _ pending => absurd available pending⟩
  · -- deleteImage wrote the deleted copy without the finalizer
    obtain ⟨rfl, deleted, released⟩ := copy
    refine .inl ?_
    rw [written]
    intro img found
    simp only [World.putImage_images, Image.written_id, Function.update_same,
      Option.some.injEq] at found
    subst found
    exact ⟨fun _ => released, fun live => by
      simp only [Image.written_deletedAt] at live
      simp [live] at deleted⟩
  · obtain ⟨rfl, -, -⟩ := copy
    refine .inl ?_
    rw [same]
    intro img found
    simp [gone] at found
  · -- createImageFromSnapshot found the snapshot stored but not Populated
    obtain ⟨claimed, hasRef⟩ := copy
    obtain ⟨img, found, -, -, sameRef⟩ := stored
    by_cases deleted : img.deletedAt.isSome
    · exact .inr ⟨same, c, rfl, claimed.live, img, found, deleted⟩
    obtain ⟨snap, snapStored⟩ := Option.isSome_iff_exists.mp (refs c ref rfl hasRef)
    refine .inl ?_
    rw [same]
    intro img' found'
    rw [found, Option.some.injEq] at found'
    subst found'
    exact ⟨fun doomed => absurd doomed deleted, fun _ _ => ⟨ref, sameRef.trans hasRef, snap,
      snapStored, .inl fun populated => notReady (by simp [snapStored, populated])⟩⟩
  · -- the final Update wrote the live, Available copy
    obtain ⟨rfl, -, -, live, user, key, wwn, -, status⟩ := copy
    refine .inl ?_
    rw [written]
    intro img found
    simp only [World.putImage_images, Image.written_id, Function.update_same,
      Option.some.injEq] at found
    subst found
    exact ⟨fun deleted => by simp [live] at deleted,
      fun _ pending => absurd (by rw [Image.written_status, status]; rfl) pending⟩

/-! ### The controller -/

/-- The steps under which no wakeup is lost: images.List succeeds on every delivered
notification, and no snapshot is deleted. -/
def CtlAction.keepsWakeups : CtlAction → Bool
  | .deliver listFails => !listFails
  | .deleteSnapshot _ => false
  | _ => true

/-- What the controller keeps so that no image owed a run is forgotten. -/
structure Ctl.Tracked (c : Ctl) : Prop where
  covered : c.queue.Covered
  keyed : SnapshotsKeyed c.sys.world
  refs : c.sys.RefsStored
  /-- A run holding a live copy of an image marked deleted since it fetched it: the Deleted
  notification marked the ID dirty, so Done queues it again. -/
  doomed : ∀ id pc copy, c.sys.runs id = some pc → pc.copy = some copy → copy.deletedAt = none →
    ∀ img, c.sys.world.images id = some img → img.deletedAt.isSome → id ∈ c.queue.dirty
  owed : ∀ id, c.Scheduled id ∨ Settled c.sys.world c.pending id

namespace Ctl

variable {r : ImageReconciler} {c c' : Ctl}

theorem Tracked.doomed_step {a : Action} {sys : Sys} {q : WorkQueue} (inv : SysInv r False c.sys)
    (tracked : c.Tracked) (h : c.sys.step r a = some sys)
    (notAdvance : ∀ x choice, a ≠ .advance x choice)
    (runs : ∀ x pc, sys.runs x = some pc → pc.copy.isSome → c.sys.runs x = some pc)
    (dirty : ∀ x, (c.sys.runs x).isSome → x ∈ c.queue.dirty → x ∈ q.dirty)
    (marked : ∀ x time, a = .markDeleted x time → x ∈ q.dirty) :
    ∀ id pc copy, sys.runs id = some pc → pc.copy = some copy → copy.deletedAt = none →
      ∀ img, sys.world.images id = some img → img.deletedAt.isSome → id ∈ q.dirty := by
  intro id pc copy found copied live img stored deleted
  have held := runs id pc found (by simp [copied])
  rcases Sys.step_deleted inv h stored deleted with ⟨old, stored', deleted'⟩ | ⟨time, rfl⟩ |
    ⟨choice, rfl⟩
  · exact dirty id (by simp [held])
      (tracked.doomed id pc copy held copied live old stored' deleted')
  · exact marked id time rfl
  · exact absurd rfl (notAdvance id choice)

theorem Tracked.write {a : Action} {type : EventType} {id : String} (inv : SysInv r False c.sys)
    (tracked : c.Tracked) (h : c.write r a type id = some c') (world : a.movesRun = false)
    (notPopulate : ∀ key size, a ≠ .populate key size) (notDelete : ∀ d, a ≠ .deleteSnapshot d)
    (notAdvance : ∀ x choice, a ≠ .advance x choice)
    (notified : ∀ x, ((∃ labels image size limits, a = .submit x labels image size limits) ∨
      ∃ time, a = .markDeleted x time) → x = id ∧ type ≠ .updated) : c'.Tracked := by
  obtain ⟨sys, step, rfl⟩ := Option.map_eq_some'.mp h
  obtain ⟨covered, scheduled⟩ := tracked.covered.imageHandler type id
  have runs := Sys.step_runs_of_world step world
  refine ⟨covered, Sys.step_keyed step tracked.keyed,
    tracked.refs.step inv step tracked.keyed notDelete,
    tracked.doomed_step inv step notAdvance (fun _ _ found _ => runs ▸ found)
      (fun _ _ mem => dirty_imageHandler type id mem) fun x time same => ?_, fun x => ?_⟩
  · obtain ⟨rfl, notifies⟩ := notified x (.inr ⟨time, same⟩)
    exact mem_imageHandler_dirty notifies x
  by_cases own : x = id ∧ type ≠ .updated
  · exact .inl (scheduled x (.inr own))
  rcases tracked.owed x with before | settled
  · exact .inl (scheduled x (.inl before))
  · exact .inr (settled.step inv step notPopulate notDelete
      (fun labels image size limits same =>
        own (notified x (.inl ⟨labels, image, size, limits, same⟩)))
      (fun time same => own (notified x (.inr ⟨time, same⟩))) (notAdvance x))

/-- A step of the run on `id` keeps `doomed`. The run's next copy keeps the DeletedAt of its
last one, or takes the fetched image's; and the image changes only by the run's writes of
its copy, which the store takes only at the version the run fetched. -/
theorem Tracked.doomed_advance {id : String} {choice : Choice} {sys : Sys}
    (inv : SysInv r False c.sys) (tracked : c.Tracked)
    (step : c.sys.step r (.advance id choice) = some sys) :
    ∀ x pc₁ copy, sys.runs x = some pc₁ → pc₁.copy = some copy → copy.deletedAt = none →
      ∀ img, sys.world.images x = some img → img.deletedAt.isSome → x ∈ c.queue.dirty := by
  obtain ⟨pc, found, rfl⟩ := Option.map_eq_some'.mp step
  intro x pc₁ copy found₁ copied live img stored deleted
  dsimp only at found₁ stored
  by_cases same : x = id
  case neg =>
    have held : c.sys.runs x = some pc₁ := by simpa [Function.update_noteq same] using found₁
    rcases Sys.step_deleted inv step stored deleted with ⟨old, stored', deleted'⟩ |
      ⟨_, other⟩ | ⟨_, other⟩
    · exact tracked.doomed x pc₁ copy held copied live old stored' deleted'
    · cases other
    · cases other
      exact absurd rfl same
  subst same
  have running : (pc.step r choice c.sys.world).1 = .running pc₁ := by
    revert found₁
    simp only [Function.update_same]
    cases (pc.step r choice c.sys.world).1 <;> simp [Next.run]
  rcases Pc.step_copy running copied with ⟨id₀, img₀, rfl, world, stored₀, same₀⟩ |
    ⟨c₀, copied₀, same₀⟩
  · -- images.Get copied the stored image, which is then not deleted
    obtain rfl : id₀ = x := inv.owned x _ found
    simp only [world, stored₀, Option.some.injEq] at stored
    subst stored
    simp [← same₀.deletedAt, live] at deleted
  have live₀ : c₀.deletedAt = none := by
    rcases same₀ with version | ⟨-, version⟩ <;> simpa [version.deletedAt] using live
  have touched := Pc.step_touches r choice c.sys.world pc
  generalize (pc.step r choice c.sys.world).2 = w' at touched stored
  cases touched with
  | image written copy' _ =>
    -- the run wrote its live copy
    rw [copied₀, Option.some.injEq] at copy'
    subst copy'
    have owned : c₀.id = x := (Pc.id_of_copy copied₀).symm.trans (inv.owned x pc found)
    rw [World.putImage_images, Image.written_id, owned, Function.update_same,
      Option.some.injEq] at stored
    subst stored
    simp [live₀] at deleted
  | _ => exact tracked.doomed x pc c₀ found copied₀ live₀ img stored deleted

/-- The snapshot handler on a delivered notification whose images.List succeeds queues every
image the notification was still owed to. -/
theorem Tracked.deliver {event : Snapshot} {rest : List Snapshot} {crashed : Bool}
    (reach : Ctl.Reachable r c) (tracked : c.Tracked) (pending : c.pending = event :: rest) :
    Ctl.Tracked ⟨c.sys, snapshotHandler c.queue .updated event (some c.sys.world.listImages), rest,
      crashed⟩ := by
  have inv : SysInv r False c.sys := reach.toSys.sysInv fun no : False => no.elim
  obtain ⟨covered, scheduled⟩ := tracked.covered.snapshotHandler event c.sys.world.listImages
  refine ⟨covered, tracked.keyed, tracked.refs, fun id pc copy found copied live img stored
    deleted => dirty_snapshotHandler _ _ _
      (tracked.doomed id pc copy found copied live img stored deleted), fun x => ?_⟩
  rcases tracked.owed x with before | settled
  · exact .inl (scheduled x (.inl before))
  rw [pending] at settled
  rcases settled.deliver with settled' | ⟨populated, img, found, refers⟩
  · exact .inr settled'
  -- the handler lists the image and finds it references the populated snapshot
  have registered : x ∈ c.sys.world.imageIds :=
    (inv x).registered_of_image (by simp [Sys.view, World.view, found])
  exact .inl (scheduled x (.inr ⟨populated, img,
    List.mem_filterMap.mpr ⟨x, registered, found⟩, refers, (inv x).stored_id img found⟩))

/-- A step of the run on `id`, with processNextWorkItem's bookkeeping once it returns: the
image stays scheduled while the run goes on or after an error, and is settled or queued
again after it returned otherwise. -/
theorem Tracked.advance {id : String} {pc : Pc} {choice : Choice} {sys : Sys}
    (reach : Ctl.Reachable r c) (tracked : c.Tracked) (found : c.sys.runs id = some pc)
    (step : c.sys.step r (.advance id choice) = some sys) :
    Ctl.Tracked ⟨sys, (processed c.queue id (pc.step r choice c.sys.world).1).1, c.pending,
      (processed c.queue id (pc.step r choice c.sys.world).1).2⟩ := by
  have inv : SysInv r False c.sys := reach.toSys.sysInv fun no : False => no.elim
  obtain ⟨pc', found', rfl⟩ := Option.map_eq_some'.mp step
  rw [found, Option.some.injEq] at found'
  subst found'
  have held := (reach.inv.in_flight id).mp (by simp [found])
  obtain ⟨covered, others, own⟩ := tracked.covered.processed held (pc.step r choice c.sys.world).1
  refine ⟨covered, Sys.step_keyed step tracked.keyed,
    tracked.refs.step inv step tracked.keyed (by simp),
    fun x pc₁ copy found₁ copied live img stored deleted => ?_, fun x => ?_⟩
  · simp only [dirty_processed]
    exact tracked.doomed_advance inv step x pc₁ copy found₁ copied live img stored deleted
  by_cases same : x = id
  · -- the run's own image: held, parked after an error, queued again, or settled
    subst same
    by_cases failed : ∀ result, (pc.step r choice c.sys.world).1 = .done result →
        ∃ failure, result = .error failure
    · exact .inl (own (.inl failed))
    push_neg at failed
    obtain ⟨result, done, notError⟩ := failed
    have imageInv := inv x
    simp only [Sys.view, found] at imageInv
    rcases imageInv.settled_of_done (fun c ref copy hasRef =>
        tracked.refs x ref (.inr ⟨pc, c, found, copy, hasRef⟩)) done notError c.pending with
      settled | ⟨-, c₀, copied, live, img, stored, deleted⟩
    · exact .inr settled
    · exact .inl (own (.inr (tracked.doomed x pc c₀ found copied live img stored deleted)))
  · rcases tracked.owed x with before | settled
    · exact .inl (others x same before)
    · exact .inr (settled.step inv step (by simp) (by simp) (by simp) (by simp)
        (by simp [Ne.symm same]))

theorem Tracked.step {a : CtlAction} (reach : Ctl.Reachable r c) (tracked : c.Tracked)
    (h : c.step r a = some c') (keeps : a.keepsWakeups) : c'.Tracked := by
  have inv : SysInv r False c.sys := reach.toSys.sysInv fun no : False => no.elim
  cases crashed : c.crashed
  case true => simp [Ctl.step, crashed] at h
  cases a with
  | submit id labels image size limits =>
    simp only [Ctl.step, crashed, Bool.false_eq_true, if_false] at h
    refine tracked.write inv h rfl (by simp) (by simp) (by simp) fun x same => ?_
    rcases same with ⟨_, _, _, _, same⟩ | ⟨_, same⟩ <;> cases same
    exact ⟨rfl, by decide⟩
  | markDeleted id time =>
    simp only [Ctl.step, crashed, Bool.false_eq_true, if_false] at h
    refine tracked.write inv h rfl (by simp) (by simp) (by simp) fun x same => ?_
    rcases same with ⟨_, _, _, _, same⟩ | ⟨_, same⟩ <;> cases same
    exact ⟨rfl, by decide⟩
  | relabel id labels =>
    simp only [Ctl.step, crashed, Bool.false_eq_true, if_false] at h
    exact tracked.write inv h rfl (by simp) (by simp) (by simp) (by simp)
  | respec id image size limits =>
    simp only [Ctl.step, crashed, Bool.false_eq_true, if_false] at h
    exact tracked.write inv h rfl (by simp) (by simp) (by simp) (by simp)
  | purge id =>
    simp only [Ctl.step, crashed, Bool.false_eq_true, if_false] at h
    exact tracked.write inv h rfl (by simp) (by simp) (by simp) (by simp)
  | populate digest size =>
    simp only [Ctl.step, crashed, Bool.false_eq_true, if_false, Option.bind_eq_some,
      Option.map_eq_some'] at h
    obtain ⟨sys, step, event, notified, rfl⟩ := h
    have runs := Sys.step_runs_of_world step rfl
    exact ⟨tracked.covered, Sys.step_keyed step tracked.keyed,
      tracked.refs.step inv step tracked.keyed (by simp),
      tracked.doomed_step inv step (by simp) (fun _ _ found _ => runs ▸ found)
        (fun _ _ mem => mem) (by simp),
      fun x => (tracked.owed x).imp id fun settled => settled.populate tracked.keyed step notified⟩
  | deliver listFails =>
    cases listFails
    case true => simp [CtlAction.keepsWakeups] at keeps
    simp only [Ctl.step, crashed, Bool.false_eq_true, if_false] at h
    split at h
    · cases h
      exact tracked.deliver reach ‹_›
    · cases h
  | deleteSnapshot digest => simp [CtlAction.keepsWakeups] at keeps
  | get =>
    simp only [Ctl.step, processNextWorkItem, crashed, Bool.false_eq_true, if_false] at h
    split at h
    · rename_i id q got
      obtain ⟨sys, step, rfl⟩ := Option.map_eq_some'.mp h
      obtain ⟨covered, scheduled⟩ := tracked.covered.get got
      obtain ⟨idle, runs⟩ := Sys.step_start_runs step
      refine ⟨covered, Sys.step_keyed step tracked.keyed,
        tracked.refs.step inv step tracked.keyed (by simp),
        tracked.doomed_step inv step (by simp) (fun x pc found copied => ?_)
          (fun x running mem =>
            WorkQueue.dirty_get got (fun same => by simp [same, idle] at running) mem) (by simp),
        fun x => (tracked.owed x).imp (scheduled x) fun settled =>
          settled.step inv step (by simp) (by simp) (by simp) (by simp) (by simp)⟩
      -- the new run holds no copy yet
      by_cases same : x = id
      · subst same
        rw [runs, Function.update_same, Option.some.injEq] at found
        subst found
        simp [Pc.copy] at copied
      · rwa [runs, Function.update_noteq same] at found
    · cases h
  | advance id choice =>
    simp only [Ctl.step, crashed, Bool.false_eq_true, if_false] at h
    split at h
    · rename_i pc sys found step
      cases h
      exact tracked.advance reach found step
    · cases h
  | fire id =>
    simp only [Ctl.step, crashed, Bool.false_eq_true, if_false, Option.map_eq_some'] at h
    obtain ⟨q, fired, rfl⟩ := h
    obtain ⟨covered, scheduled⟩ := tracked.covered.fire fired
    exact ⟨covered, tracked.keyed, tracked.refs,
      fun id pc copy found copied live img stored deleted =>
        WorkQueue.dirty_fire fired (tracked.doomed id pc copy found copied live img stored deleted),
      fun x => (tracked.owed x).imp (scheduled x) fun settled => settled⟩

theorem Tracked.run {acts : List CtlAction} (reach : Ctl.Reachable r c) (tracked : c.Tracked)
    (keeps : ∀ a ∈ acts, a.keepsWakeups) (h : Ctl.run r c acts = some c') : c'.Tracked := by
  induction acts generalizing c with
  | nil => cases h; exact tracked
  | cons a rest ih =>
    obtain ⟨c₁, step, h⟩ := Option.bind_eq_some.mp h
    exact ih (.step a reach step) (tracked.step reach step (keeps a (.head _)))
      (fun a mem => keeps a (.tail _ mem)) h

end Ctl

end Cephlet
