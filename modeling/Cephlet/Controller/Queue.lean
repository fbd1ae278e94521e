import Mathlib.Data.List.Nodup

/-! The work queue the controller feeds (k8s.io/client-go/util/workqueue, absent
from src/, modelled from the spec's contract for it).

An ID is queued at most once; Get hands it to one worker and marks it
processing; an ID added while processing is only marked dirty, and Done queues
it again. AddRateLimited parks it until its backoff ends. The backoff's length
and the failure count Forget resets are not modelled: when a parked ID comes
back is left to the scheduler (`fire`).
-/

set_option autoImplicit false

namespace Cephlet

/-- Modelled from the spec: the rate-limited work queue. `queue` holds the IDs waiting
for a worker in order, `dirty` those added since they were last handed out,
`processing` those a worker holds, and `waiting` those AddRateLimited parked. -/
structure WorkQueue where
  queue : List String
  dirty : List String
  processing : List String
  waiting : List String
  deriving DecidableEq, Repr

namespace WorkQueue

def empty : WorkQueue := ⟨[], [], [], []⟩

/-- Add: a dirty ID is not added twice, and one being processed waits for Done. -/
def add (q : WorkQueue) (id : String) : WorkQueue :=
  if id ∈ q.dirty then q
  else if id ∈ q.processing then { q with dirty := q.dirty ++ [id] }
  else { q with dirty := q.dirty ++ [id], queue := q.queue ++ [id] }

/-- Get: the first queued ID, handed to a worker. -/
def get (q : WorkQueue) : Option (String × WorkQueue) :=
  match q.queue with
  | [] => none
  | id :: rest =>
    some (id, { q with
      queue := rest, processing := q.processing ++ [id], dirty := q.dirty.erase id })

/-- Done: the worker lets the ID go; if it was added meanwhile it is queued again. -/
def done (q : WorkQueue) (id : String) : WorkQueue :=
  if id ∈ q.dirty then { q with processing := q.processing.erase id, queue := q.queue ++ [id] }
  else { q with processing := q.processing.erase id }

/-- AddRateLimited: the ID comes back after its backoff; one parked entry per ID. -/
def addRateLimited (q : WorkQueue) (id : String) : WorkQueue :=
  if id ∈ q.waiting then q else { q with waiting := q.waiting ++ [id] }

/-- The backoff of a parked ID ends and the delaying queue adds it. -/
def fire (q : WorkQueue) (id : String) : Option WorkQueue :=
  if id ∈ q.waiting then some ({ q with waiting := q.waiting.erase id }.add id) else none

/-- The queue's bookkeeping: no ID is queued or processing twice, and a queued ID is
dirty and not processing. -/
structure Valid (q : WorkQueue) : Prop where
  queue_nodup : q.queue.Nodup
  processing_nodup : q.processing.Nodup
  queued_dirty : ∀ id ∈ q.queue, id ∈ q.dirty
  queued_idle : ∀ id ∈ q.queue, id ∉ q.processing

theorem valid_empty : empty.Valid := ⟨.nil, .nil, by simp [empty], by simp [empty]⟩

variable {q q' : WorkQueue} {id : String}

@[simp] theorem add_processing (q : WorkQueue) (id : String) :
    (q.add id).processing = q.processing := by
  unfold add; split_ifs <;> rfl

theorem Valid.add (valid : q.Valid) (id : String) : (q.add id).Valid := by
  unfold WorkQueue.add
  split_ifs with dirty processing
  · exact valid
  · exact { valid with
      queued_dirty := fun x mem => List.mem_append_left _ (valid.queued_dirty x mem) }
  · have fresh : id ∉ q.queue := fun mem => dirty (valid.queued_dirty id mem)
    refine ⟨List.nodup_append.mpr ⟨valid.queue_nodup, List.nodup_singleton id, ?_⟩,
      valid.processing_nodup, fun x mem => ?_, fun x mem => ?_⟩
    · simpa using fresh
    · rcases List.mem_append.mp mem with old | new
      · exact List.mem_append_left _ (valid.queued_dirty x old)
      · simp_all
    · rcases List.mem_append.mp mem with old | new
      · exact valid.queued_idle x old
      · simp_all

theorem Valid.get (valid : q.Valid) (h : q.get = some (id, q')) :
    q'.Valid ∧ id ∉ q.processing ∧ q'.processing = q.processing ++ [id] := by
  unfold WorkQueue.get at h
  split at h
  · cases h
  · rename_i first rest queued
    simp only [Option.some.injEq, Prod.mk.injEq] at h
    obtain ⟨same, rfl⟩ := h
    subst same
    have nodup : (first :: rest).Nodup := queued ▸ valid.queue_nodup
    have idle : first ∉ q.processing := valid.queued_idle first (by simp [queued])
    have later : ∀ x ∈ rest, x ∈ q.queue ∧ x ≠ first := fun x mem =>
      ⟨by simp [queued, mem], fun same => (List.nodup_cons.mp nodup).1 (same ▸ mem)⟩
    refine ⟨⟨(List.nodup_cons.mp nodup).2, ?_, fun x mem => ?_, fun x mem => ?_⟩, idle, rfl⟩
    · exact List.nodup_append.mpr
        ⟨valid.processing_nodup, List.nodup_singleton first, by simpa using idle⟩
    · exact (List.mem_erase_of_ne (later x mem).2).mpr (valid.queued_dirty x (later x mem).1)
    · simpa [(later x mem).2] using valid.queued_idle x (later x mem).1

@[simp] theorem done_processing (q : WorkQueue) (id : String) :
    (q.done id).processing = q.processing.erase id := by
  unfold done; split_ifs <;> rfl

theorem Valid.done (valid : q.Valid) (held : id ∈ q.processing) : (q.done id).Valid := by
  have erased : id ∉ q.processing.erase id := valid.processing_nodup.not_mem_erase
  have idle : ∀ x ∈ q.queue, x ∉ q.processing.erase id := fun x mem gone =>
    valid.queued_idle x mem (List.mem_of_mem_erase gone)
  unfold WorkQueue.done
  split_ifs with dirty
  · have fresh : id ∉ q.queue := fun mem => valid.queued_idle id mem held
    refine ⟨List.nodup_append.mpr
        ⟨valid.queue_nodup, List.nodup_singleton id, by simpa using fresh⟩,
      valid.processing_nodup.erase id, fun x mem => ?_, fun x mem => ?_⟩
    · rcases List.mem_append.mp mem with old | new
      · exact valid.queued_dirty x old
      · simp_all
    · rcases List.mem_append.mp mem with old | new
      · exact idle x old
      · simp_all
  · exact ⟨valid.queue_nodup, valid.processing_nodup.erase id, valid.queued_dirty, idle⟩

@[simp] theorem addRateLimited_processing (q : WorkQueue) (id : String) :
    (q.addRateLimited id).processing = q.processing := by
  unfold addRateLimited; split_ifs <;> rfl

theorem Valid.addRateLimited (valid : q.Valid) (id : String) : (q.addRateLimited id).Valid := by
  unfold WorkQueue.addRateLimited; split_ifs
  · exact valid
  · exact ⟨valid.queue_nodup, valid.processing_nodup, valid.queued_dirty, valid.queued_idle⟩

theorem Valid.fire (valid : q.Valid) (h : q.fire id = some q') :
    q'.Valid ∧ q'.processing = q.processing := by
  unfold WorkQueue.fire at h
  split_ifs at h
  cases h
  have parked : ({ q with waiting := q.waiting.erase id } : WorkQueue).Valid :=
    ⟨valid.queue_nodup, valid.processing_nodup, valid.queued_dirty, valid.queued_idle⟩
  exact ⟨parked.add id, by simp⟩

end WorkQueue

end Cephlet
