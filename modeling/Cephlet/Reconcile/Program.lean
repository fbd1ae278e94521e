import Cephlet.World

/-! reconcileImage as a small-step program.

A run stops at every call to a collaborator (image or snapshot store, registry,
librbd, the monitors): `Pc` names the call made next together with the locals
live there, and `Pc.step` makes that call against the world and runs the local
code up to the next call. The environment's `Choice` says whether the call
fails, and which WWN the generator draws. Runs of different images interleave
at these points (`Cephlet.System`).

The constructors follow the source: deleteImage (lines 223-241),
reconcileSnapshot (271-319), reconcileImage (321-412), setImageLimits
(414-435), createEmptyImage (437-444), createImageFromSnapshot (446-492).
-/

set_option autoImplicit false

namespace Cephlet

/-- What a reconcileImage run ends with: nil, an error, or a panic. -/
inductive RunResult where
  | ok
  | error (failure : Failure)
  | panic
  deriving DecidableEq, Repr

/-- The environment's answer to one call: a transient failure, and the value
wwnGen.Generate draws when the call is followed by it. -/
structure Choice where
  fail : Bool
  wwn : String
  deriving DecidableEq, Repr

inductive Pc where
  | openIOContext (id : String)
  | imagesGet (id : String)
  | removeImage (img : Image)
  | removeFinalizer (img : Image)
  | setFinalizers (img : Image)
  | resolve (img : Image) (locator : String)
  | getSnapshot (img : Image) (locator digest : String)
  | createSnapshot (img : Image) (locator digest : String)
  | recordSnapshotRef (img : Image)
  | setDataPool (img : Image)
  | getCloneSource (img : Image) (snapshotRef : String)
  | openSourceContext (img : Image) (snapshot : Snapshot)
  | cloneImage (img : Image) (snapshot : Snapshot)
  | openClone (img : Image)
  | resizeClone (img : Image)
  | closeAfterResize (img : Image) (cause : Cause)
  | closeClone (img : Image)
  | createImage (img : Image)
  | openForLimits (img : Image)
  | setLimits (img : Image) (rest : List (String × Int))
  | closeAfterLimit (img : Image) (limit : String) (cause : Cause)
  | fetchAuth (img : Image)
  | setAvailable (img : Image)
  deriving DecidableEq

inductive Next where
  | running (pc : Pc)
  | done (result : RunResult)
  deriving DecidableEq

def Next.fail (context : List String) (cause : Cause) : Next :=
  .done (.error ⟨context, cause⟩)

/-- The image a run has fetched, as it holds it at this point. -/
def Pc.copy : Pc → Option Image
  | .openIOContext _ | .imagesGet _ => none
  | .removeImage img | .removeFinalizer img | .setFinalizers img | .resolve img _
  | .getSnapshot img _ _ | .createSnapshot img _ _ | .recordSnapshotRef img | .setDataPool img
  | .getCloneSource img _ | .openSourceContext img _ | .cloneImage img _ | .openClone img
  | .resizeClone img | .closeAfterResize img _ | .closeClone img | .createImage img
  | .openForLimits img | .setLimits img _ | .closeAfterLimit img _ _ | .fetchAuth img
  | .setAvailable img => some img

def Pc.id : Pc → String
  | .openIOContext id | .imagesGet id => id
  | .removeImage img | .removeFinalizer img | .setFinalizers img | .resolve img _
  | .getSnapshot img _ _ | .createSnapshot img _ _ | .recordSnapshotRef img | .setDataPool img
  | .getCloneSource img _ | .openSourceContext img _ | .cloneImage img _ | .openClone img
  | .resizeClone img | .closeAfterResize img _ | .closeClone img | .createImage img
  | .openForLimits img | .setLimits img _ | .closeAfterLimit img _ _ | .fetchAuth img
  | .setAvailable img => img.id

/-- What fetchAuth (lines 247-269) returns when the monitors hold a key for the client:
the client name without its prefix, and the key. -/
def ImageReconciler.fetchAuth (r : ImageReconciler) (env : Env) : Option (String × String) :=
  match env.authGetKey r.client with
  | .key key => some (trimPrefix r.client "client.", key)
  | _ => none

theorem ImageReconciler.fetchAuth_eq_some {r : ImageReconciler} {env : Env} {user key : String} :
    r.fetchAuth env = some (user, key) ↔
      env.authGetKey r.client = .key key ∧ user = trimPrefix r.client "client." := by
  unfold ImageReconciler.fetchAuth
  cases env.authGetKey r.client <;> simp [and_comm, eq_comm]

/-- Lines 397-404: the image with its access descriptor, Available. -/
def ImageReconciler.provisioned (r : ImageReconciler) (img : Image) (user key wwn : String) :
    Image :=
  { img with status := ⟨.available, some ⟨r.monitors, r.pool ++ "/" ++ img.id, user, key, wwn⟩⟩ }

/-- The snapshot reconcileSnapshot creates (lines 294-304). -/
def newSnapshot (locator digest : String) : Snapshot :=
  ⟨digest, [(imageDigestLabel, digest)], locator ++ "@" ++ digest, .pending⟩

/-- The run of reconcileImage on an ID starts with the io context (line 322). -/
abbrev reconcileImage (id : String) : Pc := .openIOContext id

/-- createEmptyImage (lines 437-444) starts with librbd.CreateImage. -/
abbrev createEmptyImage (img : Image) : Pc := .createImage img

/-- createImageFromSnapshot (lines 446-492) starts with snapshots.Get of the reference. -/
abbrev createImageFromSnapshot (img : Image) (snapshotRef : String) : Pc :=
  .getCloneSource img snapshotRef

/-- setImageLimits (lines 414-435) starts by opening the image's volume. -/
abbrev setImageLimits (img : Image) : Pc := .openForLimits img

/-- deleteImage (lines 223-241): done at once without the finalizer, else its two calls. -/
def deleteImage (img : Image) : Next :=
  if imageFinalizer ∈ img.finalizers then .running (.removeImage img) else .done .ok

/-- reconcileSnapshot's guard and reference.Parse (lines 272-279); past the guard,
reconcileImage goes on at line 362. -/
def reconcileSnapshotStart (env : Env) (img : Image) : Next :=
  if img.spec.image ≠ "" ∧ img.spec.snapshotRef = none then
    match env.parse img.spec.image with
    | none => .fail ["failed to reconcile snapshot", "failed to parse image reference"]
        .invalidReference
    | some locator => .running (.resolve img locator)
  else .running (.setDataPool img)

/-- Lines 338-356. -/
def afterGet (env : Env) (img : Image) : Next :=
  if img.deletedAt.isSome then deleteImage img
  else if img.status.state = .available then .done .ok
  else if imageFinalizer ∈ img.finalizers then reconcileSnapshotStart env img
  else .running (.setFinalizers (img.withFinalizers (img.finalizers ++ [imageFinalizer])))

theorem reconcileSnapshotStart_cases (env : Env) (img : Image) :
    (∃ failure, reconcileSnapshotStart env img = .done (.error failure)) ∨
      ∃ pc, reconcileSnapshotStart env img = .running pc ∧ pc.copy = some img := by
  unfold reconcileSnapshotStart
  split_ifs
  · split
    · exact .inl ⟨_, rfl⟩
    · exact .inr ⟨_, rfl, rfl⟩
  · exact .inr ⟨_, rfl, rfl⟩

/-- afterGet ends a run without an error only on an image deleted without the finalizer,
or on a live Available one. -/
theorem afterGet_done {env : Env} {img : Image} {result : RunResult}
    (done : afterGet env img = .done result) (notError : ∀ failure, result ≠ .error failure) :
    img.deletedAt.isSome ∧ imageFinalizer ∉ img.finalizers ∨
      img.deletedAt = none ∧ img.status.state = .available := by
  unfold afterGet deleteImage at done
  split_ifs at done with deleted mem available
  · exact .inl ⟨deleted, mem⟩
  · exact .inr ⟨Option.not_isSome_iff_eq_none.mp deleted, available⟩
  · rcases reconcileSnapshotStart_cases env img with ⟨failure, start⟩ | ⟨pc, start, -⟩ <;>
      rw [start] at done <;> cases done
    exact (notError _ rfl).elim

theorem afterGet_running {env : Env} {img c : Image} {pc : Pc}
    (running : afterGet env img = .running pc) (copy : pc.copy = some c) : c.SameVersion img := by
  unfold afterGet deleteImage at running
  split_ifs at running
  · cases running; cases copy; exact .refl _
  · rcases reconcileSnapshotStart_cases env img with ⟨failure, start⟩ | ⟨pc', start, copy'⟩ <;>
      rw [start] at running <;> cases running
    rw [copy'] at copy
    cases copy; exact .refl _
  · cases running; cases copy; exact .refl _

/-- Lines 369-384: clone from the snapshot reference, or create an empty image. -/
def provision (img : Image) : Next :=
  match img.spec.snapshotRef with
  | some ref => .running (createImageFromSnapshot img ref)
  | none => .running (createEmptyImage img)

/-- Lines 386-392: set the limits when there are any, then fetch credentials. -/
def afterProvision (img : Image) : Next :=
  if img.spec.limits.entries = [] then .running (.fetchAuth img)
  else .running (setImageLimits img)

section
variable (r : ImageReconciler) (choice : Choice) (w : World)

def cloneContext : String := "failed to create image from snapshot"

def snapshotContext : String := "failed to reconcile snapshot"

def limitsContext : String := "failed to set limits"

def authContext : String := "failed to fetch credentials"

/-- One turn of setImageLimits's loop (lines 420-428), or the Close after it (line 430). -/
def setLimitsStep (img : Image) : List (String × Int) → Next × World
  | [] =>
    if choice.fail then (.fail [limitsContext, "failed to close rbd image"] .transient, w)
    else (.running (.fetchAuth img), w)
  | (limit, value) :: rest =>
    if choice.fail then (.running (.closeAfterLimit img limit .transient), w)
    else match w.setVolumeMetadata (r.naming.imageIDToRBDID img.id)
        (limitMetadataPrefix ++ limit) (formatInt value) with
      | .ok w' => (.running (.setLimits img rest), w')
      | .error cause => (.running (.closeAfterLimit img limit cause), w)

/-- The call at `pc` and the local code after it, up to the next call. -/
def Pc.step : Pc → Next × World
  | .openIOContext id =>
    if choice.fail then (.fail ["unable to get io context"] .transient, w)
    else (.running (.imagesGet id), w)
  | .imagesGet id =>
    if choice.fail then (.fail ["failed to fetch image from store"] .transient, w)
    else match w.images id with
      | none => (.done .ok, w)
      | some img => (afterGet w.env img, w)
  | .removeImage img =>
    if choice.fail then
      (.fail ["failed to delete image", "failed to remove rbd image"] .transient, w)
    else (.running (.removeFinalizer
        (img.withFinalizers (deleteSliceElement img.finalizers imageFinalizer))),
      w.removeVolume (r.naming.imageIDToRBDID img.id))
  | .removeFinalizer img =>
    if choice.fail then
      (.fail ["failed to delete image", "failed to update image metadata"] .transient, w)
    else match w.updateImage img with
      | .ok w' => (.done .ok, w')
      -- store.IgnoreErrNotFound (line 235)
      | .error .notFound => (.done .ok, w)
      | .error cause =>
        (.fail ["failed to delete image", "failed to update image metadata"] cause, w)
  | .setFinalizers img =>
    if choice.fail then (.fail ["failed to set finalizers"] .transient, w)
    else match w.updateImage img with
      | .ok w' => (reconcileSnapshotStart w.env img.written, w')
      | .error cause => (.fail ["failed to set finalizers"] cause, w)
  | .resolve img locator =>
    if choice.fail then
      (.fail [snapshotContext, "failed to resolve image ref in registry"] .transient, w)
    else match w.env.registry img.spec.image with
      | none => (.fail [snapshotContext, "failed to resolve image ref in registry"] .notFound, w)
      | some digest => (.running (.getSnapshot img locator digest), w)
  | .getSnapshot img locator digest =>
    if choice.fail then (.fail [snapshotContext, "failed to get snapshot"] .transient, w)
    else match w.snapshots digest with
      | some snap => (.running (.recordSnapshotRef (img.withSnapshotRef snap.id)), w)
      | none => (.running (.createSnapshot img locator digest), w)
  | .createSnapshot img locator digest =>
    if choice.fail then (.fail [snapshotContext, "failed to create snapshot"] .transient, w)
    else match w.createSnapshot (newSnapshot locator digest) with
      | .ok w' => (.running (.recordSnapshotRef (img.withSnapshotRef digest)), w')
      | .error cause => (.fail [snapshotContext, "failed to create snapshot"] cause, w)
  | .recordSnapshotRef img =>
    if choice.fail then
      (.fail [snapshotContext, "failed to update image snapshot ref"] .transient, w)
    else match w.updateImage img with
      | .ok w' => (.running (.setDataPool img.written), w')
      | .error cause => (.fail [snapshotContext, "failed to update image snapshot ref"] cause, w)
  | .setDataPool img =>
    if choice.fail then (.fail ["failed to set data pool"] .transient, w)
    else (provision img, w)
  | .getCloneSource img ref =>
    if choice.fail then (.fail [cloneContext, "failed to get snapshot"] .transient, w)
    else match w.snapshots ref with
      -- line 453 logs snapshot.ID of the nil snapshot that Get returned
      | none => (.done .panic, w)
      | some snap =>
        if snap.state = .populated then (.running (.openSourceContext img snap), w)
        else (.done .ok, w)
  | .openSourceContext img snap =>
    if choice.fail then (.fail [cloneContext, "unable to get io context"] .transient, w)
    else (.running (.cloneImage img snap), w)
  | .cloneImage img snap =>
    if choice.fail then (.fail [cloneContext, "failed to clone rbd image"] .transient, w)
    else match w.cloneVolume (r.naming.snapshotIDToRBDID snap.id)
        (r.naming.imageIDToRBDID img.id) with
      | .ok w' => (.running (.openClone img), w')
      | .error cause => (.fail [cloneContext, "failed to clone rbd image"] cause, w)
  | .openClone img =>
    if choice.fail then (.fail [cloneContext, "failed to open rbd image"] .transient, w)
    else match w.pool (r.naming.imageIDToRBDID img.id) with
      | some _ => (.running (.resizeClone img), w)
      | none => (.fail [cloneContext, "failed to open rbd image"] .notFound, w)
  | .resizeClone img =>
    if choice.fail then (.running (.closeAfterResize img .transient), w)
    else match w.resizeVolume (r.naming.imageIDToRBDID img.id) (r.offBytes img.spec.size) with
      | .ok w' => (.running (.closeClone img), w')
      | .error cause => (.running (.closeAfterResize img cause), w)
  | .closeAfterResize _ cause =>
    if choice.fail then (.fail [cloneContext] (.closeJoined cause .transient), w)
    else (.fail [cloneContext, "failed to resize rbd image"] cause, w)
  | .closeClone img =>
    if choice.fail then (.fail [cloneContext, "failed to close rbd image"] .transient, w)
    else (afterProvision img, w)
  | .createImage img =>
    if choice.fail then
      (.fail ["failed to create empty image", "failed to create rbd image"] .transient, w)
    else match w.createVolume (r.naming.imageIDToRBDID img.id) (r.offBytes img.spec.size) with
      | .ok w' => (afterProvision img, w')
      | .error cause =>
        (.fail ["failed to create empty image", "failed to create rbd image"] cause, w)
  | .openForLimits img =>
    if choice.fail then (.fail [limitsContext, "failed to open rbd image"] .transient, w)
    else match w.pool (r.naming.imageIDToRBDID img.id) with
      | some _ => (.running (.setLimits img img.spec.limits.entries), w)
      | none => (.fail [limitsContext, "failed to open rbd image"] .notFound, w)
  | .setLimits img rest => setLimitsStep r choice w img rest
  | .closeAfterLimit _ limit cause =>
    if choice.fail then (.fail [limitsContext] (.closeJoined cause .transient), w)
    else (.fail [limitsContext, "failed to set limit (" ++ limit ++ ")"] cause, w)
  | .fetchAuth img =>
    if choice.fail then (.fail [authContext, "failed to execute mon command"] .transient, w)
    else match w.env.authGetKey r.client with
      | .failed => (.fail [authContext, "failed to execute mon command"] .notFound, w)
      | .unparsable => (.fail [authContext, "unable to unmarshal response"] .unparsable, w)
      | .key key => (.running (.setAvailable
          (r.provisioned img (trimPrefix r.client "client.") key choice.wwn)), w)
  | .setAvailable img =>
    if choice.fail then (.fail ["failed to update image metadate"] .transient, w)
    else match w.updateImage img with
      | .ok w' => (.done .ok, w')
      | .error cause => (.fail ["failed to update image metadate"] cause, w)

end

end Cephlet

namespace Cephlet

theorem Pc.id_of_copy {pc : Pc} {img : Image} (copy : pc.copy = some img) : pc.id = img.id := by
  cases pc <;> simp_all [Pc.copy, Pc.id]

/-- The world changes one step of a run at `pc` can make: write the run's copy of
its image over the stored one of the same version, create a snapshot, or change its
image's volume. -/
inductive Touches (r : ImageReconciler) (pc : Pc) (w : World) : World → Prop
  | keep : Touches r pc w w
  | image (img : Image) : pc.copy = some img →
      (w.images img.id).map Image.resourceVersion = some img.resourceVersion →
      Touches r pc w (w.putImage img.written)
  | snapshot (snap : Snapshot) : snap.state = .pending →
      Touches r pc w { w with snapshots := Function.update w.snapshots snap.id (some snap) }
  | volume (volume : Option Volume) :
      Touches r pc w (w.putVolume (r.naming.imageIDToRBDID pc.id) volume)

theorem Pc.step_touches (r : ImageReconciler) (choice : Choice) (w : World) (pc : Pc) :
    Touches r pc w (pc.step r choice w).2 := by
  cases pc <;> simp only [Pc.step, setLimitsStep] <;> (repeat' split) <;>
    (try simp only [World.updateImage_eq_ok, World.createSnapshot_eq_ok, World.createVolume_eq_ok,
      World.cloneVolume_eq_ok, World.resizeVolume_eq_ok, World.setVolumeMetadata_eq_ok] at *) <;>
    first
    | exact .keep
    | exact .volume _
    | (obtain ⟨present, rfl⟩ := ‹_ ∧ _›; exact .image _ rfl present)
    | (obtain ⟨-, rfl⟩ := ‹_ ∧ _›; first | exact .snapshot _ rfl | exact .volume _)
    | (obtain ⟨_, -, -, rfl⟩ := ‹∃ _, _›; exact .volume _)

namespace Touches

variable {r : ImageReconciler} {pc : Pc} {w w' : World}

theorem env (h : Touches r pc w w') : w'.env = w.env := by
  cases h <;> rfl

theorem imageIds (h : Touches r pc w w') : w'.imageIds = w.imageIds := by
  cases h <;> rfl

theorem images_ne (h : Touches r pc w w') {other : String} (ne : other ≠ pc.id) :
    w'.images other = w.images other := by
  cases h with
  | image img copy _ =>
    rw [Pc.id_of_copy copy] at ne
    simp [Function.update_noteq ne]
  | _ => rfl

theorem pool_ne (h : Touches r pc w w') {name : String}
    (ne : name ≠ r.naming.imageIDToRBDID pc.id) : w'.pool name = w.pool name := by
  cases h with
  | volume => simp [Function.update_noteq ne]
  | _ => rfl

end Touches

/-- Where a run ends without an error: images.Get finds nothing, or an image deleted
without the finalizer, or an Available one (lines 338-347); deleteImage's Update of
the finalizers (lines 233-238); the not-ready return of createImageFromSnapshot or its
panic (lines 447-459); and the final Update of the status (line 406). -/
theorem Pc.step_done {r : ImageReconciler} {choice : Choice} {w : World} {pc : Pc}
    {result : RunResult} (done : (pc.step r choice w).1 = .done result)
    (notError : ∀ failure, result ≠ .error failure) :
    (∃ id, pc = .imagesGet id ∧ (pc.step r choice w).2 = w ∧
      ∀ img, w.images id = some img → img.deletedAt.isSome ∧ imageFinalizer ∉ img.finalizers ∨
        img.deletedAt = none ∧ img.status.state = .available) ∨
    (∃ c, pc = .removeFinalizer c ∧ ((pc.step r choice w).2 = w.putImage c.written ∨
      (pc.step r choice w).2 = w ∧ w.images c.id = none)) ∨
    (∃ c ref, pc = .getCloneSource c ref ∧ (pc.step r choice w).2 = w ∧
      (w.snapshots ref).map Snapshot.state ≠ some .populated) ∨
    (∃ c, pc = .setAvailable c ∧ (pc.step r choice w).2 = w.putImage c.written) := by
  cases fail : choice.fail
  case true =>
    exfalso
    cases pc <;> simp only [Pc.step, setLimitsStep, fail, if_true, Next.fail] at done <;>
      (try split at done) <;> cases done <;> exact notError _ rfl
  cases pc with
  | imagesGet id =>
    refine .inl ⟨id, rfl, ?_⟩
    simp only [Pc.step, fail, Bool.false_eq_true, if_false] at done ⊢
    split at done
    · simp_all
    · rename_i img found
      refine ⟨rfl, fun img' found' => ?_⟩
      rw [found, Option.some.injEq] at found'
      exact found' ▸ afterGet_done done notError
  | removeFinalizer c =>
    refine .inr (.inl ⟨c, rfl, ?_⟩)
    simp only [Pc.step, fail, Bool.false_eq_true, if_false] at done ⊢
    split at done
    · exact .inl (World.updateImage_eq_ok.mp ‹_›).2
    · exact .inr ⟨rfl, ((World.updateImage_eq_error ‹_›).resolve_right (by simp)).1⟩
    · cases done; exact (notError _ rfl).elim
  | getCloneSource c ref =>
    refine .inr (.inr (.inl ⟨c, ref, rfl, ?_⟩))
    simp only [Pc.step, fail, Bool.false_eq_true, if_false] at done ⊢
    split at done <;> (try split_ifs at done) <;> simp_all
  | setAvailable c =>
    refine .inr (.inr (.inr ⟨c, rfl, ?_⟩))
    simp only [Pc.step, fail, Bool.false_eq_true, if_false] at done ⊢
    split at done
    · simp_all [(World.updateImage_eq_ok.mp ‹_›).2]
    · cases done; exact (notError _ rfl).elim
  | _ =>
    exfalso
    simp only [Pc.step, setLimitsStep, fail, Bool.false_eq_true, if_false, Next.fail, provision,
      afterProvision, reconcileSnapshotStart] at done
    (repeat' split at done) <;> cases done <;> exact notError _ rfl

/-- What a step does to the run's copy: images.Get takes the stored image, a write moves
the copy on to the version it stored, and every other call keeps the copy's version and
the submitter's fields. -/
theorem Pc.step_copy {r : ImageReconciler} {choice : Choice} {w : World} {pc pc' : Pc}
    {c' : Image} (running : (pc.step r choice w).1 = .running pc') (copy' : pc'.copy = some c') :
    (∃ id img, pc = .imagesGet id ∧ (pc.step r choice w).2 = w ∧ w.images id = some img ∧
      c'.SameVersion img) ∨
    ∃ c, pc.copy = some c ∧ (c'.SameVersion c ∨
      (pc.step r choice w).2 = w.putImage c.written ∧ c'.SameVersion c.written) := by
  cases pc with
  | imagesGet id =>
    refine .inl ?_
    cases fail : choice.fail
    case true => simp [Pc.step, fail, Next.fail] at running
    simp only [Pc.step, fail, Bool.false_eq_true, if_false] at running ⊢
    split at running
    · cases running
    · rename_i img found
      exact ⟨id, img, rfl, by simp [found], found, afterGet_running running copy'⟩
  | openIOContext id =>
    simp only [Pc.step, Next.fail] at running
    split at running <;> cases running
    simp [Pc.copy] at copy'
  | setFinalizers c | recordSnapshotRef c =>
    -- a write: the run goes on with the version it stored
    refine .inr ⟨c, rfl, .inr ?_⟩
    cases fail : choice.fail
    case true => simp [Pc.step, fail, Next.fail] at running
    cases written : w.updateImage c with
    | error cause => simp [Pc.step, fail, written, Next.fail] at running
    | ok w' =>
      obtain ⟨-, rfl⟩ := World.updateImage_eq_ok.mp written
      simp only [Pc.step, fail, written, Bool.false_eq_true, if_false, true_and] at running ⊢
      first
      | (rcases reconcileSnapshotStart_cases w.env c.written with ⟨_, start⟩ | ⟨_, start, copy⟩ <;>
          rw [start] at running <;> cases running
         rw [copy'] at copy
         cases copy
         exact .refl _)
      | (cases running; cases copy'; exact .refl _)
  | _ =>
    refine .inr ⟨_, rfl, .inl ?_⟩
    simp only [Pc.step, setLimitsStep, Next.fail, provision, afterProvision,
      reconcileSnapshotStart] at running
    (repeat' split at running) <;> cases running <;>
      simp only [Pc.copy, Option.some.injEq] at copy' <;> subst copy' <;> exact ⟨rfl, rfl⟩

/-- Where a run's next copy takes its snapshot reference from: the image images.Get
fetched, its last copy, or, at lines 282-304, a snapshot stored after the step. -/
theorem Pc.step_copy_ref {r : ImageReconciler} {choice : Choice} {w : World} {pc pc' : Pc}
    {c' : Image} (running : (pc.step r choice w).1 = .running pc') (copy' : pc'.copy = some c') :
    (∃ id img, pc = .imagesGet id ∧ w.images id = some img ∧
      c'.spec.snapshotRef = img.spec.snapshotRef) ∨
    (∃ c, pc.copy = some c ∧ c'.spec.snapshotRef = c.spec.snapshotRef) ∨
    ∃ key snap, (pc.step r choice w).2.snapshots key = some snap ∧
      c'.spec.snapshotRef = some snap.id := by
  cases pc with
  | openIOContext id =>
    simp only [Pc.step, Next.fail] at running
    split at running <;> cases running
    simp [Pc.copy] at copy'
  | imagesGet id =>
    simp only [Pc.step, Next.fail] at running
    split at running
    · cases running
    split at running
    · cases running
    rename_i img found
    refine .inl ⟨id, img, rfl, found, ?_⟩
    simp only [afterGet, deleteImage, reconcileSnapshotStart] at running
    (repeat' split at running) <;> cases running <;>
      simp only [Pc.copy, Option.some.injEq] at copy' <;> subst copy' <;> rfl
  | getSnapshot c locator digest =>
    simp only [Pc.step, Next.fail] at running ⊢
    (repeat' split at running) <;> cases running <;>
      simp only [Pc.copy, Option.some.injEq] at copy' <;> subst copy'
    · -- lines 282-287: the reference names the snapshot found
      exact .inr (.inr ⟨digest, _, by simp [*], rfl⟩)
    · exact .inr (.inl ⟨c, rfl, rfl⟩)
  | createSnapshot c locator digest =>
    simp only [Pc.step, Next.fail] at running ⊢
    (repeat' split at running) <;> cases running
    simp only [Pc.copy, Option.some.injEq] at copy'
    subst copy'
    -- lines 294-304: the reference names the snapshot created
    obtain ⟨-, rfl⟩ := World.createSnapshot_eq_ok.mp ‹_›
    exact .inr (.inr ⟨digest, newSnapshot locator digest, by simp [newSnapshot, *], rfl⟩)
  | _ =>
    refine .inr (.inl ⟨_, rfl, ?_⟩)
    simp only [Pc.step, setLimitsStep, Next.fail, provision, afterProvision,
      reconcileSnapshotStart] at running
    (repeat' split at running) <;> cases running <;>
      simp only [Pc.copy, Option.some.injEq] at copy' <;> subst copy' <;> rfl

end Cephlet
