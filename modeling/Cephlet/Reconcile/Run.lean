import Cephlet.Reconcile.Program

/-! Whole runs of reconcileImage, one call after another with nothing in
between: `Runs` relates a program point and a world to the result and world the
run ends with, and `Ensures` is the total-correctness triple over it (the run
ends, and however the allowed choices fall, its end satisfies the
postcondition). -/

set_option autoImplicit false

namespace Cephlet

/-- A run from `pc` whose every call gets a choice `allowed` admits ends with `result`
in world `w'`. -/
inductive Runs (r : ImageReconciler) (allowed : Choice → Prop) :
    Pc → World → RunResult → World → Prop
  | done {pc : Pc} {w w' : World} {result : RunResult} (choice : Choice) :
      allowed choice → pc.step r choice w = (.done result, w') → Runs r allowed pc w result w'
  | next {pc pc' : Pc} {w w' w'' : World} {result : RunResult} (choice : Choice) :
      allowed choice → pc.step r choice w = (.running pc', w') →
      Runs r allowed pc' w' result w'' → Runs r allowed pc w result w''

def noFail (choice : Choice) : Prop := choice.fail = false

inductive Steps (r : ImageReconciler) (allowed : Choice → Prop) : Pc → World → Pc → World → Prop
  | refl (pc : Pc) (w : World) : Steps r allowed pc w pc w
  | next {pc pc' pc'' : Pc} {w w' w'' : World} (choice : Choice) :
      allowed choice → pc.step r choice w = (.running pc', w') →
      Steps r allowed pc' w' pc'' w'' → Steps r allowed pc w pc'' w''

/-- Every allowed run from `pc` ends, and ends satisfying `post`. -/
def Ensures (r : ImageReconciler) (allowed : Choice → Prop) (pc : Pc) (w : World)
    (post : RunResult → World → Prop) : Prop :=
  (∃ result w', Runs r allowed pc w result w') ∧
    ∀ result w', Runs r allowed pc w result w' → post result w'

def Next.Ensures (r : ImageReconciler) (allowed : Choice → Prop) :
    Next × World → (RunResult → World → Prop) → Prop
  | (.done result, w'), post => post result w'
  | (.running pc', w'), post => Cephlet.Ensures r allowed pc' w' post

section
variable {r : ImageReconciler} {allowed : Choice → Prop} {pc : Pc} {w : World}
  {post : RunResult → World → Prop}

theorem Ensures.step (inhabited : ∃ choice, allowed choice)
    (each : ∀ choice, allowed choice → Next.Ensures r allowed (pc.step r choice w) post) :
    Ensures r allowed pc w post := by
  refine ⟨?_, ?_⟩
  · obtain ⟨choice, ok⟩ := inhabited
    have outcome := each choice ok
    revert outcome
    cases hstep : pc.step r choice w with
    | mk next w' =>
      cases next with
      | done result => exact fun _ => ⟨result, w', .done choice ok hstep⟩
      | running pc' =>
        rintro ⟨⟨result, w'', run⟩, -⟩
        exact ⟨result, w'', .next choice ok hstep run⟩
  · intro result w' run
    cases run with
    | done choice ok hstep => simpa [hstep, Next.Ensures] using each choice ok
    | next choice ok hstep rest =>
      have outcome := each choice ok
      rw [hstep] at outcome
      exact outcome.2 _ _ rest

theorem Ensures.mono {post' : RunResult → World → Prop} (h : Ensures r allowed pc w post)
    (weaker : ∀ result w', post result w' → post' result w') : Ensures r allowed pc w post' :=
  ⟨h.1, fun result w' run => weaker _ _ (h.2 result w' run)⟩

theorem Ensures.and {post' : RunResult → World → Prop} (h : Ensures r allowed pc w post)
    (h' : Ensures r allowed pc w post') :
    Ensures r allowed pc w fun result w' => post result w' ∧ post' result w' :=
  ⟨h.1, fun result w' run => ⟨h.2 result w' run, h'.2 result w' run⟩⟩

theorem noFail_inhabited : ∃ choice, noFail choice := ⟨⟨false, ""⟩, rfl⟩

theorem Ensures.of_success (each : ∀ wwn, Next.Ensures r noFail (pc.step r ⟨false, wwn⟩ w) post) :
    Ensures r noFail pc w post :=
  Ensures.step noFail_inhabited fun ⟨_, wwn⟩ ok => by
    obtain rfl : _ = false := ok
    exact each wwn

@[simp] theorem Next.ensures_done (result : RunResult) (w' : World) :
    Next.Ensures r allowed (.done result, w') post = post result w' := rfl

@[simp] theorem Next.ensures_fail (context : List String) (cause : Cause) (w' : World) :
    Next.Ensures r allowed (Next.fail context cause, w') post = post (.error ⟨context, cause⟩) w' :=
  rfl

@[simp] theorem Next.ensures_running (pc' : Pc) (w' : World) :
    Next.Ensures r allowed (.running pc', w') post = Cephlet.Ensures r allowed pc' w' post := rfl

end

end Cephlet
