import Mathlib.Logic.Relation
import Cephlet.System.Step

/-! Finite traces of the system: a list of actions run from a state, and the
states it reaches.

A trace evaluates (`decide` runs it), so a claim about some reachable state is
shown by a trace to it, run on the sample reconciler and environment.
-/

set_option autoImplicit false

namespace Cephlet

/-- The states the system reaches from `s` through actions `admits` lets happen. -/
def Sys.Leads (r : ImageReconciler) (admits : Sys → Action → Prop) : Sys → Sys → Prop :=
  Relation.ReflTransGen fun s s' => ∃ a, admits s a ∧ s.step r a = some s'

def Sys.run (r : ImageReconciler) : Sys → List Action → Option Sys
  | s, [] => some s
  | s, a :: rest => (s.step r a).bind fun s' => Sys.run r s' rest

def Sys.ofTrace (r : ImageReconciler) (env : Env) (acts : List Action) : Sys :=
  (Sys.run r (Sys.init env) acts).getD (Sys.init env)

section
variable {r : ImageReconciler} {admits : Sys → Action → Prop}

theorem Reachable.run {s s' : Sys} {acts : List Action} (reach : Reachable r admits s)
    (admitted : ∀ s a, a ∈ acts → admits s a) (h : Sys.run r s acts = some s') :
    Reachable r admits s' := by
  induction acts generalizing s with
  | nil => cases h; exact reach
  | cons a rest ih =>
    obtain ⟨s₁, step, h⟩ := Option.bind_eq_some.mp h
    exact ih (.step a reach (admitted s a (.head _)) step)
      (fun s a member => admitted s a (.tail _ member)) h

theorem Sys.run_append (s : Sys) (acts more : List Action) :
    Sys.run r s (acts ++ more) = (Sys.run r s acts).bind fun s' => Sys.run r s' more := by
  induction acts generalizing s with
  | nil => rfl
  | cons a rest ih => simp [Sys.run, ih, Option.bind_assoc]

theorem Sys.Leads.run {s s' : Sys} {acts : List Action} (admitted : ∀ s a, a ∈ acts → admits s a)
    (h : Sys.run r s acts = some s') : Sys.Leads r admits s s' := by
  induction acts generalizing s with
  | nil => cases h; exact .refl
  | cons a rest ih =>
    obtain ⟨s₁, step, h⟩ := Option.bind_eq_some.mp h
    exact .head ⟨a, admitted s a (.head _), step⟩
      (ih (fun s a member => admitted s a (.tail _ member)) h)

theorem Sys.Leads.ofTrace_append {env : Env} {acts more : List Action}
    (admitted : ∀ s a, a ∈ more → admits s a)
    (runs : (Sys.run r (Sys.init env) (acts ++ more)).isSome) :
    Sys.Leads r admits (Sys.ofTrace r env acts) (Sys.ofTrace r env (acts ++ more)) := by
  obtain ⟨s', h⟩ := Option.isSome_iff_exists.mp runs
  rw [Sys.run_append] at h
  obtain ⟨s, first, rest⟩ := Option.bind_eq_some.mp h
  rw [Sys.ofTrace, Sys.ofTrace, Sys.run_append, first, Option.some_bind, rest, Option.getD_some,
    Option.getD_some]
  exact Sys.Leads.run admitted rest

theorem Reachable.ofTrace {env : Env} {acts : List Action}
    (admitted : ∀ s a, a ∈ acts → admits s a) (runs : (Sys.run r (Sys.init env) acts).isSome) :
    Reachable r admits (Sys.ofTrace r env acts) := by
  obtain ⟨s, h⟩ := Option.isSome_iff_exists.mp runs
  rw [Sys.ofTrace, h]
  exact (Reachable.init env).run admitted h

end

def Action.isRespec : Action → Bool
  | .respec _ _ _ _ => true
  | _ => false

theorem limitsFrozen_of_no_respec {acts : List Action} (none : ∀ a ∈ acts, a.isRespec = false)
    (s : Sys) (a : Action) (member : a ∈ acts) : limitsFrozen s a := by
  cases a with
  | respec => nomatch none _ member
  | _ => trivial

def Action.succeed (id : String) : Action := .advance id ⟨false, "wwn"⟩

def Action.failCall (id : String) : Action := .advance id ⟨true, "wwn"⟩

end Cephlet
