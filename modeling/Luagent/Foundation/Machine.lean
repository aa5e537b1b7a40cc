import Mathlib.Data.List.Induction

/-! Runs of a machine that takes an event or refuses it, and the induction rules
for facts about every run. -/

namespace Foundation

universe u v

structure Machine (σ : Type u) (ε : Type v) where
  step : σ → ε → Option σ

namespace Machine
variable {σ : Type u} {ε : Type v} (machine : Machine σ ε)

def run : σ → List ε → Option σ
  | state, [] => some state
  | state, event :: events => (machine.step state event).bind fun next => run next events

theorem run_append (state : σ) (first later : List ε) :
    machine.run state (first ++ later) = (machine.run state first).bind fun middle => machine.run middle later := by
  induction first generalizing state with
  | nil => rfl
  | cons event events ih =>
    simp only [List.cons_append, run]
    cases machine.step state event with
    | none => rfl
    | some next => exact ih next

theorem run_append_some {state final : σ} {first later : List ε}
    (executed : machine.run state (first ++ later) = some final) :
    ∃ middle, machine.run state first = some middle ∧ machine.run middle later = some final := by
  rw [run_append] at executed
  exact Option.bind_eq_some_iff.mp executed

theorem run_cons_some {state final : σ} {event : ε} {events : List ε}
    (executed : machine.run state (event :: events) = some final) :
    ∃ next, machine.step state event = some next ∧ machine.run next events = some final :=
  Option.bind_eq_some_iff.mp executed

theorem run_singleton (state : σ) (event : ε) : machine.run state [event] = machine.step state event := by
  simp only [run]
  cases machine.step state event <;> rfl

/-- A fact about a history and the state it leads to holds of every run when it
holds at the start and survives every single step. -/
theorem run_induction {start : σ} (holds : List ε → σ → Prop) (initially : holds [] start)
    (preserved : ∀ events state event next, machine.run start events = some state → holds events state →
      machine.step state event = some next → holds (events ++ [event]) next)
    {events : List ε} {final : σ} (executed : machine.run start events = some final) : holds events final := by
  induction events using List.reverseRecOn generalizing final with
  | nil =>
    cases executed
    exact initially
  | append_singleton events event ih =>
    obtain ⟨middle, before, last⟩ := machine.run_append_some executed
    rw [run_singleton] at last
    exact preserved events middle event final before (ih before) last

/-- The same for a fact about states alone. -/
theorem run_invariant {holds : σ → Prop}
    (preserved : ∀ state event next, holds state → machine.step state event = some next → holds next)
    {start final : σ} {events : List ε} (initially : holds start)
    (executed : machine.run start events = some final) : holds final :=
  machine.run_induction (fun _ state => holds state) initially
    (fun _ state event next _ kept stepped => preserved state event next kept stepped) executed

/-- Every step of a run meets a condition on the state before it and the event. -/
def Conforms (allows : σ → ε → Prop) : σ → List ε → Prop
  | _, [] => True
  | state, event :: events =>
    allows state event ∧ ∀ next, machine.step state event = some next → Conforms allows next events

instance decidableConforms (allows : σ → ε → Prop) [∀ state event, Decidable (allows state event)] :
    (state : σ) → (events : List ε) → Decidable (machine.Conforms allows state events)
  | _, [] => isTrue trivial
  | state, event :: events =>
    have _rest := fun next => decidableConforms allows next events
    inferInstanceAs (Decidable (allows state event ∧ ∀ next ∈ machine.step state event, machine.Conforms allows next events))

theorem conforms_append {allows : σ → ε → Prop} {start : σ} {events : List ε} {event : ε} :
    machine.Conforms allows start (events ++ [event]) ↔ machine.Conforms allows start events ∧
      ∀ state, machine.run start events = some state → allows state event := by
  induction events generalizing start with
  | nil => simp [Conforms, run]
  | cons first rest ih =>
    simp only [List.cons_append, Conforms, ih, and_assoc, and_congr_right_iff]
    intro _
    constructor
    · intro both
      refine ⟨fun next stepped => (both next stepped).1, fun state executed => ?_⟩
      obtain ⟨next, stepped, continued⟩ := machine.run_cons_some executed
      exact (both next stepped).2 state continued
    · rintro ⟨conforms, last⟩ next stepped
      refine ⟨conforms next stepped, fun state executed => last state ?_⟩
      simp only [run, stepped, Option.bind_some, executed]

theorem conforms_cons {allows : σ → ε → Prop} {state next : σ} {event : ε} {events : List ε} (allowed : allows state event)
    (stepped : machine.step state event = some next) (rest : machine.Conforms allows next events) :
    machine.Conforms allows state (event :: events) := by
  refine ⟨allowed, fun other same => ?_⟩
  cases stepped.symm.trans same
  exact rest

/-- A condition that holds of the events in any state. -/
theorem conforms_of_forall {allows : σ → ε → Prop} {start : σ} {events : List ε}
    (all : ∀ event ∈ events, ∀ state, allows state event) : machine.Conforms allows start events := by
  induction events generalizing start with
  | nil => trivial
  | cons event events ih =>
    refine ⟨all event List.mem_cons_self start, fun next _ => ?_⟩
    exact ih fun other member => all other (List.mem_cons_of_mem _ member)

/-- Two conditions that agree on every state of the run. -/
theorem conforms_congr {allows permits : σ → ε → Prop} {start : σ} {events : List ε}
    (same : ∀ past state event, machine.run start past = some state → (allows state event ↔ permits state event)) :
    machine.Conforms allows start events ↔ machine.Conforms permits start events := by
  induction events generalizing start with
  | nil => exact Iff.rfl
  | cons event events ih =>
    refine and_congr (same [] start event rfl) (forall_congr' fun next => imp_congr_right fun stepped => ?_)
    refine ih fun past state later executed => same (event :: past) state later ?_
    simp only [run, stepped, Option.bind_some, executed]

/-- The rest of a conforming run conforms. -/
theorem conforms_rest {allows : σ → ε → Prop} {start middle : σ} {first later : List ε}
    (conforms : machine.Conforms allows start (first ++ later)) (executed : machine.run start first = some middle) :
    machine.Conforms allows middle later := by
  induction first generalizing start with
  | nil =>
    cases executed
    exact conforms
  | cons event events ih =>
    obtain ⟨next, stepped, continued⟩ := machine.run_cons_some executed
    exact ih (conforms.2 next stepped) continued

/-- A fact survives a conforming run when it survives every conforming step. -/
theorem conforming_induction {allows : σ → ε → Prop} {start : σ} (holds : List ε → σ → Prop) (initially : holds [] start)
    (preserved : ∀ events state event next, machine.run start events = some state → holds events state →
      allows state event → machine.step state event = some next → holds (events ++ [event]) next)
    {events : List ε} {final : σ} (conforms : machine.Conforms allows start events)
    (executed : machine.run start events = some final) : holds events final := by
  induction events using List.reverseRecOn generalizing final with
  | nil =>
    cases executed
    exact initially
  | append_singleton events event ih =>
    obtain ⟨conforms, last⟩ := machine.conforms_append.mp conforms
    obtain ⟨middle, before, stepped⟩ := machine.run_append_some executed
    rw [run_singleton] at stepped
    exact preserved events middle event final before (ih conforms before) (last middle before) stepped

/-- A machine follows another one when each of its steps is a run of the other between
related states. -/
theorem simulated {τ : Type*} {ω : Type*} (above : Machine τ ω) (relates : σ → τ → Prop) {start final : σ} {first : τ}
    {events : List ε} (initially : relates start first)
    (matched : ∀ steps state other event next, above.run first steps = some other → relates state other →
      machine.step state event = some next → ∃ more final, above.run other more = some final ∧ relates next final)
    (executed : machine.run start events = some final) :
    ∃ steps last, above.run first steps = some last ∧ relates final last := by
  refine machine.run_induction (fun _ state => ∃ steps last, above.run first steps = some last ∧ relates state last)
    ⟨[], first, rfl, initially⟩ ?_ executed
  rintro _ state event next _ ⟨steps, last, reached, related⟩ stepped
  obtain ⟨more, final, continued, kept⟩ := matched steps state last event next reached related stepped
  refine ⟨steps ++ more, final, ?_, kept⟩
  rw [run_append, reached]
  exact continued

section gather
variable {α : Type*} (observe : σ → ε → σ → List α)

/-- What is observed of the steps of a run, in order. -/
def gather : σ → List ε → List α
  | _, [] => []
  | state, event :: events => match machine.step state event with
    | none => []
    | some next => observe state event next ++ gather next events

theorem gather_append {start middle : σ} {first : List ε} (executed : machine.run start first = some middle)
    (later : List ε) :
    machine.gather observe start (first ++ later) =
      machine.gather observe start first ++ machine.gather observe middle later := by
  induction first generalizing start with
  | nil =>
    cases executed
    rfl
  | cons event events ih =>
    obtain ⟨next, stepped, continued⟩ := machine.run_cons_some executed
    simp only [List.cons_append, gather, stepped, ih continued, List.append_assoc]

theorem gather_step {start state next : σ} {events : List ε} {event : ε} (executed : machine.run start events = some state)
    (stepped : machine.step state event = some next) :
    machine.gather observe start (events ++ [event]) =
      machine.gather observe start events ++ observe state event next := by
  rw [machine.gather_append observe executed]
  simp only [gather, stepped, List.append_nil]

/-- Something observed along a run was observed at one of its steps, after all that
stands before it. -/
theorem gather_split {start : σ} {events : List ε} {before after : List α} {entry : α}
    (split : machine.gather observe start events = before ++ entry :: after) :
    ∃ first event later middle next early late, events = first ++ event :: later ∧
      machine.run start first = some middle ∧ machine.step middle event = some next ∧
      before = machine.gather observe start first ++ early ∧ observe middle event next = early ++ entry :: late := by
  induction events generalizing start before with
  | nil => exact absurd split.symm (by simp [gather])
  | cons event events ih =>
    simp only [gather] at split
    cases stepped : machine.step start event with
    | none => simp [stepped] at split
    | some next =>
      simp only [stepped] at split
      -- The entry is one of the first step, or one of those behind it.
      have cases : (∃ rest, before = observe start event next ++ rest ∧
          machine.gather observe next events = rest ++ entry :: after) ∨
          ∃ late, observe start event next = before ++ entry :: late := by
        rcases List.append_eq_append_iff.mp split with ⟨rest, whole, behind⟩ | ⟨rest, whole, behind⟩
        · exact .inl ⟨rest, whole, behind⟩
        · cases rest with
          | nil => exact .inl ⟨[], by simpa using whole.symm, by simpa using behind.symm⟩
          | cons head late =>
            obtain ⟨rfl, _⟩ := List.cons.inj behind
            exact .inr ⟨late, whole⟩
      rcases cases with ⟨rest, rfl, behind⟩ | ⟨late, here⟩
      · obtain ⟨first, other, later, middle, last, early, late, rfl, reached, steps, rfl, seen⟩ := ih behind
        refine ⟨event :: first, other, later, middle, last, early, late, rfl, ?_, steps, ?_, seen⟩
        · simp only [run, stepped, Option.bind_some, reached]
        · simp only [gather, stepped, List.append_assoc]
      · exact ⟨[], event, events, start, next, before, late, rfl, rfl, stepped, rfl, here⟩

end gather

end Machine
end Foundation
