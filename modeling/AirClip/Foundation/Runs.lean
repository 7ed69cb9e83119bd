import Mathlib.Data.Nat.Notation
import Mathlib.Logic.Basic

/-!
# Runs of a machine

A machine takes one step for every input.  What every step preserves holds at the end of every run, and
what a step brings about in exactly some situations has come about in exactly the runs through one.
-/

namespace Foundation

variable {σ ι : Type*} {step : σ → ι → σ}

/-- What every step on one of the inputs preserves. -/
theorem foldl_invariant {P : σ → Prop} {inputs : List ι}
    (hstep : ∀ state, ∀ input ∈ inputs, P state → P (step state input)) {state : σ}
    (hinit : P state) : P (inputs.foldl step state) := by
  induction inputs generalizing state with
  | nil => exact hinit
  | cons input inputs ih =>
    exact ih (fun state later hmem ↦ hstep state later (List.mem_cons_of_mem _ hmem))
      (hstep state input List.mem_cons_self hinit)

/-- A machine that can always take a step towards its goal gets there, in as many steps as are left. -/
theorem exists_foldl_of_progress {P Goal : σ → Prop} {Allowed : ι → Prop} {left : σ → ℕ}
    (hstep : ∀ state, P state → Goal state ∨ ∃ input, Allowed input ∧ P (step state input) ∧
      left (step state input) < left state) {state : σ} (hinit : P state) :
    ∃ inputs : List ι, (∀ input ∈ inputs, Allowed input) ∧ inputs.length ≤ left state ∧
      Goal (inputs.foldl step state) := by
  induction hleft : left state using Nat.strongRecOn generalizing state with
  | ind bound ih =>
    obtain hgoal | ⟨input, hallowed, hnext, hless⟩ := hstep state hinit
    · exact ⟨[], by simp, Nat.zero_le _, hgoal⟩
    · obtain ⟨inputs, hinputs, hlength, hgoal⟩ := ih _ (hleft ▸ hless) hnext rfl
      refine ⟨input :: inputs, List.forall_mem_cons.mpr ⟨hallowed, hinputs⟩, ?_, hgoal⟩
      rw [List.length_cons]
      omega

/-- What a step brings about in exactly the situations that trigger it. -/
theorem foldl_iff_triggered {P : σ → Prop} {Trigger : σ → ι → Prop}
    (hstep : ∀ state input, P (step state input) ↔ P state ∨ Trigger state input) (state : σ)
    (inputs : List ι) : P (inputs.foldl step state) ↔ P state ∨
      ∃ before input after, inputs = before ++ input :: after ∧
        Trigger (before.foldl step state) input := by
  induction inputs generalizing state with
  | nil => simp
  | cons input inputs ih =>
    rw [List.foldl_cons, ih, hstep, or_assoc]
    refine or_congr_right ⟨?_, ?_⟩
    · rintro (htrigger | ⟨before, later, after, rfl, htrigger⟩)
      · exact ⟨[], input, inputs, rfl, htrigger⟩
      · exact ⟨input :: before, later, after, rfl, htrigger⟩
    · rintro ⟨before, later, after, heq, htrigger⟩
      cases before with
      | nil =>
        cases heq
        exact .inl htrigger
      | cons first before =>
        cases heq
        exact .inr ⟨before, later, after, rfl, htrigger⟩

variable (step) in
/-- Every step of the run is taken where the condition allows it. -/
def EveryStep (P : σ → ι → Prop) : σ → List ι → Prop
  | _, [] => True
  | state, input :: inputs => P state input ∧ EveryStep P (step state input) inputs

instance EveryStep.decidable {P : σ → ι → Prop} [∀ state input, Decidable (P state input)] :
    (state : σ) → (inputs : List ι) → Decidable (EveryStep step P state inputs)
  | _, [] => isTrue trivial
  | state, input :: inputs =>
    have : Decidable (EveryStep step P (step state input) inputs) :=
      EveryStep.decidable (step state input) inputs
    inferInstanceAs (Decidable (P state input ∧ EveryStep step P (step state input) inputs))

/-- What the steps that are allowed preserve. -/
theorem EveryStep.invariant {P : σ → ι → Prop} {Q : σ → Prop}
    (hstep : ∀ state input, P state input → Q state → Q (step state input)) {state : σ}
    {inputs : List ι} (hevery : EveryStep step P state inputs) (hinit : Q state) :
    Q (inputs.foldl step state) := by
  induction inputs generalizing state with
  | nil => exact hinit
  | cons input inputs ih => exact ih hevery.2 (hstep state input hevery.1 hinit)

/-- A machine that can always take an allowed step towards its goal gets there, in as many steps as are
left. -/
theorem EveryStep.exists_of_progress {P : σ → ι → Prop} {Q Goal : σ → Prop} {left : σ → ℕ}
    (hstep : ∀ state input, P state input → Q state → Q (step state input))
    (hprogress : ∀ state, Q state → Goal state ∨
      ∃ input, P state input ∧ left (step state input) < left state) {state : σ} (hinit : Q state) :
    ∃ inputs, EveryStep step P state inputs ∧ inputs.length ≤ left state ∧
      Goal (inputs.foldl step state) := by
  induction hleft : left state using Nat.strongRecOn generalizing state with
  | ind bound ih =>
    obtain hgoal | ⟨input, hallowed, hless⟩ := hprogress state hinit
    · exact ⟨[], trivial, Nat.zero_le _, hgoal⟩
    · obtain ⟨inputs, hinputs, hlength, hgoal⟩ :=
        ih _ (hleft ▸ hless) (hstep state input hallowed hinit) rfl
      refine ⟨input :: inputs, ⟨hallowed, hinputs⟩, ?_, hgoal⟩
      rw [List.length_cons]
      omega

/-- Two conditions that come to the same along the runs they allow. -/
theorem EveryStep.congr {P P' : σ → ι → Prop} {Q : σ → Prop}
    (hstep : ∀ state input, P state input → Q state → Q (step state input))
    (hiff : ∀ state input, Q state → (P state input ↔ P' state input)) {state : σ}
    (hinit : Q state) (inputs : List ι) :
    EveryStep step P state inputs ↔ EveryStep step P' state inputs := by
  induction inputs generalizing state with
  | nil => exact Iff.rfl
  | cons input inputs ih =>
    refine Iff.trans (and_congr_right fun hallowed ↦ ih (hstep state input hallowed hinit)) ?_
    exact and_congr_left fun _ ↦ hiff state input hinit

end Foundation
