import Registrar.Registry.Program
import Mathlib.Data.List.Basic

/-!
# Programs among each other

Several programs share one store and make their calls in whatever order a schedule says. The calls
are logged, so that the state at each moment is the one after the calls up to then. A program that
makes at most so many calls has returned after as many turns, whatever the others do.
-/

namespace Registrar

/-- Programs under way: what each still has to do, the state that they share, and the calls answered so far, each with the number of the program that made it. -/
structure Interleaving (I : Interface) (α σ : Type) where
  programs : List (Program I α)
  state : σ
  log : List (Nat × I.Call)

namespace Interleaving

variable {I : Interface} {α σ : Type}

def start (programs : List (Program I α)) (state : σ) : Interleaving I α σ :=
  ⟨programs, state, []⟩

def step (handler : I.Handler σ) (current : Interleaving I α σ) (number : Nat) :
    Interleaving I α σ :=
  match current.programs[number]? with
  | some (.call request next) =>
    let (reply, state) := handler request current.state
    ⟨current.programs.set number (next reply), state, current.log ++ [(number, request)]⟩
  | _ => current

def run (handler : I.Handler σ) (current : Interleaving I α σ) (schedule : List Nat) :
    Interleaving I α σ :=
  schedule.foldl (step handler) current

def Returned (current : Interleaving I α σ) (number : Nat) : Prop :=
  ∃ result, current.programs[number]? = some (.done result)

def replay (handler : I.Handler σ) (state : σ) (log : List (Nat × I.Call)) : σ :=
  log.foldl (fun state entry => (handler entry.2 state).2) state

section Step

variable {handler : I.Handler σ} {current : Interleaving I α σ} {number turn : Nat}

theorem step_of_call {request : I.Call} {next : I.Reply request → Program I α}
    (hprogram : current.programs[turn]? = some (.call request next)) :
    current.step handler turn
      = ⟨current.programs.set turn (next (handler request current.state).1),
          (handler request current.state).2, current.log ++ [(turn, request)]⟩ := by
  unfold step
  rw [hprogram]

theorem step_of_done (handler : I.Handler σ) {result : α}
    (hprogram : current.programs[turn]? = some (.done result)) :
    current.step handler turn = current := by
  unfold step
  rw [hprogram]

/-- A step answers the call that the program makes next, or changes nothing. -/
theorem step_cases (handler : I.Handler σ) (current : Interleaving I α σ) (turn : Nat) :
    (∃ request next, current.programs[turn]? = some (.call request next) ∧
      current.step handler turn
        = ⟨current.programs.set turn (next (handler request current.state).1),
            (handler request current.state).2, current.log ++ [(turn, request)]⟩)
    ∨ current.step handler turn = current := by
  match hprogram : current.programs[turn]? with
  | none =>
      right
      unfold step
      rw [hprogram]
  | some (.done result) => exact Or.inr (step_of_done handler hprogram)
  | some (.call request next) => exact Or.inl ⟨request, next, rfl, step_of_call hprogram⟩

theorem getElem?_step_self {request : I.Call} {next : I.Reply request → Program I α}
    (hprogram : current.programs[turn]? = some (.call request next)) :
    (current.step handler turn).programs[turn]?
      = some (next (handler request current.state).1) := by
  obtain ⟨hlength, -⟩ := List.getElem?_eq_some_iff.mp hprogram
  rw [step_of_call hprogram]
  exact List.getElem?_set_self hlength

theorem getElem?_step_of_ne (hother : turn ≠ number) :
    (current.step handler turn).programs[number]? = current.programs[number]? := by
  obtain ⟨request, next, -, hstep⟩ | hstep := step_cases handler current turn
  · rw [hstep]
    exact List.getElem?_set_ne hother
  · rw [hstep]

end Step

section Run

variable {handler : I.Handler σ}

/-- What holds at the start and is kept by each step holds after every run. -/
theorem run_induction {motive : Interleaving I α σ → Prop} {current : Interleaving I α σ}
    (hcurrent : motive current)
    (hstep : ∀ current number, motive current → motive (current.step handler number))
    (schedule : List Nat) : motive (current.run handler schedule) := by
  induction schedule generalizing current with
  | nil => exact hcurrent
  | cons number schedule ih => exact ih (hstep current number hcurrent)

theorem replay_concat (handler : I.Handler σ) (state : σ) (log : List (Nat × I.Call))
    (entry : Nat × I.Call) :
    replay handler state (log ++ [entry]) = (handler entry.2 (replay handler state log)).2 :=
  List.foldl_concat ..

/-- The log says all there is to say about the state that the programs share. -/
theorem state_step {state : σ} {current : Interleaving I α σ}
    (hstate : current.state = replay handler state current.log) (turn : Nat) :
    (current.step handler turn).state = replay handler state (current.step handler turn).log := by
  obtain ⟨request, next, -, hstep⟩ | hstep := step_cases handler current turn
  · rw [hstep, replay_concat, ← hstate]
  · rw [hstep]
    exact hstate

end Run

end Interleaving

inductive Program.Within {I : Interface} {α : Type} : Nat → Program I α → Prop where
  | done {bound : Nat} (result : α) : Within bound (.done result)
  | call {bound : Nat} {request : I.Call} {next : I.Reply request → Program I α}
      (hnext : ∀ reply, Within bound (next reply)) : Within (bound + 1) (.call request next)

/-- A program that makes at most so many calls has returned after as many turns. -/
theorem Interleaving.returned_of_within {I : Interface} {α σ : Type} {handler : I.Handler σ}
    {current : Interleaving I α σ} {number bound : Nat} {program : Program I α}
    (hprogram : current.programs[number]? = some program) (hwithin : program.Within bound)
    {schedule : List Nat} (hturns : bound ≤ schedule.count number) :
    (current.run handler schedule).Returned number := by
  -- The bound goes down by one with each turn of the program; the others do not touch it.
  induction schedule generalizing current bound program with
  | nil =>
      rw [List.count_nil, Nat.le_zero] at hturns
      subst hturns
      cases hwithin with
      | done result => exact ⟨result, hprogram⟩
  | cons turn schedule ih =>
      by_cases hturn : turn = number
      · subst hturn
        rw [List.count_cons_self] at hturns
        cases hwithin with
        | done result =>
            have hdone : Program.Within 0 (.done result : Program I α) := .done result
            have hstep : (current.step handler turn).programs[turn]? = some (.done result) := by
              rw [step_of_done handler hprogram, hprogram]
            exact ih hstep hdone (Nat.zero_le _)
        | call hnext =>
            exact ih (getElem?_step_self hprogram) (hnext _) (Nat.le_of_succ_le_succ hturns)
      · rw [List.count_cons_of_ne hturn] at hturns
        exact ih ((getElem?_step_of_ne hturn).trans hprogram) hwithin hturns

end Registrar
