import Stepwise.Engine.Basic
/-!
# Runs side by side

Several runs go on together. Each is carried on until one of its steps has to wait; when all wait, what
they wait for is brought about, and they go on in the same order. Runs that wait for one load share it.
-/

namespace Stepwise

/-- A run on its way. -/
structure Progress where
  recipe : Recipe
  context : Addr
  /-- The steps that are not over. If something is waited for, it is for the first of them. -/
  left : List Step
  pause : Option Pause

namespace Progress

/-- Is there nothing left to do? -/
def isOver (r : Progress) : Bool := r.left.isEmpty

end Progress

namespace Engine

/-- Carries the steps of a run on until one of them has to wait: those that are left, and what the first of
them waits for. -/
def carryOn (p : Platform) (e : Engine) (context : Addr) : List Step → Run (List Step × Option Pause)
  | [] => return ([], none)
  | step :: rest => do
    let x ← e.announce step
    match ← guarded step context none (x.start p step context) with
    | some pause => return (step :: rest, some pause)
    | none => e.carryOn p context rest

/-- Goes on with a run. -/
def resume (p : Platform) (e : Engine) (r : Progress) : Run Progress := do
  if r.isOver then return r
  let todo ← match r.pause, r.left with
    | some pause, step :: rest => do
      guarded step r.context () ((e.registry.get step.engine).finish p step r.context pause)
      pure rest
    | _, steps => pure steps
  let (left, pause) ← e.carryOn p r.context todo
  if left.isEmpty then closeRun r.recipe
  return { r with left, pause }

/-- Begins a run and carries it on until it has to wait. -/
def enter (p : Platform) (e : Engine) (recipe : Recipe) (inputs extra : Value) : Run Progress := do
  let context ← openRun p recipe inputs extra
  let (left, pause) ← e.carryOn p context recipe.steps
  if left.isEmpty then closeRun recipe
  return ⟨recipe, context, left, pause⟩

/-- What all wait for is brought about, and then all go on. -/
def turn (p : Platform) (e : Engine) (runs : List Progress) : Run (List Progress) := do
  runs.forM fun r => match r.pause with
    | some pause => pause.await
    | none => pure ()
  runs.mapM (e.resume p)

/-- Takes turns until nothing is left; in every turn each run ends a step at least. -/
def turns (p : Platform) (e : Engine) : Nat → List Progress → Run (List Progress)
  | 0, runs => return runs
  | n + 1, runs => do
    if runs.all Progress.isOver then return runs
    turns p e n (← e.turn p runs)

/-- Executes recipes side by side, each with its inputs: their contexts. -/
def executeAll (p : Platform) (e : Engine) (jobs : List (Recipe × Value)) : Run (List Addr) := do
  let runs ← jobs.mapM fun (recipe, inputs) => e.enter p recipe inputs .null
  let most := (jobs.map fun (recipe, _) => recipe.steps.length).foldl max 0
  return (← e.turns p most runs).map (·.context)

end Engine

end Stepwise
