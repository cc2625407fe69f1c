import Ldm7.Down7.Session

/-! The state of a Down7 under `down7_start`, `down7_stop` and `down7_free`, at the
granularity of their `stateMutex` critical sections. Only three sections write the
state: `down7_start`'s first, which leaves `DOWN7_INITIALIZED` for `DOWN7_EXECUTING`,
its last, which writes `DOWN7_STOPPED` once its loop has ended, and `down7_stop`'s
first, which writes `DOWN7_STOPPING`. -/
namespace Ldm7
namespace Lifecycle

open Session

inductive StartPc
  | idle | running | returned
  deriving DecidableEq

structure Life where
  state : Down7State
  start : StartPc
  deriving DecidableEq

def Life.init : Life := ⟨.initialized,.idle⟩

inductive Section
  | startEnter
  | startExit
  | stopSet
  deriving DecidableEq

def step (l : Life) : Section → Life
  | .startEnter =>
    match l.start with
    | .idle => if l.state = .initialized then ⟨.executing,.running⟩ else ⟨l.state,.returned⟩
    | _ => l
  | .startExit =>
    match l.start with
    | .running => ⟨.stopped,.returned⟩
    | _ => l
  | .stopSet => { l with state := .stopping }

def run (l : Life) (ss : List Section) : Life := ss.foldl step l

/-- `down7_free`: `LDM7_INVAL` unless the state is `DOWN7_INITIALIZED` or
`DOWN7_STOPPED`. -/
def down7Free (state : Down7State) : Ldm7Status :=
  if state ≠ .initialized ∧ state ≠ .stopped then .inval else .ok

/-- What holds at each point of `down7_start` when every `down7_stop` runs while it
runs: untouched before, executing or stopping during, stopped after. -/
def StartInv (l : Life) : Prop :=
  match l.start with
  | .idle => l.state = .initialized
  | .running => l.state = .executing ∨ l.state = .stopping
  | .returned => l.state = .stopped

/-- A section that keeps `StartInv`: any but a `down7_stop` outside `down7_start`. -/
def Section.During (l : Life) : Section → Prop
  | .stopSet => l.start = .running
  | _ => True

theorem startInv_step {l : Life} {s : Section} (hs : s.During l) (h : StartInv l) :
    StartInv (step l s) := by
  rcases l with ⟨st,_|_|_⟩ <;> cases s <;> simp_all [StartInv,step,Section.During]

/-- Interleavings whose every `down7_stop` lands while `down7_start` runs. -/
def StopsDuring : Life → List Section → Prop
  | _, [] => True
  | l, s :: ss => s.During l ∧ StopsDuring (step l s) ss

theorem startInv_run {l : Life} {ss : List Section} (hs : StopsDuring l ss) (h : StartInv l) :
    StartInv (run l ss) := by
  induction ss generalizing l with
  | nil => exact h
  | cons s ss ih => exact ih hs.2 (startInv_step hs.1 h)

/-- If every `down7_stop` takes the lock while `down7_start` runs, then once
`down7_start` has returned the state is `DOWN7_STOPPED` and `down7_free` succeeds. -/
theorem down7Free_ok_of_stops_during (ss : List Section) (h : StopsDuring Life.init ss)
    (hret : (run Life.init ss).start = .returned) :
    (run Life.init ss).state = .stopped ∧ down7Free (run Life.init ss).state = .ok := by
  have hinv := startInv_run h (rfl : StartInv Life.init)
  simp only [StartInv,hret] at hinv
  exact ⟨hinv,by simp [down7Free,hinv]⟩

theorem down7Free_ok_of_stops_during_example :
    let ss : List Section := [.startEnter,.stopSet,.startExit]
    StopsDuring Life.init ss ∧ (run Life.init ss).start = .returned ∧
      (run Life.init ss).state = .stopped ∧ down7Free (run Life.init ss).state = .ok :=
  ⟨⟨trivial,rfl,trivial,trivial⟩,rfl,down7Free_ok_of_stops_during _ ⟨trivial,rfl,trivial,trivial⟩ rfl⟩

/-- `down7_stop` before `down7_start` takes the lock, or after it has returned, leaves
`DOWN7_STOPPING`, on which `down7_free` fails with `LDM7_INVAL`. -/
theorem down7Free_fails_after_stray_stop :
    (run Life.init [.stopSet,.startEnter]).start = .returned ∧
      down7Free (run Life.init [.stopSet,.startEnter]).state = .inval ∧
    (run Life.init [.startEnter,.startExit,.stopSet]).start = .returned ∧
      down7Free (run Life.init [.startEnter,.startExit,.stopSet]).state = .inval := by
  decide

end Lifecycle
end Ldm7
