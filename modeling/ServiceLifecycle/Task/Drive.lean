import ServiceLifecycle.Task.Scheduler

/-!
# Driving a scheduler

One way of choosing moves: those possible at the present moment are made until
none is left, round by round. The tasks that can move when a round begins have their turn
in it, each going on as long as it can; whom they set going has its turn in the next.
Only then does time pass, to the next moment at which a sleeper wakes. A driver
waits for something to become true and gives up after a given time.
-/

namespace ServiceLifecycle

variable {ι κ σ : Type}

/-- A bound on the moves a task can make before it sleeps or ends. -/
def Task.movesLeft (t : Task ι κ) : Nat :=
  match t.stage with
  | .queued => t.gates.length + 4
  | .gated remaining => remaining.length + 3
  | .waiting => 2
  | .running _ _ => 1
  | .ended _ | .external _ | .dropped _ => 0

namespace Scheduler

/-- A bound on the moves that can be made at the present moment. -/
def movesLeft (s : Scheduler ι κ) : Nat :=
  s.tasks.foldl (fun n t => n + t.movesLeft) 0

/-- Lets one task make its moves until it can make none, at most so many. -/
def moveOn (work : Workload ι κ σ) (i : TaskId) :
    Nat → Scheduler ι κ → σ → Scheduler ι κ × σ
  | 0, s, env => (s, env)
  | moves + 1, s, env =>
    match move work i s env with
    | none => (s, env)
    | some (s, env) => moveOn work i moves s env

/-- The tasks that can move. -/
def ready (work : Workload ι κ σ) (s : Scheduler ι κ) (env : σ) : List TaskId :=
  (List.range s.tasks.size).filter fun i => (move work i s env).isSome

/-- Lets the tasks that can move do so one after the other, each as far as it can. -/
def sweep (work : Workload ι κ σ) (s : Scheduler ι κ) (env : σ) : Scheduler ι κ × σ :=
  (ready work s env).foldl
    (fun p i => moveOn work i ((p.1.tasks[i]?).elim 0 Task.movesLeft) p.1 p.2)
    (s, env)

/-- Sweeps until a sweep brings no task further, at most so often. -/
def settleWithin (work : Workload ι κ σ) : Nat → Scheduler ι κ → σ → Scheduler ι κ × σ
  | 0, s, env => (s, env)
  | sweeps + 1, s, env =>
    let p := sweep work s env
    if p.1.movesLeft = s.movesLeft then p else settleWithin work sweeps p.1 p.2

/-- Makes every move that is possible at the present moment. -/
def settle (work : Workload ι κ σ) (s : Scheduler ι κ) (env : σ) : Scheduler ι κ × σ :=
  settleWithin work s.movesLeft s env

/-- The next moment at which a sleeper wakes. -/
def nextWake? (s : Scheduler ι κ) : Option Nat :=
  s.tasks.foldl
    (fun next t =>
      match t.stage with
      | .running (some wake) _ => some (next.elim wake (min wake))
      | _ => next)
    none

/-- Lets time pass to a later moment. -/
def passTo (s : Scheduler ι κ) (moment : Nat) : Scheduler ι κ :=
  { s with now := max s.now moment }

/-- Lets time pass until the deadline, which comes at most `span` moments later. At each
moment at which a sleeper wakes everything possible is done. -/
def runUntil (work : Workload ι κ σ) (deadline : Nat) :
    Nat → Scheduler ι κ → σ → Scheduler ι κ × σ
  | 0, s, env => (s, env)
  | span + 1, s, env =>
    match s.nextWake? with
    | none => (s.passTo deadline, env)
    | some wake =>
      if wake ≤ deadline then
        let p := settle work (s.passTo wake) env
        runUntil work deadline span p.1 p.2
      else (s.passTo deadline, env)

/-- Lets the given time pass. -/
def advance (work : Workload ι κ σ) (time : Nat) (s : Scheduler ι κ) (env : σ) :
    Scheduler ι κ × σ :=
  let p := settle work s env
  let q := runUntil work (p.1.now + time) (time + 1) p.1 p.2
  settle work (q.1.passTo (p.1.now + time)) q.2

/-- Lets time pass until `done` tells something, but stays before the deadline, which
comes at most `span` moments later. -/
def waitUntil {α : Type} (work : Workload ι κ σ) (done : Scheduler ι κ → σ → Option α)
    (deadline : Nat) : Nat → Scheduler ι κ → σ → Option α × Scheduler ι κ × σ
  | 0, s, env => (none, s, env)
  | span + 1, s, env =>
    match done s env with
    | some a => (some a, s, env)
    | none =>
      match s.nextWake? with
      | none => (none, s.passTo deadline, env)
      | some wake =>
        if wake < deadline then
          let p := settle work (s.passTo wake) env
          waitUntil work done deadline span p.1 p.2
        else (none, s.passTo deadline, env)

/-- Waits until `done` tells something, at most for the given time. What becomes true only
at the last moment comes too late. Whatever is left to do at that moment is done after
the decision. Without a time only what needs no time is waited for. -/
def waitFor {α : Type} (work : Workload ι κ σ) (done : Scheduler ι κ → σ → Option α)
    (time : Option Nat) (s : Scheduler ι κ) (env : σ) : Option α × Scheduler ι κ × σ :=
  let decided : Option α × Scheduler ι κ × σ :=
    match done s env, time with
    | some a, _ => (some a, s, env)
    | none, none =>
        let p := settle work s env
        (done p.1 p.2, p.1, p.2)
    | none, some 0 => (none, s, env)
    | none, some time =>
        let p := settle work s env
        waitUntil work done (p.1.now + time) (time + 1) p.1 p.2
  let p := settle work decided.2.1 decided.2.2
  (decided.1, p.1, p.2)

end Scheduler

end ServiceLifecycle
