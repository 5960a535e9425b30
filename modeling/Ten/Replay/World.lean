import Ten.Replay.Repository
import Ten.Replay.Service

namespace Ten.Replay

open Control

/-! # A world of replay commands

One session with its repository and engines that answer as functions of their state.
Commands are obeyed one after the other, and a pause may land wherever a run reads the
session at a group boundary. -/

variable {P : Type}

/-- The engines, and what a new bus and feature store make of their state. -/
structure ReplayEngines (P : Type) where
  deliver : P → ReplayEvent → Timestamp → Except PythonException (List ReplayGeneratedEvent) × P
  process : P → String → ReplayEvent → Timestamp →
    Except PythonException ReplayProcessingResult × P
  renew : P → P

/-- The state of the engines, with the source events that the bus was given. -/
structure EngineBench (P : Type) where
  engines : P
  delivered : List HistoricalEvent := []

def ReplayEvent.source : ReplayEvent → List HistoricalEvent
  | .historical event => [event]
  | .generated _ => []

def ReplayEngines.answer (engines : ReplayEngines P) (bench : EngineBench P) :
    (op : ReplayCall) → Option (Except PythonError op.Reply × EngineBench P)
  | .openIsolation => some (.ok (), { bench with engines := engines.renew bench.engines })
  | .deliver event moment =>
      let done := engines.deliver bench.engines event moment
      some (done.1.mapError .exception, ⟨done.2, bench.delivered ++ event.source⟩)
  | .process engine event moment =>
      let done := engines.process bench.engines engine event moment
      some (done.1.mapError .exception, { bench with engines := done.2 })
  | _ => none

/-- The engines, and the operational clock at its successive readings. -/
structure ReplayEnvironment (P : Type) where
  engines : ReplayEngines P
  now : Nat → Timestamp

structure ReplayWorld (P : Type) where
  store : ReplayStore
  bench : EngineBench P
  /-- At which of the next boundaries a pause lands. -/
  pauses : List Bool := []
  readings : Nat := 0

namespace ReplayWorld

def otherwise (environment : ReplayEnvironment P) (world : ReplayWorld P) :
    (op : ReplayCall) → Except PythonError op.Reply × ReplayWorld P
  | .now => (.ok (environment.now world.readings), { world with readings := world.readings + 1 })
  | .wait _ => (.ok (), world)
  | .closeEventBus => (.ok (), world)
  | .closeFeatureStore => (.ok (), world)
  | .announce _ _ => (.ok (), world)
  -- No other call comes here.
  | _ => (.error .cancelled, world)

def perform (kind : ReplayRepositoryKind) (environment : ReplayEnvironment P)
    (world : ReplayWorld P) (op : ReplayCall) : Except PythonError op.Reply × ReplayWorld P :=
  match world.store.perform kind op with
  | some (reply, store) => (reply, { world with store := store })
  | none =>
      match environment.engines.answer world.bench op with
      | some (reply, bench) => (reply, { world with bench := bench })
      | none => world.otherwise environment op

variable {host : ReplayHost} (coordinator : ReplayCoordinator host)
  (environment : ReplayEnvironment P)

def paused (world : ReplayWorld P) : ReplayWorld P :=
  let rest := { world with pauses := world.pauses.tail }
  if world.pauses.headD false then
    ((ReplayService.pause coordinator).run (perform coordinator.kind environment) rest).2
  else rest

def answer (world : ReplayWorld P) :
    (op : ReplayCall) → Except PythonError op.Reply × ReplayWorld P
  | .session .boundary =>
      (world.paused coordinator environment).perform coordinator.kind environment (.session .boundary)
  | .session .finish =>
      (world.paused coordinator environment).perform coordinator.kind environment (.session .finish)
  | op => world.perform coordinator.kind environment op

end ReplayWorld

inductive ReplayCommand where
  | start
  | pause
  | resume
  | step (units : Nat) (workerId : String) (pauses : List Bool)
  | run (workerId : String) (pauses : List Bool)
deriving DecidableEq

namespace ReplayCommand

def task {host : ReplayHost} (coordinator : ReplayCoordinator host) :
    ReplayCommand → ReplayTask ReplaySession
  | .start => ReplayService.commandStart coordinator
  | .pause => ReplayService.pause coordinator
  | .resume => ReplayService.resume coordinator
  | .step units workerId _ => ReplayService.step coordinator units workerId
  | .run workerId _ => ReplayService.run coordinator workerId

def pauses : ReplayCommand → List Bool
  | .step _ _ pauses => pauses
  | .run _ pauses => pauses
  | _ => []

end ReplayCommand

namespace ReplayWorld

variable {host : ReplayHost} (coordinator : ReplayCoordinator host)
  (environment : ReplayEnvironment P)

def obey (world : ReplayWorld P) (command : ReplayCommand) : ReplayWorld P :=
  ((command.task coordinator).run (answer coordinator environment)
    { world with pauses := command.pauses }).2

def obeyAll (world : ReplayWorld P) (commands : List ReplayCommand) : ReplayWorld P :=
  commands.foldl (obey coordinator environment) world

end ReplayWorld

end Ten.Replay
