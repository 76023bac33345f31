import JobImages.Engine.Call
import JobImages.Http.Request
import JobImages.JobDirectory
import JobImages.Log.Basic
import JobImages.Metadata

/-!
# Traces

A run takes steps and has effects, in one order of time.  Steps are what the run itself decides on:
to list the jobs, to read a directory's metadata, to call the engine, to submit a batch.  Effects
are what others see of it: output, remarks, processes, requests.

## Main definitions

* `Step`, `Effect`, `Event`, `Trace` — what happens, in order;
* `Trace.steps`, `Trace.calls`, `Trace.batches` — what the run decided on;
* `Trace.output`, `Trace.errorOutput`, `Trace.processes`, `Trace.requests` — what others saw.
-/

namespace JobImages

/-- A step that a run decides on. -/
inductive Step where
  /-- To list the jobs. -/
  | list
  /-- To read the metadata of a directory. -/
  | read (job : JobDirectory)
  /-- To call the container engine. -/
  | call (call : Engine.Call)
  /-- To submit a batch to the coordinator. -/
  | submit (batch : List Metadata)

/-- What is seen of a run. -/
inductive Effect where
  /-- A line on standard output. -/
  | printed (text : String)
  /-- A line on standard error. -/
  | reported (text : String)
  /-- A remark. -/
  | logged (record : Log.Record)
  /-- A pause, in milliseconds. -/
  | waited (time : Nat)
  /-- A process that is started. -/
  | started (process : Engine.Launch)
  /-- Bytes that a process writes to standard output. -/
  | wroteOutput (bytes : List UInt8)
  /-- Bytes that a process writes to standard error. -/
  | wroteError (bytes : List UInt8)
  /-- A request that is sent. -/
  | sent (request : Http.Request)
  deriving DecidableEq

/-- What happens at one time. -/
inductive Event where
  /-- A step of the run. -/
  | step (step : Step)
  /-- Something that is seen of it. -/
  | effect (effect : Effect)

/-- What happens, in order. -/
abbrev Trace := List Event

namespace Effect

/-- The bytes of a line. -/
def lineBytes (text : String) : List UInt8 :=
  Text.toBytes text ++ [10]

/-- What an effect adds to standard output. -/
def output : Effect → List UInt8
  | .printed text => lineBytes text
  | .wroteOutput bytes => bytes
  | _ => []

/-- What an effect adds to standard error, remarks as the filter admits them. -/
def errorOutput (admits : Log.Record → Bool) : Effect → List UInt8
  | .reported text => lineBytes text
  | .wroteError bytes => bytes
  | .logged record => if admits record then lineBytes record.line else []
  | _ => []

/-- The process that is started. -/
def process? : Effect → Option Engine.Launch
  | .started process => some process
  | _ => none

/-- The request that is sent. -/
def request? : Effect → Option Http.Request
  | .sent request => some request
  | _ => none

end Effect

namespace Event

/-- The step, if it is one. -/
def step? : Event → Option Step
  | .step taken => some taken
  | .effect _ => none

/-- The effect, if it is one. -/
def effect? : Event → Option Effect
  | .step _ => none
  | .effect seen => some seen

end Event

namespace Step

/-- The engine's call, if the step is one. -/
def call? : Step → Option Engine.Call
  | .call asked => some asked
  | _ => none

/-- The batch that is submitted, if the step does that. -/
def batch? : Step → Option (List Metadata)
  | .submit batch => some batch
  | _ => none

end Step

namespace Trace

/-- The steps in order. -/
def steps (trace : Trace) : List Step :=
  trace.filterMap Event.step?

/-- The effects in order. -/
def effects (trace : Trace) : List Effect :=
  trace.filterMap Event.effect?

/-- The engine calls in order. -/
def calls (trace : Trace) : List Engine.Call :=
  trace.steps.filterMap Step.call?

/-- The batches in order. -/
def batches (trace : Trace) : List (List Metadata) :=
  trace.steps.filterMap Step.batch?

/-- The bytes of standard output. -/
def output (trace : Trace) : List UInt8 :=
  trace.effects.flatMap Effect.output

/-- The bytes of standard error, with the remarks that a filter admits. -/
def errorOutput (admits : Log.Record → Bool) (trace : Trace) : List UInt8 :=
  trace.effects.flatMap (Effect.errorOutput admits)

/-- The processes in the order in which they were started. -/
def processes (trace : Trace) : List Engine.Launch :=
  trace.effects.filterMap Effect.process?

/-- The requests in the order in which they were sent. -/
def requests (trace : Trace) : List Http.Request :=
  trace.effects.filterMap Effect.request?

@[simp] theorem steps_append (s t : Trace) : steps (s ++ t) = steps s ++ steps t :=
  List.filterMap_append

@[simp] theorem effects_append (s t : Trace) : effects (s ++ t) = effects s ++ effects t :=
  List.filterMap_append

@[simp] theorem calls_append (s t : Trace) : calls (s ++ t) = calls s ++ calls t := by
  simp [calls]

@[simp] theorem batches_append (s t : Trace) : batches (s ++ t) = batches s ++ batches t := by
  simp [batches]

@[simp] theorem output_append (s t : Trace) : output (s ++ t) = output s ++ output t := by
  simp [output]

@[simp] theorem errorOutput_append (admits : Log.Record → Bool) (s t : Trace) :
    errorOutput admits (s ++ t) = errorOutput admits s ++ errorOutput admits t := by
  simp [errorOutput]

@[simp] theorem processes_append (s t : Trace) :
    processes (s ++ t) = processes s ++ processes t := by
  simp [processes]

@[simp] theorem requests_append (s t : Trace) : requests (s ++ t) = requests s ++ requests t := by
  simp [requests]

end Trace

end JobImages
