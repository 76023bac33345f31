import JobImages.SystemError

/-!
# How a process ends

A process that ran either exits with a code or is ended by a signal.  One that could not be started
has not ended at all; what the system said is then all there is to tell.

## Main definitions

* `Engine.Ending` — the end of a process, and whether it was a success;
* `Engine.Failure` — why a command of the engine did not succeed.
-/

namespace JobImages.Engine

/-- The end of a process. -/
inductive Ending where
  /-- It exited with a code. -/
  | exited (code : Nat)
  /-- A signal ended it. -/
  | signalled (number : Nat)
  deriving DecidableEq

namespace Ending

/-- Only the exit code zero is a success. -/
def isSuccess : Ending → Bool
  | .exited code => code == 0
  | .signalled _ => false

/-- The names of the signals. -/
def signalNames : List (Nat × String) :=
  [(1, "SIGHUP"), (2, "SIGINT"), (3, "SIGQUIT"), (4, "SIGILL"), (5, "SIGTRAP"), (6, "SIGABRT"),
    (7, "SIGBUS"), (8, "SIGFPE"), (9, "SIGKILL"), (10, "SIGUSR1"), (11, "SIGSEGV"), (12, "SIGUSR2"),
    (13, "SIGPIPE"), (14, "SIGALRM"), (15, "SIGTERM"), (16, "SIGSTKFLT"), (17, "SIGCHLD"),
    (18, "SIGCONT"), (19, "SIGSTOP"), (20, "SIGTSTP"), (21, "SIGTTIN"), (22, "SIGTTOU"),
    (23, "SIGURG"), (24, "SIGXCPU"), (25, "SIGXFSZ"), (26, "SIGVTALRM"), (27, "SIGPROF"),
    (28, "SIGWINCH"), (29, "SIGIO"), (30, "SIGPWR"), (31, "SIGSYS")]

/-- The text of an ending. -/
def message : Ending → String
  | .exited code => s!"exit status: {code}"
  | .signalled number =>
    match signalNames.lookup number with
    | some name => s!"signal: {number} ({name})"
    | none => s!"signal: {number}"

end Ending

/-- Why a command did not succeed. -/
inductive Failure where
  /-- Its process could not be started. -/
  | notStarted (cause : SystemError)
  /-- Its process ended otherwise than it should. -/
  | ended (ending : Ending)
  /-- Something else, in words. -/
  | stated (text : String)
  deriving DecidableEq

/-- The wording of a failure. -/
def Failure.message : Failure → String
  | .notStarted cause => cause.message
  | .ended ending => ending.message
  | .stated text => text

end JobImages.Engine
