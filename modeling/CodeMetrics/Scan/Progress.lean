/-! The progress of a scan: what is reported, and how it is logged. -/

namespace CodeMetrics

inductive LogLevel where
  | info
  | warn
  deriving DecidableEq, Repr

structure LogLine where
  level : LogLevel
  text : String
  deriving DecidableEq, Repr

def LogLine.display (line : LogLine) : String :=
  (match line.level with
    | .info => "INFO "
    | .warn => "WARN ") ++ line.text

inductive ProgressEvent where
  | started (total : Nat)
  | advanced (done : Nat)
  | stopped
  /-- The scan was cancelled or given up. -/
  | cancelled
  deriving DecidableEq, Repr

def ProgressEvent.display : ProgressEvent → String
  | .started total => "start " ++ toString total
  | .advanced done => "progress " ++ toString done
  | .stopped => "stop"
  | .cancelled => "cancel"

structure ProgressLog where
  total : Nat := 0
  done : Nat := 0
  isRunning : Bool := false
  deriving DecidableEq, Repr

namespace ProgressLog

def share (log : ProgressLog) : String :=
  toString log.done ++ "/" ++ toString log.total

/-- Takes in a report, and logs the start and the end of a scan. `elapsed` tells how long the scan
took. -/
def receive (elapsed : String) (log : ProgressLog) : ProgressEvent → ProgressLog × List LogLine
  | .started total =>
    ({ total, done := 0, isRunning := true },
      [⟨.info, toString total ++ " source files to be analyzed"⟩])
  | .advanced done => ({ log with done }, [])
  | .stopped =>
    ({ log with isRunning := false },
      [⟨.info, log.share ++ " source files have been analyzed in " ++ elapsed⟩])
  | .cancelled =>
    ({ log with isRunning := false },
      [⟨.warn, "Analysis interrupted after " ++ log.share ++ " files"⟩])

end ProgressLog

end CodeMetrics
