import MotionScript.Device.Reply
import MotionScript.Run.Event
import MotionScript.Run.Options

/-!
# Options and snapshots as JSON
-/

namespace MotionScript

/-- Options as JSON. -/
def Options.toJson (o : Options) : Json :=
  .obj [("skip_errors", .bool o.skipErrors), ("max_retries", .nat o.maxRetries),
    ("sync_timeout", .nat o.syncTimeout), ("pause_on_error", .bool o.pauseOnError),
    ("enable_performance_monitoring", .bool o.monitoring), ("command_spacing", .nat o.spacing)]

/-- A snapshot as JSON, with the points in time and the time remaining written by the functions
given. -/
def Snapshot.toJsonWith (time : Option Int → Json) (span : Option Nat → Json) (s : Snapshot) :
    Json :=
  .obj [("state", .str s.status.phase.label),
    ("current_command", .nat s.status.cursor),
    ("total_commands", .nat s.status.total),
    ("is_executing", .bool s.status.executing),
    ("start_time", time s.status.startTime),
    ("last_command_time", time s.status.lastCommandTime),
    ("sync_wait_start", time s.status.syncWaitStart),
    ("current_function", .opt .str s.routine),
    ("function_stack", .strs s.status.callers),
    ("errors", .strs s.status.errors),
    ("progress", .nat s.progress),
    ("estimated_time_remaining", span s.remaining),
    ("sync_timeouts", .nat s.status.syncTimeouts)]

/-- A snapshot as JSON. -/
def Snapshot.toJson (s : Snapshot) : Json := s.toJsonWith (.opt .int) (.opt .nat)

end MotionScript
