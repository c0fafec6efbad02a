import Automation.Run.Result
import Automation.Time.Zone.Basic

/-!
# Jobs

What is to be done later: a tick at every full minute, and one job for each suspended run. A job is
known by its id, and a later job of the same id takes the place of an earlier one.
-/

namespace Automation

variable {τ : Type}

/-- What a job does. -/
inductive JobWork (τ : Type) where
  /-- Start the workflows whose schedules are due. -/
  | tick
  /-- Go on with a suspended run. -/
  | resume (continuation : Continuation τ)

/-- When a job is done. -/
inductive JobTime where
  | everyMinute
  | once (t : Time.Stamp)
deriving DecidableEq, Repr

/-- A time zone in a few letters. -/
def zoneMark (offset : Option Int) : String :=
  match offset with
  | none | some 0 => "UTC"
  | some offset => Time.Stamp.writeOffset offset

/-- A job's time in words. -/
def JobTime.text : JobTime → String
  | .everyMinute => "cron[second='0']"
  | .once t =>
    let day := Time.Stamp.writeShortDate t.date
    let clock := Time.Stamp.writeClock { t with wall := t.wall - t.wall.fmod Time.second }
    let zone := zoneMark t.offset
    s!"date[{day} {clock} {zone}]"

/-- A job. -/
structure Job (τ : Type) where
  id : String
  name : String
  time : JobTime
  work : JobWork τ

/-- The id of the job that ticks. -/
def tickJobId : String := "workflow_schedule_tick"

/-- The id of the job that goes on with a run. -/
def resumeJobId (runId : String) : String := "resume:" ++ runId

/-- The job that ticks. -/
def Job.tick : Job τ := ⟨tickJobId, "Start due schedule-triggered workflows", .everyMinute, .tick⟩

/-- The job that goes on with a suspended run when it is time. -/
def Job.resume (c : Continuation τ) : Job τ :=
  ⟨resumeJobId c.runId, "Resume run " ++ c.runId, .once c.resumeAt, .resume c⟩

/-- The function that a job calls. -/
def JobWork.function : JobWork τ → String
  | .tick => "schedule_tick"
  | .resume _ => "resume_suspended_run"

/-- What is stored with a job: its resumption must not be missed however late it is. -/
def JobWork.storage : JobWork τ → Entries Value
  | .tick => [("jobstore", .text "default"), ("options", .object []), ("argCount", .int 0)]
  | .resume _ => [("jobstore", .text "resumptions"),
      ("options", .object [("misfire_grace_time", .null)]), ("argCount", .int 1)]

/-- A job as a document. -/
def Job.toValue (j : Job τ) : Value := .object <|
  [("id", .text j.id), ("func", .text j.work.function), ("trigger", .text j.time.text),
   ("name", .text j.name), ("replace", .bool true)] ++ j.work.storage

/-- The jobs that are waiting, and whether they are being done. -/
structure Scheduler (τ : Type) where
  jobs : List (Job τ) := []
  running : Bool := false

namespace Scheduler

/-- The job of an id. -/
def job? (s : Scheduler τ) (id : String) : Option (Job τ) := s.jobs.find? (·.id = id)

/-- The jobs in the order of their ids, as documents. -/
def toValue (s : Scheduler τ) : Value :=
  .list ((s.jobs.mergeSort fun a b => a.id ≤ b.id).map Job.toValue)

/-- Add a job in place of any of the same id. -/
def add (s : Scheduler τ) (j : Job τ) : Scheduler τ :=
  { s with jobs := s.jobs.filter (·.id ≠ j.id) ++ [j] }

/-- Take a job away. -/
def remove (s : Scheduler τ) (id : String) : Scheduler τ :=
  { s with jobs := s.jobs.filter (·.id ≠ id) }

/-- Start to do the jobs, the tick among them. A scheduler that is running stays as it is. -/
def start (s : Scheduler τ) : Scheduler τ :=
  if s.running then s else { s.add .tick with running := true }

/-- Stop to do the jobs. -/
def stop (s : Scheduler τ) : Scheduler τ := { s with running := false }

/-- Queue a suspended run. -/
def scheduleResume (s : Scheduler τ) (c : Continuation τ) : Scheduler τ := s.add (.resume c)

/-- Move the job of a suspended run to now, and say whether there is one. -/
def expediteResume (s : Scheduler τ) (runId : String) (now : Time.Stamp) : Bool × Scheduler τ :=
  let id := resumeJobId runId
  if s.jobs.any (·.id = id) then
    -- The job stays, with its continuation: only its time is another one.
    let move (j : Job τ) : Job τ := if j.id = id then { j with time := .once now } else j
    (true, { s with jobs := s.jobs.map move })
  else (false, s)

end Scheduler

end Automation
