import Fleet.Shell.Builtin
import Fleet.Shell.SignalName

namespace Fleet.Shell

/-! # Jobs

The commands in the background of a shell have numbers, by which they are named and listed.
-/

/-- The job has ended, and nobody has to be told. -/
def Job.isOver (job : Job) : Bool := job.status.isSome && job.waited

namespace Jobs

open Session Builtin

/-- The least number, from `n` on, that no job has which may still be asked for. -/
def freeFrom (jobs : List Job) : Nat → Nat → Nat
  | 0, n => n
  | k + 1, n =>
    if jobs.any fun job => job.number == n && !job.isOver then freeFrom jobs k (n + 1) else n

/-- The number for a new process, and the jobs without the one whose place it takes. -/
def room (jobs : List Job) : Nat × List Job :=
  let n := freeFrom jobs jobs.length 1
  (n, jobs.filter (·.number != n))

/-- The job that a word names. -/
def named (word : String) : Act Job := do
  let jobs := (← get).jobs
  let found (job : Option Job) (complaint : String) : Act Job :=
    match job with
    | some job => return job
    | none => fail complaint
  let unknown := "No such job: " ++ word
  match word.toList with
  | ['%'] | ['%', '%'] | ['%', '+'] => found jobs.getLast? "No current job"
  | ['%', '-'] => found jobs.dropLast.getLast? "No previous job"
  | '%' :: digits =>
    let number := Number.natural? (String.ofList digits)
    found (jobs.find? fun job => some job.number == number) unknown
  | _ => found (jobs.find? fun job => some job.pid == Number.natural? word) unknown

/-- How a job fares. -/
def stateOf (status : Option ExitStatus) : String :=
  match status with
  | none => "Running"
  | some (.exited 0) => "Done"
  | some (.exited code) => "Done(" ++ toString code ++ ")"
  | some (.killed signal _) =>
    (SignalName.description? signal).getD ("Signal " ++ toString signal)

/-- How many programs a job runs side by side. -/
def width : Command → Nat
  | .pipe commands => commands.length
  | _ => 1

/-- The line for a job. -/
def line (jobs : List Job) (job : Job) (withPid : Bool) : String :=
  let isAt (place : Option Job) : Bool := place.any fun other => other.pid == job.pid
  let mark := if isAt jobs.getLast? then "+" else if isAt jobs.dropLast.getLast? then "-" else " "
  let lead := "[" ++ toString job.number ++ "] " ++ mark ++ " " ++
    (if withPid then toString job.pid ++ " " else "") ++ stateOf job.status
  lead ++ "".pushn ' ' (max 1 (33 - lead.length)) ++
    String.join (List.replicate (width job.body - 1) " | ")

/-- Lists jobs, the latest first; those that have ended are then forgotten. -/
def list : Action := fun args => do
  let (given, words) ← options "lp" args
  let has (c : Char) : Bool := given.any fun (d, _) => d == c
  let chosen ← if words.isEmpty then pure (← get).jobs.reverse else words.mapM named
  for job in chosen do
    if has 'p' then
      let _ ← printLines [toString job.pid]
    else
      let _ ← printLines [line (← get).jobs job (has 'l')]
      if job.status.isSome then
        modify fun s => { s with jobs := s.jobs.filter fun other => other.pid != job.pid }
  return 0

/-- Moves a job, which needs a terminal. -/
def moving (showsName : Bool) : Action := fun args => do
  let (_, words) ← options "" args
  let _ ← named (words.headD "%")
  let name := if showsName then words.headD "(null)" else words.headD "%"
  fail ("job " ++ name ++ " not created under job control")

end Jobs

end Fleet.Shell
