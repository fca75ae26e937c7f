import LaunchDesk.Decimal.Shortest
import LaunchDesk.Job.Basic
import LaunchDesk.Table

/-!
# Tables of machines and jobs

What a user sees of the machines that fit a job, and of jobs that run.
-/

namespace LaunchDesk

open Decimal

/-- Amounts are written out in full, with the fewest digits and no needless point; a value halfway
between two shortest numerals takes the greater one. -/
def amountStyle : NumberStyle :=
  ⟨true, false, none⟩

/-- The text of an amount in a table. What is no finite number has a name. -/
def amountText (x : Float) : String :=
  if x.isNaN then "NaN"
  else if x.isInf then (if (binaryOf x).1 then "-inf" else "inf")
  else String.ofList (Numeral.ofFloat amountStyle x).chars

/-- The columns of the table of machines. -/
def Machine.columns : List (Column Machine) :=
  [⟨"Provider", Machine.provider⟩,
    ⟨"Instance", Machine.instanceType⟩,
    ⟨"vCPU(s)", fun m => natText m.vcpus.toNat⟩,
    ⟨"Memory(GB)", fun m => amountText m.memory⟩,
    ⟨"GPU(s)", Machine.acceleratorSpec⟩,
    ⟨"Region", Machine.region⟩,
    ⟨"Cost", fun m => amountText m.cost⟩,
    ⟨"Selected", fun _ => "✓"⟩]

/-- The table of machines. -/
def machineTable (machines : List Machine) : String :=
  Table.render Machine.columns machines

/-- The columns of the table of jobs. -/
def JobRecord.columns : List (Column JobRecord) :=
  [⟨"Job Name", JobRecord.jobName⟩,
    ⟨"Job ID", JobRecord.jobId⟩,
    ⟨"Status", JobRecord.status⟩,
    ⟨"Created", JobRecord.startedAt⟩,
    ⟨"Spend Time(hour)", fun r => amountText r.hours⟩,
    ⟨"Cost", fun r => amountText r.cost⟩]

/-- The table of jobs. -/
def jobTable (jobs : List JobRecord) : String :=
  Table.render JobRecord.columns jobs

end LaunchDesk
