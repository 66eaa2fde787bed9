/-!
# Line tables

A line table records the source line of every byte of code. Neighbouring bytes of one line
share a run. Beside the runs, the table keeps the offset at which each run ends, so that the
run of an offset is found by bisection. `LineTable.toList` is the table as a plain list with
one line per byte.
-/

namespace Bytecode

/-- Consecutive bytes of one source line. -/
structure LineRun where
  length : Nat
  line : Nat
  deriving DecidableEq

/-- The source lines of a sequence of bytes. -/
structure LineTable where
  /-- The runs, from the first byte on. -/
  runs : Array LineRun := #[]
  /-- For each run, the offset right after its last byte. -/
  ends : Array Nat := #[]
  deriving DecidableEq

namespace LineTable

/-- The number of bytes recorded. -/
def length (table : LineTable) : Nat :=
  table.ends.back?.getD 0

/-- Whether nothing has been recorded. -/
def isEmpty (table : LineTable) : Bool :=
  table.runs.isEmpty

/-- Records one more byte. It extends the last run when its line is the same. -/
def push (table : LineTable) (line : Nat) : LineTable :=
  let stop := table.length + 1
  match table.runs.back? with
  | some run =>
    if run.line = line then
      { runs := table.runs.pop.push { run with length := run.length + 1 }
        ends := table.ends.pop.push stop }
    else
      { runs := table.runs.push ⟨1, line⟩, ends := table.ends.push stop }
  | none => { runs := table.runs.push ⟨1, line⟩, ends := table.ends.push stop }

/-- The first index from `low` on, and before `high`, whose end lies after `offset`, or
`high` if there is none. The ends are taken to increase. -/
def bisect (ends : Array Nat) (offset low high : Nat) : Nat :=
  if low < high then
    let middle := (low + high) / 2
    if ends.getD middle 0 ≤ offset then
      bisect ends offset (middle + 1) high
    else
      bisect ends offset low middle
  else
    low
termination_by high - low

/-- The source line of the byte at an offset. -/
def lineAt (table : LineTable) (offset : Nat) : Option Nat :=
  let run := table.runs[bisect table.ends offset 0 table.ends.size]?
  run.map LineRun.line

/-- The lines of all bytes, in order. -/
def toList (table : LineTable) : List Nat :=
  table.runs.toList.flatMap fun run => List.replicate run.length run.line

end LineTable

end Bytecode
