import Bytecode.LineTable
import Mathlib.Algebra.Ring.Nat
import Mathlib.Data.List.Chain

/-!
# Line tables as lists

A line table stands for the list of the lines of its bytes, `LineTable.toList`. Recording a
byte appends its line to that list. In a table that was built by recording bytes the ends are
the sums of the lengths of the runs, so that the bisection finds the run of an offset and
`LineTable.lineAt` looks up the list.

A list of lines has one encoding as runs in which no run could be longer, `Encodes.unique`,
and a table holds it. `LineTable.Records` gathers what a table says about the list.
-/

namespace Bytecode

namespace LineTable

/-- The lines of the bytes of runs. -/
def expand (runs : List LineRun) : List Nat :=
  runs.flatMap fun run => List.replicate run.length run.line

/-- The offsets at which runs end, when the first of them starts at `start`. -/
def endsFrom (start : Nat) : List LineRun → List Nat
  | [] => []
  | run :: rest => (start + run.length) :: endsFrom (start + run.length) rest

/-- The ends are those of the runs, no run is empty, and neighbouring runs differ in their
lines. -/
structure Valid (table : LineTable) : Prop where
  ends_eq : table.ends.toList = endsFrom 0 table.runs.toList
  length_pos : ∀ run ∈ table.runs.toList, 0 < run.length
  separate : table.runs.toList.IsChain fun run next => run.line ≠ next.line

/-! ### Runs -/

@[simp]
theorem expand_nil :
  expand [] = []
  := rfl

@[simp]
theorem expand_cons (run : LineRun) (rest : List LineRun) :
  expand (run :: rest) = List.replicate run.length run.line ++ expand rest
  := rfl

@[simp]
theorem expand_append (first second : List LineRun) :
  expand (first ++ second) = expand first ++ expand second
  := List.flatMap_append

theorem toList_eq_expand (table : LineTable) :
  table.toList = expand table.runs.toList
  := rfl

theorem length_endsFrom (start : Nat) (runs : List LineRun) :
  (endsFrom start runs).length = runs.length
  := by
  induction runs generalizing start with
  | nil => rfl
  | cons run rest ih => simp [endsFrom, ih]

theorem endsFrom_append (start : Nat) (first second : List LineRun) :
  endsFrom start (first ++ second)
    = endsFrom start first ++ endsFrom (start + (expand first).length) second
  := by
  induction first generalizing start with
  | nil => rfl
  | cons run rest ih => simp [endsFrom, ih, Nat.add_assoc]

/-- A run ends at or after the offset at which the first of the runs starts. -/
theorem le_of_mem_endsFrom {start stop : Nat} {runs : List LineRun}
    (h : stop ∈ endsFrom start runs) :
  start ≤ stop
  := by
  induction runs generalizing start with
  | nil => cases h
  | cons run rest ih =>
    rcases List.mem_cons.mp h with rfl | later
    · omega
    · have := ih later
      omega

/-- The last of some runs ends after all of their bytes. -/
theorem getLast?_endsFrom (start : Nat) (runs : List LineRun) :
  (endsFrom start runs).getLast?.getD start = start + (expand runs).length
  := by
  induction runs generalizing start with
  | nil => rfl
  | cons run rest ih =>
    have step := ih (start + run.length)
    rw [endsFrom, List.getLast?_cons, Option.getD_some, step]
    simp [Nat.add_assoc]

/-! ### Recording a byte -/

/-- Recording a byte either extends the last run, which has the line of the byte, or adds a
run of one byte after runs whose last has another line. -/
theorem push_cases (table : LineTable) (line : Nat) :
  (∃ init run, table.runs.toList = init ++ [run] ∧ run.line = line
      ∧ (table.push line).runs.toList = init ++ [⟨run.length + 1, line⟩]
      ∧ (table.push line).ends.toList = table.ends.toList.dropLast ++ [table.length + 1])
    ∨ ((∀ run ∈ table.runs.toList.getLast?, run.line ≠ line)
      ∧ (table.push line).runs.toList = table.runs.toList ++ [⟨1, line⟩]
      ∧ (table.push line).ends.toList = table.ends.toList ++ [table.length + 1])
  := by
  have last : table.runs.back? = table.runs.toList.getLast? := by simp
  cases found : table.runs.toList.getLast? with
  | none =>
    right
    simp [push, last, found]
  | some run =>
    by_cases same : run.line = line
    · left
      obtain ⟨init, split⟩ := List.getLast?_eq_some_iff.mp found
      use init, run, split, same
      simp [push, last, same, split]
    · right
      simp [push, last, found, same]

/-- Recording a byte appends its line. -/
@[simp]
theorem toList_push (table : LineTable) (line : Nat) :
  (table.push line).toList = table.toList ++ [line]
  := by
  rw [toList_eq_expand, toList_eq_expand]
  rcases push_cases table line with ⟨init, run, split, same, runs, -⟩ | ⟨-, runs, -⟩
  · rw [runs, split]
    simp [List.replicate_succ', same]
  · rw [runs]
    simp

theorem Valid.empty :
  ({} : LineTable).Valid
  := by
  constructor
  · rfl
  · simp
  · simp

/-- The length of a valid table is the number of its bytes. -/
theorem Valid.length_eq {table : LineTable} (h : table.Valid) :
  table.length = table.toList.length
  := by
  have last := getLast?_endsFrom 0 table.runs.toList
  rw [← h.ends_eq, Nat.zero_add] at last
  rw [toList_eq_expand, ← last]
  simp [length]

theorem Valid.push {table : LineTable} (h : table.Valid) (line : Nat) :
  (table.push line).Valid
  := by
  have total := h.length_eq
  rw [toList_eq_expand] at total
  rcases push_cases table line with ⟨init, run, split, same, runs, ends⟩ | ⟨other, runs, ends⟩
  · have positive := h.length_pos
    have separate := h.separate
    rw [split] at positive separate total
    constructor
    · rw [ends, runs, h.ends_eq, split, endsFrom_append, endsFrom_append, total]
      simp [endsFrom, Nat.add_assoc]
    · rw [runs]
      simp only [List.mem_append, List.mem_singleton]
      rintro _ (old | rfl)
      · apply positive
        simp [old]
      · simp
    · rw [runs]
      simpa [List.isChain_append, same] using separate
  · constructor
    · rw [ends, runs, h.ends_eq, endsFrom_append, total]
      simp [endsFrom]
    · rw [runs]
      simp only [List.mem_append, List.mem_singleton]
      rintro _ (old | rfl)
      · apply h.length_pos _ old
      · simp
    · rw [runs, List.isChain_append]
      simpa [h.separate] using other

/-! ### Looking up a line -/

theorem getD_mem_take {ends : Array Nat} {index middle : Nat} (before : middle < index)
    (in_range : middle < ends.size) :
  ends.getD middle 0 ∈ ends.toList.take index
  := by
  rw [List.mem_take_iff_getElem]
  use middle, Nat.lt_min.mpr ⟨before, by simpa using in_range⟩
  simp [Array.getD, in_range]

theorem getD_mem_drop {ends : Array Nat} {index middle : Nat} (after : index ≤ middle)
    (in_range : middle < ends.size) :
  ends.getD middle 0 ∈ ends.toList.drop index
  := by
  rw [List.mem_drop_iff_getElem]
  use middle - index, by simpa [Nat.sub_add_cancel after] using in_range
  simp [Array.getD, in_range, Nat.add_sub_cancel' after]

/-- The bisection finds the first index whose end lies after the offset, between bounds that
enclose it. -/
theorem bisect_eq {ends : Array Nat} {offset low high index : Nat}
    (le_index : low ≤ index) (index_le : index ≤ high) (in_range : high ≤ ends.size)
    (below : ∀ stop ∈ ends.toList.take index, stop ≤ offset)
    (above : ∀ stop ∈ ends.toList.drop index, offset < stop) :
  bisect ends offset low high = index
  := by
  fun_induction bisect ends offset low high with
  | case1 low high more middle before ih =>
    have : middle < index := by
      by_contra behind
      have := above _ (getD_mem_drop (by omega : index ≤ middle) (by omega))
      omega
    apply ih this index_le in_range
  | case2 low high more middle after ih =>
    have : index ≤ middle := by
      by_contra behind
      have := below _ (getD_mem_take (by omega : middle < index) (by omega))
      omega
    apply ih le_index this (by omega)
  | case3 low high done =>
    omega

/-- The run of an offset: the runs before it end at or before the offset, it and the runs
after it end later, and its line is the line of the offset. -/
theorem exists_run (runs : List LineRun) {start offset : Nat} (h : start ≤ offset) :
  ∃ index ≤ runs.length,
    (∀ stop ∈ (endsFrom start runs).take index, stop ≤ offset)
    ∧ (∀ stop ∈ (endsFrom start runs).drop index, offset < stop)
    ∧ runs[index]?.map LineRun.line = (expand runs)[offset - start]?
  := by
  induction runs generalizing start with
  | nil =>
    use 0
    simp [endsFrom]
  | cons run rest ih =>
    by_cases inside : offset < start + run.length
    · use 0, Nat.zero_le _
      refine ⟨by simp, ?_, ?_⟩
      · intro stop member
        rw [List.drop_zero, endsFrom, List.mem_cons] at member
        rcases member with rfl | later
        · exact inside
        · have := le_of_mem_endsFrom later
          omega
      · rw [expand_cons, List.getElem?_append_left (by simp; omega)]
        simp [List.getElem?_replicate]
        omega
    · obtain ⟨index, index_le, below, above, line⟩ := ih (by omega : start + run.length ≤ offset)
      use index + 1
      refine ⟨by simpa using index_le, ?_, ?_, ?_⟩
      · simp only [endsFrom, List.take_succ_cons, List.mem_cons]
        rintro stop (rfl | earlier)
        · omega
        · apply below _ earlier
      · simpa [endsFrom] using above
      · rw [expand_cons, List.getElem?_append_right (by simp; omega)]
        simpa [Nat.sub_sub] using line

/-- In a valid table the line of an offset is looked up in the list of lines. -/
theorem Valid.lineAt_eq {table : LineTable} (h : table.Valid) (offset : Nat) :
  table.lineAt offset = table.toList[offset]?
  := by
  obtain ⟨index, index_le, below, above, line⟩ :=
    exists_run table.runs.toList (Nat.zero_le offset)
  rw [← h.ends_eq] at below above
  have size : table.ends.size = table.runs.toList.length := by
    rw [← Array.length_toList, h.ends_eq, length_endsFrom]
  have found : bisect table.ends offset 0 table.ends.size = index := by
    apply bisect_eq (Nat.zero_le index) _ (Nat.le_refl _) below above
    omega
  rw [lineAt, found, toList_eq_expand]
  simpa using line

/-! ### The encoding of a list -/

/-- The runs make up the lines, and no run could be longer: none is empty, and neighbouring
runs differ in their lines. -/
structure Encodes (runs : List LineRun) (lines : List Nat) : Prop where
  length_pos : ∀ run ∈ runs, 0 < run.length
  separate : runs.IsChain fun run next => run.line ≠ next.line
  expand_eq : expand runs = lines

theorem Encodes.tail {run : LineRun} {rest : List LineRun} {lines : List Nat}
    (h : Encodes (run :: rest) lines) :
  Encodes rest (expand rest)
  where
  length_pos := fun other member => h.length_pos other (List.mem_cons_of_mem _ member)
  separate := h.separate.tail
  expand_eq := rfl

theorem Encodes.head?_eq {run : LineRun} {rest : List LineRun} {lines : List Nat}
    (h : Encodes (run :: rest) lines) :
  lines.head? = some run.line
  := by
  obtain ⟨length, positive⟩ := Nat.exists_eq_add_of_lt (h.length_pos run List.mem_cons_self)
  rw [← h.expand_eq, expand_cons, positive]
  simp [List.replicate_succ]

/-- The lines that begin like the first run are those of the first run alone. -/
theorem Encodes.takeWhile_eq {run : LineRun} {rest : List LineRun} {lines : List Nat}
    (h : Encodes (run :: rest) lines) :
  lines.takeWhile (fun line => line == run.line) = List.replicate run.length run.line
  := by
  have stops : (expand rest).takeWhile (fun line => line == run.line) = [] := by
    cases rest with
    | nil => rfl
    | cons next rest =>
      have other := (List.isChain_cons_cons.mp h.separate).1
      have first := List.head?_eq_some_iff.mp h.tail.head?_eq
      obtain ⟨later, expanded⟩ := first
      rw [expanded, List.takeWhile_cons_of_neg]
      simpa using other.symm
  rw [← h.expand_eq, expand_cons, List.takeWhile_append_of_pos, stops, List.append_nil]
  intro line member
  simp [List.eq_of_mem_replicate member]

/-- A list of lines has only one encoding. -/
theorem Encodes.unique {runs others : List LineRun} {lines : List Nat}
    (h : Encodes runs lines) (h' : Encodes others lines) :
  runs = others
  := by
  induction runs generalizing others lines with
  | nil =>
    obtain rfl := h.expand_eq
    cases others with
    | nil => rfl
    | cons other _ => cases h'.head?_eq
  | cons run rest ih =>
    cases others with
    | nil =>
      obtain rfl := h'.expand_eq
      cases h.head?_eq
    | cons other others =>
      have same_line : run.line = other.line := by
        apply Option.some.inj
        rw [← h.head?_eq, h'.head?_eq]
      have same_length : run.length = other.length := by
        have leading := h'.takeWhile_eq
        rw [← same_line, h.takeWhile_eq] at leading
        simpa using congrArg List.length leading
      obtain rfl : run = other := by
        cases run
        cases other
        simp_all
      have expanded := h.expand_eq.trans h'.expand_eq.symm
      rw [expand_cons, expand_cons] at expanded
      have tails := h.tail
      rw [List.append_cancel_left expanded] at tails
      rw [ih tails h'.tail]

/-! ### The ends of runs -/

/-- The ends of runs that are not empty increase. -/
theorem pairwise_endsFrom {start : Nat} {runs : List LineRun}
    (positive : ∀ run ∈ runs, 0 < run.length) :
  (endsFrom start runs).Pairwise (· < ·)
    ∧ ∀ stop ∈ endsFrom start runs, start < stop
  := by
  induction runs generalizing start with
  | nil => simp [endsFrom]
  | cons run rest ih =>
    rw [List.forall_mem_cons] at positive
    obtain ⟨increasing, above⟩ := @ih (start + run.length) positive.2
    rw [endsFrom, List.pairwise_cons, List.forall_mem_cons]
    refine ⟨⟨above, increasing⟩, by omega, ?_⟩
    intro stop later
    have := above stop later
    omega

/-- A run ends after the sum of the lengths of the runs up to it. -/
theorem getElem?_endsFrom {start index stop : Nat} {runs : List LineRun}
    (found : (endsFrom start runs)[index]? = some stop) :
  stop = start + ((runs.take (index + 1)).map LineRun.length).sum
  := by
  induction runs generalizing start index with
  | nil => simp [endsFrom] at found
  | cons run rest ih =>
    rw [endsFrom] at found
    cases index with
    | zero =>
      obtain rfl := Option.some.inj found
      simp
    | succ index =>
      rw [List.getElem?_cons_succ] at found
      rw [ih found, List.take_succ_cons, List.map_cons, List.sum_cons, Nat.add_assoc]

/-! ### Tables that record lines -/

/-- The table after bytes of given lines, one after another. -/
def ofLines (lines : List Nat) : LineTable :=
  lines.foldl push {}

/-- The table stands for the list of lines: every line is found at its offset, the runs are
the only encoding of the list, and the ends are sorted and are those of the runs. -/
structure Records (table : LineTable) (lines : List Nat) : Prop where
  length_eq : table.length = lines.length
  isEmpty_iff : table.isEmpty = true ↔ lines.length = 0
  lineAt_eq : ∀ offset, table.lineAt offset = lines[offset]?
  encodes : Encodes table.runs.toList lines
  unique : ∀ runs, Encodes runs lines → runs = table.runs.toList
  size_eq : table.ends.size = table.runs.size
  increasing : table.ends.toList.Pairwise (· < ·)
  ends_eq : ∀ index stop, table.ends[index]? = some stop →
    stop = ((table.runs.toList.take (index + 1)).map LineRun.length).sum

theorem Valid.encodes {table : LineTable} (h : table.Valid) :
  Encodes table.runs.toList table.toList
  where
  length_pos := h.length_pos
  separate := h.separate
  expand_eq := rfl

theorem Valid.isEmpty_iff {table : LineTable} (h : table.Valid) :
  table.isEmpty = true ↔ table.toList.length = 0
  := by
  rw [List.length_eq_zero_iff, isEmpty, ← Array.isEmpty_toList, List.isEmpty_iff]
  constructor
  · intro none
    rw [toList_eq_expand, none, expand_nil]
  · intro none
    have encodes := h.encodes
    rw [none] at encodes
    apply encodes.unique
    constructor
    · simp
    · simp
    · rfl

/-- A valid table stands for its list of lines. -/
theorem Valid.records {table : LineTable} (h : table.Valid) :
  table.Records table.toList
  where
  length_eq := h.length_eq
  isEmpty_iff := h.isEmpty_iff
  lineAt_eq := h.lineAt_eq
  encodes := h.encodes
  unique := fun _ other => other.unique h.encodes
  size_eq := by
    rw [← Array.length_toList, h.ends_eq, length_endsFrom, Array.length_toList]
  increasing := by
    rw [h.ends_eq]
    apply (pairwise_endsFrom h.length_pos).1
  ends_eq := by
    intro index stop found
    rw [← Array.getElem?_toList, h.ends_eq] at found
    rw [getElem?_endsFrom found, Nat.zero_add]

/-- Recording bytes keeps a table valid and appends their lines. -/
theorem Valid.foldl_push {table : LineTable} (h : table.Valid) (lines : List Nat) :
  (lines.foldl LineTable.push table).Valid
    ∧ (lines.foldl LineTable.push table).toList = table.toList ++ lines
  := by
  induction lines generalizing table with
  | nil =>
    use h
    simp
  | cons line rest ih =>
    obtain ⟨valid, all⟩ := ih (h.push line)
    use valid
    rw [List.foldl_cons, all, toList_push, List.append_assoc, List.singleton_append]

/-- The table of a list of lines stands for that list. -/
theorem records_ofLines (lines : List Nat) :
  (ofLines lines).Records lines
  := by
  obtain ⟨valid, all⟩ := Valid.empty.foldl_push lines
  have records := valid.records
  rw [all] at records
  exact records

end LineTable

end Bytecode
