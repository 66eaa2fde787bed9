import Bytecode.Cursor
import Mathlib.Tactic.Common

/-!
# Running cursors

What each operation of a cursor gives and where it leaves the cursor, as equations on
`EStateM.run`.
-/

namespace Bytecode.Cursor

theorem run_nextOp (code : Array UInt8) (cursor : Cursor) :
  (nextOp code).run cursor =
    match code[cursor.position]? with
    | none => .error (.truncated cursor.position 1 0) cursor.begin
    | some byte =>
      match Op.ofByte? byte with
      | none => .error (.unknownOpcode cursor.position byte) cursor.begin
      | some op =>
        .ok op { position := cursor.position + 1, start := cursor.position, op := some op }
  := by
  simp only [nextOp, EStateM.run_bind, EStateM.run_modify, EStateM.run_get, begin, atOffset]
  cases code[cursor.position]? with
  | none => rfl
  | some byte =>
    dsimp only
    cases Op.ofByte? byte with
    | none => rfl
    | some op => rfl

theorem run_take (code : Array UInt8) (count : Nat) (cursor : Cursor) :
  (take code count).run cursor =
    if cursor.position + count ≤ code.size then
      .ok (code.extract cursor.position (cursor.position + count)).toList
        { cursor with position := cursor.position + count }
    else
      .error (.truncated cursor.start (cursor.needed count) (code.size - cursor.start)) cursor
  := by
  simp only [take, EStateM.run_bind, EStateM.run_get]
  split <;> rfl

theorem run_readNat (code : Array UInt8) (count : Nat) (cursor : Cursor) :
  (readNat code count).run cursor =
    if cursor.position + count ≤ code.size then
      .ok (BigEndian.value (code.extract cursor.position (cursor.position + count)).toList)
        { cursor with position := cursor.position + count }
    else
      .error (.truncated cursor.start (cursor.needed count) (code.size - cursor.start)) cursor
  := by
  rw [readNat, EStateM.run_bind, run_take]
  by_cases room : cursor.position + count ≤ code.size
  · rw [if_pos room, if_pos room]
    rfl
  · rw [if_neg room, if_neg room]

/-- The first of some bytes of code, and the others. -/
theorem extract_succ {code : Array UInt8} {position : Nat} (inside : position < code.size)
    (count : Nat) :
  (code.extract position (position + (count + 1))).toList
    = code[position] :: (code.extract (position + 1) (position + 1 + count)).toList
  := by
  rw [Array.toList_extract, Array.toList_extract, List.extract_eq_take_drop,
    List.extract_eq_take_drop, Nat.add_sub_cancel_left, Nat.add_sub_cancel_left,
    List.drop_eq_getElem_cons inside, List.take_succ_cons, Array.getElem_toList]

theorem run_readByte (code : Array UInt8) (cursor : Cursor) :
  (readByte code).run cursor =
    match code[cursor.position]? with
    | some byte => .ok byte { cursor with position := cursor.position + 1 }
    | none =>
      .error (.truncated cursor.start (cursor.needed 1) (code.size - cursor.start)) cursor
  := by
  rw [readByte, EStateM.run_bind, run_readNat]
  by_cases inside : cursor.position < code.size
  · rw [if_pos (Nat.succ_le_of_lt inside), Array.getElem?_eq_getElem inside, extract_succ inside 0]
    simp [BigEndian.value]
  · have at_end := Nat.le_of_not_lt inside
    rw [if_neg (Nat.not_le_of_lt (Nat.lt_succ_of_le at_end)), Array.getElem?_eq_none at_end]

theorem run_jumpBack (distance : Nat) (cursor : Cursor) :
  (jumpBack distance).run cursor =
    if distance ≤ cursor.position then
      .ok () { cursor with position := cursor.position - distance }
    else
      .error (.jumpOutOfRange cursor.start distance) cursor
  := by
  rw [jumpBack, EStateM.run_bind, EStateM.run_get]
  dsimp only
  split <;> rfl

/-! ### Reading known bytes -/

theorem position_add_length_le {code : Array UInt8} {position : Nat} {bytes rest : List UInt8}
    (nonempty : bytes ≠ []) (h : code.toList.drop position = bytes ++ rest) :
  position + bytes.length ≤ code.size
  := by
  have lengths := congrArg List.length h
  have positive := List.length_pos_iff.mpr nonempty
  simp only [List.length_drop, List.length_append, Array.length_toList] at lengths
  omega

theorem extract_of_drop {code : Array UInt8} {position : Nat} {bytes rest : List UInt8}
    (h : code.toList.drop position = bytes ++ rest) :
  (code.extract position (position + bytes.length)).toList = bytes
  := by
  rw [Array.toList_extract, List.extract_eq_take_drop, h, Nat.add_sub_cancel_left,
    List.take_left]

/-- Where bytes are found, their number is read. -/
theorem run_readNat_of_drop {code : Array UInt8} {cursor : Cursor} {bytes rest : List UInt8}
    (nonempty : bytes ≠ []) (h : code.toList.drop cursor.position = bytes ++ rest) :
  (readNat code bytes.length).run cursor
    = .ok (BigEndian.value bytes) { cursor with position := cursor.position + bytes.length }
  := by
  rw [run_readNat, if_pos (position_add_length_le nonempty h), extract_of_drop h]

end Bytecode.Cursor
