import Bytecode.Proofs.Listing

/-!
# Streamed listings

A program that writes offers its bytes to the sink, which takes as many as it has room for.
The program ends in its own way, or at the first byte that is not taken, `Writing.Offers`.
Programs of this kind compose: what they offer is put together.

`Chunk.streamListing_agrees` says that a streamed listing is the collected one, also where the
walk fails, and that a short sink takes the beginning of what an unlimited one takes.
-/

namespace Bytecode

/-! ### Sinks -/

namespace Sink

/-- Whether there is room for a number of bytes. -/
def hasRoom (sink : Sink) (size : Nat) : Bool :=
  sink.room.all fun room => size ≤ room

/-- The sink after bytes were offered to it: it takes those that it has room for. -/
def accept (sink : Sink) (bytes : ByteArray) : Sink where
  written := sink.written ++ sink.room.elim bytes (bytes.extract 0)
  room := sink.room.map fun room => room - bytes.size

theorem extract_of_size_le {bytes : ByteArray} {room : Nat} (fits : bytes.size ≤ room) :
  bytes.extract 0 room = bytes
  := by
  rw [← Nat.max_eq_left fits, ByteArray.extract_zero_max_size]

theorem run_write (text : String) (sink : Sink) :
  (write text).run sink
    = if sink.hasRoom text.toUTF8.size then
        .ok () (sink.accept text.toUTF8)
      else
        .error .sinkFull (sink.accept text.toUTF8)
  := by
  obtain ⟨written, room⟩ := sink
  rw [write, EStateM.run_bind, EStateM.run_get]
  cases room with
  | none => rfl
  | some room =>
    dsimp only
    by_cases fits : text.utf8ByteSize ≤ room
    · have room_for : hasRoom ⟨written, some room⟩ text.toUTF8.size = true := by
        simpa [hasRoom] using fits
      have whole : text.toUTF8.extract 0 room = text.toUTF8 := extract_of_size_le fits
      rw [if_pos fits, if_pos room_for, accept, Option.elim_some, whole]
      rfl
    · have no_room : ¬ hasRoom ⟨written, some room⟩ text.toUTF8.size = true := by
        simpa [hasRoom] using fits
      have full : room - text.toUTF8.size = 0 := by
        rw [Nat.not_le] at fits
        exact Nat.sub_eq_zero_of_le (Nat.le_of_lt fits)
      rw [if_neg fits, if_neg no_room, accept, Option.map_some, full]
      rfl

theorem hasRoom_empty (sink : Sink) :
  sink.hasRoom ByteArray.empty.size = true
  := by
  simp [hasRoom]

theorem accept_empty (sink : Sink) :
  sink.accept .empty = sink
  := by
  obtain ⟨written, room⟩ := sink
  cases room with
  | none => simp [accept]
  | some room => simp [accept, extract_of_size_le]

/-- Bytes can be offered in two parts. -/
theorem accept_append (sink : Sink) (bytes more : ByteArray) :
  sink.accept (bytes ++ more) = (sink.accept bytes).accept more
  := by
  obtain ⟨written, room⟩ := sink
  cases room with
  | none => simp [accept, ByteArray.append_assoc]
  | some room =>
    simp [accept, ByteArray.append_assoc, ByteArray.extract_append, Nat.sub_sub]

theorem hasRoom_append (sink : Sink) (bytes more : ByteArray) :
  sink.hasRoom (bytes ++ more).size
    = (sink.hasRoom bytes.size && (sink.accept bytes).hasRoom more.size)
  := by
  obtain ⟨written, room⟩ := sink
  cases room with
  | none => rfl
  | some room =>
    have parts : bytes.size + more.size ≤ room
        ↔ bytes.size ≤ room ∧ more.size ≤ room - bytes.size := by
      omega
    simp [hasRoom, accept, parts]

/-- A sink that could not take all bytes takes no more. -/
theorem accept_of_no_room {sink : Sink} {bytes : ByteArray}
    (full : sink.hasRoom bytes.size = false) (more : ByteArray) :
  (sink.accept bytes).accept more = sink.accept bytes
  := by
  obtain ⟨written, room⟩ := sink
  cases room with
  | none => cases full
  | some room =>
    have short : room < bytes.size := by simpa [hasRoom] using full
    have none_left : room - bytes.size = 0 := by omega
    simp [accept, none_left]

end Sink

/-! ### Programs that write -/

namespace Writing

/-- The result of a program that ends in a given way. -/
def result (sink : Sink) : Except ListingError Nat → EStateM.Result ListingError Sink Nat
  | .ok count => .ok count sink
  | .error error => .error error sink

/-- The program offers bytes to every sink, and ends in the given way if all are taken. -/
def Offers (program : Writing Nat) (bytes : ByteArray) (ending : Except ListingError Nat) :
    Prop :=
  ∀ sink : Sink,
    program.run sink
      = result (sink.accept bytes)
        (if sink.hasRoom bytes.size then ending else .error .sinkFull)

theorem offers_pure (count : Nat) :
  Offers (pure count) .empty (.ok count)
  := by
  intro sink
  rw [sink.accept_empty, if_pos sink.hasRoom_empty]
  rfl

theorem offers_throw (error : ListingError) :
  Offers (throw error) .empty (.error error)
  := by
  intro sink
  rw [sink.accept_empty, if_pos sink.hasRoom_empty]
  rfl

/-- A text that is written before a program is offered before its bytes. -/
theorem Offers.write {program : Writing Nat} {bytes : ByteArray}
    {ending : Except ListingError Nat} (offers : program.Offers bytes ending) (text : String) :
  Offers (Sink.write text >>= fun _ => program) (text.toUTF8 ++ bytes) ending
  := by
  intro sink
  rw [EStateM.run_bind, Sink.run_write, Sink.hasRoom_append, Sink.accept_append]
  cases fits : sink.hasRoom text.toUTF8.size with
  | true =>
    rw [if_pos rfl, Bool.true_and]
    apply offers
  | false =>
    rw [Sink.accept_of_no_room fits, Bool.false_and]
    rfl

end Writing

/-! ### Listings -/

/-- The text of lines, each ended by a line feed. -/
def Listing.joined (lines : List String) : String :=
  String.join (lines.map fun line => line ++ "\n")

theorem Listing.joined_cons (line : String) (rest : List String) :
  joined (line :: rest) = line ++ "\n" ++ joined rest
  := String.join_cons

theorem Listing.toUTF8_joined_cons (line : String) (rest : List String) :
  (joined (line :: rest)).toUTF8 = (line ++ "\n").toUTF8 ++ (joined rest).toUTF8
  := by
  rw [joined_cons]
  apply String.toByteArray_append

/-- Ending each line is the same as separating the lines and ending the last of them. -/
theorem Listing.joined_eq_intercalate (line : String) (rest : List String) :
  joined (line :: rest) = "\n".intercalate (line :: rest) ++ "\n"
  := by
  induction rest generalizing line with
  | nil => simp [joined]
  | cons next rest ih =>
    rw [joined_cons, ih, String.intercalate_cons_cons, String.append_assoc, String.append_assoc,
      String.append_assoc]

namespace Chunk

/-- Writing the items of a walk offers the lines of the instructions, and ends with their number
or with the error of the walk. -/
theorem offers_writeLines (chunk : Chunk) (instructions : List Instruction)
    (failure : Option DecodeError) (previous : Option Nat) (count : Nat) :
  (chunk.writeLines (instructions.map .ok ++ failure.toList.map .error) previous count).Offers
    (Listing.joined (chunk.instructionLines previous instructions)).toUTF8
    (failure.elim (.ok (count + instructions.length)) fun error => .error (.decode error))
  := by
  induction instructions generalizing previous count with
  | nil =>
    cases failure with
    | none => apply Writing.offers_pure
    | some error => apply Writing.offers_throw
  | cons instruction rest ih =>
    have later := ih (chunk.lineAt instruction.offset) (count + 1)
    rw [Nat.add_assoc, Nat.add_comm 1] at later
    rw [instructionLines_cons, Listing.toUTF8_joined_cons]
    apply later.write

/-- Writing a listing offers the header and the lines of the instructions. -/
theorem offers_writeListing {chunk : Chunk} {instructions : List Instruction}
    {failure : Option DecodeError}
    (items : chunk.walk = instructions.map .ok ++ failure.toList.map .error) (name : String) :
  (chunk.writeListing name).Offers
    (Listing.joined (Listing.header name :: chunk.instructionLines none instructions)).toUTF8
    (failure.elim (.ok instructions.length) fun error => .error (.decode error))
  := by
  have lines := chunk.offers_writeLines instructions failure none 0
  rw [Nat.zero_add, ← items] at lines
  rw [Listing.toUTF8_joined_cons]
  apply lines.write

/-- What comes of writing the listing of a chunk to a new sink with some room: the result, and
the bytes that the sink took. -/
def streamListing (chunk : Chunk) (name : String) (room : Option Nat) :
    Except ListingError Nat × ByteArray :=
  match (chunk.writeListing name).run { room } with
  | .ok count sink => (.ok count, sink.written)
  | .error error sink => (.error error, sink.written)

theorem streamListing_of_offers {chunk : Chunk} {name : String} {bytes : ByteArray}
    {ending : Except ListingError Nat} (offers : (chunk.writeListing name).Offers bytes ending)
    (room : Option Nat) :
  chunk.streamListing name room
    = (if room.all fun room => bytes.size ≤ room then ending else .error .sinkFull,
      room.elim bytes (bytes.extract 0))
  := by
  have taken : (Sink.accept { room } bytes).written = room.elim bytes (bytes.extract 0) :=
    ByteArray.empty_append
  rw [streamListing, offers { room }, Sink.hasRoom, ← taken]
  cases if room.all fun room => bytes.size ≤ room then ending else .error .sinkFull with
  | ok count => rfl
  | error error => rfl

theorem streamListing_some_of_offers {chunk : Chunk} {name : String} {bytes : ByteArray}
    {ending : Except ListingError Nat} (offers : (chunk.writeListing name).Offers bytes ending)
    (room : Nat) :
  chunk.streamListing name (some room)
    = if bytes.size ≤ room then (ending, bytes) else (.error .sinkFull, bytes.extract 0 room)
  := by
  rw [streamListing_of_offers offers, Option.all_some, Option.elim_some]
  by_cases fits : bytes.size ≤ room
  · rw [if_pos fits, if_pos (decide_eq_true fits), Sink.extract_of_size_le fits]
  · rw [if_neg fits, if_neg (by simpa using fits)]

/-- Where the walk succeeds, the streamed listing is the text of the collected one and a line
feed, and the result is the number of its instructions. Where the walk fails, the result is the
error of the walk, and the header and the lines of the instructions before it are written. A
sink with less room than that takes the bytes that it has room for, and the result is its own
error. -/
theorem streamListing_agrees (chunk : Chunk) (name : String) :
  (∀ lines, chunk.listing name = .ok lines →
    ∃ text, chunk.disassemble name = .ok text
      ∧ chunk.streamListing name none = (.ok (lines.length - 1), (text ++ "\n").toUTF8))
    ∧ (∀ error, chunk.listing name = .error error →
      ∃ instructions, chunk.walk = instructions.map .ok ++ [.error error]
        ∧ chunk.streamListing name none
          = (.error (.decode error),
            (Listing.joined
              (Listing.header name :: chunk.instructionLines none instructions)).toUTF8))
    ∧ ∀ room, chunk.streamListing name (some room)
      = if (chunk.streamListing name none).2.size ≤ room then
          chunk.streamListing name none
        else
          (.error .sinkFull, (chunk.streamListing name none).2.extract 0 room)
  := by
  obtain ⟨instructions, failure, items, -⟩ := chunk.walkFrom_reads_code (Nat.zero_le _)
  have offers := offers_writeListing items name
  have unlimited := streamListing_of_offers offers none
  refine ⟨?_, ?_, ?_⟩
  · intro lines listed
    rw [listing_eq items] at listed
    cases failure with
    | some error => cases listed
    | none =>
      obtain rfl := Except.ok.inj listed
      use "\n".intercalate (Listing.header name :: chunk.instructionLines none instructions)
      constructor
      · rw [disassemble, listing_eq items]
        rfl
      · rw [unlimited, ← Listing.joined_eq_intercalate, List.length_cons,
          length_instructionLines]
        rfl
  · intro error listed
    rw [listing_eq items] at listed
    cases failure with
    | none => cases listed
    | some error' =>
      obtain rfl := Except.error.inj listed
      exact ⟨instructions, items, unlimited⟩
  · intro room
    rw [unlimited]
    apply streamListing_some_of_offers offers

end Chunk

end Bytecode
