import Bytecode.Text.Backspace

/-!
# Lines

A text is a sequence of lines that end with a line feed. One carriage return right before
the line feed belongs to the line ending. The last line may lack its line feed; it is then
kept whole, and it is not there at all when it is empty.

The rules are the same for characters and for bytes, so they are stated over any alphabet.
The lines of an input stream may hold backspaces, which are applied when a line is read.
-/

namespace Bytecode.Text

variable {α : Type} [BEq α]

/-- Removes one trailing carriage return. -/
def dropReturn (ret : α) (line : List α) : List α :=
  if line.getLast? == some ret then line.dropLast else line

/-- The lines of a text, where `current` holds in reverse the line that has been begun. -/
def linesFrom (feed ret : α) (current : List α) : List α → List (List α)
  | [] => if current.isEmpty then [] else [current.reverse]
  | c :: rest =>
    if c == feed then
      dropReturn ret current.reverse :: linesFrom feed ret [] rest
    else
      linesFrom feed ret (c :: current) rest

/-- The lines of a text. -/
def lines (feed ret : α) (text : List α) : List (List α) :=
  linesFrom feed ret [] text

end Bytecode.Text

namespace Bytecode

/-- The lines of a source text. -/
def sourceLines (source : String) : List String :=
  (Text.lines '\n' '\r' source.toList).map String.ofList

/-- The lines of an input stream. A line that is not UTF-8 is `none`. -/
def inputLines (input : ByteArray) : List (Option String) :=
  (Text.lines 10 13 input.toList).map fun line =>
    (String.fromUTF8? ⟨line.toArray⟩).map fun text =>
      String.ofList (Text.applyBackspaces text.toList)

end Bytecode
