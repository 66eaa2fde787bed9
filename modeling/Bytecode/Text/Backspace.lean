import Bytecode.Text.Cluster

/-!
# Backspaces

A backspace in a line takes back the cluster typed before it, if there is one. A cluster is
taken back by its size in bytes, and the size is kept in one byte: of a cluster of 256 bytes
or more only the remainder is taken back.

A text without backspaces is left as it is.
-/

namespace Bytecode.Text

/-- Drops characters of a text for as long as they fit into a number of bytes. -/
def dropBytes : Nat → List Char → List Char
  | _, [] => []
  | size, c :: rest =>
    if c.utf8Size ≤ size then dropBytes (size - c.utf8Size) rest else c :: rest

/-- What has been typed of a line. -/
structure Typed where
  /-- The text, in reverse. -/
  text : List Char := []
  /-- The sizes of the clusters that can be taken back, the last one first. -/
  sizes : List Nat := []
  deriving DecidableEq

namespace Typed

/-- Takes back the last cluster. -/
def takeBack (typed : Typed) : Typed :=
  match typed.sizes with
  | [] => typed
  | size :: sizes => { text := dropBytes size typed.text, sizes }

/-- Types a cluster. -/
def add (typed : Typed) (cluster : List Char) : Typed :=
  if cluster = ['\x08'] then
    typed.takeBack
  else
    { text := cluster.reverse ++ typed.text
      sizes := (String.ofList cluster).utf8ByteSize % 256 :: typed.sizes }

theorem foldl_add_text (typed : Typed) (typedClusters : List (List Char))
    (h : '\x08' ∉ typedClusters.flatten) :
  (typedClusters.foldl add typed).text = typedClusters.flatten.reverse ++ typed.text
  := by
  induction typedClusters generalizing typed with
  | nil => simp
  | cons cluster rest ih =>
    have hcluster : cluster ≠ ['\x08'] := by
      rintro rfl
      simp at h
    simp only [List.flatten_cons, List.mem_append, not_or] at h
    simp [ih _ h.2, add, hcluster]

end Typed

/-- A text after its backspaces. -/
def applyBackspaces (text : List Char) : List Char :=
  ((clusters text).foldl Typed.add {}).text.reverse

/-- A text without backspaces is left as it is. -/
theorem applyBackspaces_of_not_mem {text : List Char} (h : '\x08' ∉ text) :
  applyBackspaces text = text
  := by
  rw [applyBackspaces, Typed.foldl_add_text _ _ (by rwa [clusters_flatten]), clusters_flatten]
  simp

end Bytecode.Text
