import Bytecode.Text.ClusterClass

/-!
# Clusters

`clusters` cuts a text into the extended grapheme clusters of Unicode. Whether a character
goes with the ones before it is read off its class and a `ClusterContext`, which keeps what
the rules look at in the text before it:

* a control character stands alone, but a carriage return and a line feed stay together;
* the parts of a syllable stay together, and so do the two halves of a flag;
* marks and joiners stay with what is before them, a prepended character with what is
  after it;
* two pictographs stay together across a joiner, two consonants across a linker.

Nothing is lost: the clusters put together are the text.
-/

namespace Bytecode.Text

namespace ClusterClass

/-- Whether characters of a class break a text on both sides. -/
def isBreak : ClusterClass → Bool
  | carriageReturn | lineFeed | control => true
  | _ => false

/-- Whether characters of a class extend the character before them, joiners apart. -/
def isExtend : ClusterClass → Bool
  | extend | linker | nonJoiner => true
  | _ => false

end ClusterClass

/-- What the rules for clusters look at in the text before a character. -/
structure ClusterContext where
  /-- The class of the last character. -/
  last : ClusterClass
  /-- Whether the text ends in an odd number of indicators. -/
  halfFlag : Bool := last = .indicator
  /-- Whether it ends in a pictograph and characters that extend it. -/
  pictograph : Bool := last = .pictograph
  /-- Whether it ends in such a pictograph and a joiner. -/
  joinedPictograph : Bool := false
  /-- Whether it ends in a consonant and characters that extend it. -/
  consonant : Bool := last = .consonant
  /-- Whether one of the characters that extend the consonant is a linker. -/
  linkedConsonant : Bool := false
  deriving DecidableEq

namespace ClusterContext

/-- The context after one more character. -/
def push (context : ClusterContext) (next : ClusterClass) : ClusterContext :=
  let keepsConsonant := next = .extend || next = .linker || next = .joiner
  { last := next
    halfFlag := next = .indicator && !context.halfFlag
    pictograph := next = .pictograph || next.isExtend && context.pictograph
    joinedPictograph := next = .joiner && context.pictograph
    consonant := next = .consonant || keepsConsonant && context.consonant
    linkedConsonant :=
      keepsConsonant && context.consonant && (next = .linker || context.linkedConsonant) }

/-- Whether a character of a class goes with the text before it. -/
def joins (context : ClusterContext) (next : ClusterClass) : Bool :=
  if context.last.isBreak || next.isBreak then
    context.last = .carriageReturn && next = .lineFeed
  else
    match context.last, next with
    | .leading, .leading | .leading, .vowel => true
    | .leading, .openSyllable | .leading, .closedSyllable => true
    | .vowel, .vowel | .vowel, .trailing => true
    | .openSyllable, .vowel | .openSyllable, .trailing => true
    | .trailing, .trailing | .closedSyllable, .trailing => true
    | _, .extend | _, .linker | _, .nonJoiner | _, .joiner | _, .spacing => true
    | .prepend, _ => true
    | _, .consonant => context.linkedConsonant
    | _, .pictograph => context.joinedPictograph
    | _, .indicator => context.halfFlag
    | _, _ => false

end ClusterContext

/-- The clusters of a text after a context, where `current` holds in reverse the cluster
that has been begun. -/
def clustersFrom (context : ClusterContext) (current : List Char) :
    List Char → List (List Char)
  | [] => [current.reverse]
  | c :: rest =>
    let next := ClusterClass.ofChar c
    if context.joins next then
      clustersFrom (context.push next) (c :: current) rest
    else
      current.reverse :: clustersFrom (context.push next) [c] rest

/-- The clusters of a text. -/
def clusters : List Char → List (List Char)
  | [] => []
  | c :: rest => clustersFrom { last := ClusterClass.ofChar c } [c] rest

theorem clustersFrom_flatten (context : ClusterContext) (current text : List Char) :
  (clustersFrom context current text).flatten = current.reverse ++ text
  := by
  induction text generalizing context current with
  | nil => simp [clustersFrom]
  | cons c rest ih =>
    rw [clustersFrom]
    split <;> simp [ih]

/-- The clusters of a text put together are the text. -/
theorem clusters_flatten (text : List Char) :
  (clusters text).flatten = text
  := by
  cases text with
  | nil => rfl
  | cons c rest => simp [clusters, clustersFrom_flatten]

end Bytecode.Text
