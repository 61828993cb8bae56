import Retouch.Event
import Retouch.Pattern

/-! Replacement rules and their effect on a text. -/
namespace Retouch

/-- A rule replaces every match of its pattern by a fixed text. -/
structure Rule where
  name : Bytes
  /-- A rule without a pattern replaces nothing and is refused by validation. -/
  pattern : Option Pattern
  replacement : Bytes
  /-- The glob that a target has to match; the empty glob admits every target. -/
  files : Bytes
  deriving Repr

/-- A text with the given spans replaced. The text starts at an offset, and the spans lie behind it
in ascending order. -/
def splice (replacement : Bytes) (offset : Nat) (rest : Bytes) : List Span → Bytes
  | [] => rest
  | s :: more =>
    rest.take (s.start - offset)
      ++ (replacement ++ splice replacement s.stop (rest.drop (s.stop - offset)) more)

namespace Rule

def spans (r : Rule) (content : Bytes) : List Span :=
  match r.pattern with
  | some p => p.findAll content
  | none => []

def apply (r : Rule) (content : Bytes) : Bytes × Nat :=
  let spans := r.spans content
  (splice r.replacement 0 content spans, spans.length)

inductive Error where
  | unnamed (index : Nat)
  | noPattern (index : Nat) (name : Bytes)
  | duplicate (index : Nat) (name : Bytes)
  deriving DecidableEq, Repr

namespace Error

def message : Error → Bytes
  | .unnamed i => "rule " ++ Bytes.ofNat i ++ ": name is required"
  | .noPattern i name => "rule " ++ Bytes.ofNat i ++ " (" ++ name ++ "): pattern is required"
  | .duplicate i name => "rule " ++ Bytes.ofNat i ++ ": duplicate name " ++ name.quoted

end Error

/-- Checks the rules from an index on; `seen` are the names before it. -/
def validateFrom (index : Nat) (seen : List Bytes) : List Rule → Except Error Unit
  | [] => .ok ()
  | r :: rest =>
    if r.name = [] then .error (.unnamed index)
    else if r.pattern.isNone then .error (.noPattern index r.name)
    else if r.name ∈ seen then .error (.duplicate index r.name)
    else validateFrom (index + 1) (r.name :: seen) rest

def validate (rules : List Rule) : Except Error Unit := validateFrom 0 [] rules

end Rule

structure RuleCount where
  name : Bytes
  hits : Nat
  deriving DecidableEq, Repr

structure Replacement where
  initial : Bytes
  modified : Bytes
  rules : List RuleCount
  deriving DecidableEq, Repr

namespace Replacement

def wasModified (r : Replacement) : Bool := r.initial != r.modified

def count (r : Replacement) : Nat := r.rules.foldr (fun c n => c.hits + n) 0

def unmatched (r : Replacement) : List Bytes :=
  (r.rules.filter fun c => c.hits == 0).map (·.name)

end Replacement

/-- The text after all rules and the count of each; every rule sees the text that the one before it
left. -/
def applyAll : List Rule → Bytes → Bytes × List RuleCount
  | [], content => (content, [])
  | r :: rest, content =>
    let (content, n) := r.apply content
    let (content, counts) := applyAll rest content
    (content, ⟨r.name, n⟩ :: counts)

def replaceAll (rules : List Rule) (content : Bytes) : Replacement :=
  let (modified, counts) := applyAll rules content
  ⟨content, modified, counts⟩

def replacementEvents (r : Replacement) : List Event :=
  r.rules.map fun c =>
    ⟨.debug, "applied rule", [("rule", .text c.name), ("matches", .number c.hits)]⟩

end Retouch
