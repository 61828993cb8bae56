import Retouch.Console
import Retouch.Workspace

/-! The conversation with the user of a command. -/
namespace Retouch.CommandLine

structure Screen where
  /-- Texts are shown in colours. -/
  colours : Bool
  console : Console
  text : Bytes
  deriving DecidableEq, Repr

abbrev Session (α : Type) := StateT Screen (StateM Workspace) α

namespace Session

def print (text : Bytes) : Session Unit :=
  modify fun s => { s with text := s.text ++ text }

/-- Shows what a call of the console writes and records its events. -/
def emit (o : Output) : Session Unit := do
  print o.text
  for e in o.events do Workspace.record e

/-- Shows what a call of the console writes, with what the console then remembers. -/
def advance (r : Console × Output) : Session Unit := do
  modify fun s => { s with console := r.1 }
  emit r.2

def header (message : Bytes) : Session Unit := do
  emit (Console.header (← get).colours message)

def notice (n : Console.Notice) (message : Bytes) : Session Unit := do
  emit (Console.notice (← get).colours n message)

def startTarget (t : Target) : Session Unit := do
  let s ← get
  advance (s.console.startTarget s.colours t)

def rule (r : RuleOutcome) : Session Unit := do
  let s ← get
  advance (s.console.rule s.colours r)

def endTarget : Session Unit := do
  advance (← get).console.endTarget

def diff (d : Bytes) : Session Unit := do
  emit Console.newline
  emit (Console.diff (← get).colours d)
  emit Console.newline

end Session

end Retouch.CommandLine
