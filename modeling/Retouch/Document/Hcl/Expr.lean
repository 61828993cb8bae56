import Retouch.Document.Hcl.Error
import Retouch.Document.Hcl.Number

/-! Values and expressions of HCL. -/
namespace Retouch.Document.Hcl

/-- Values. The fields of an object are in the order of their names. -/
inductive Value where
  | null
  | bool (b : Bool)
  | number (n : Number)
  | text (t : Bytes)
  | tuple (items : List Value)
  | object (fields : List (Bytes × Value))
  deriving Repr, Inhabited

inductive Operator where
  | either
  | both
  | equal
  | notEqual
  | less
  | greater
  | lessEqual
  | greaterEqual
  | add
  | sub
  | mul
  | div
  | mod
  deriving DecidableEq, Repr

inductive Expr where
  | value (v : Value)
  | variable (name : Bytes)
  /-- The element that a splat is at. -/
  | item
  /-- The texts of several values in a row. -/
  | template (parts : List Expr)
  /-- An expression in parentheses, or alone in a template. -/
  | grouped (e : Expr)
  | negate (e : Expr)
  | not (e : Expr)
  | binary (op : Operator) (l r : Expr)
  | conditional (c t f : Expr)
  | tuple (items : List Expr)
  | object (fields : List (Expr × Expr))
  | index (e key : Expr)
  | member (e : Expr) (name : Bytes)
  /-- An expression for each element of another one. -/
  | splat (source each : Expr)
  | call
  /-- An element for each element of a collection that meets a condition. -/
  | forTuple (key : Option Bytes) (name : Bytes) (source body condition : Expr)
  /-- A field for each element of a collection that meets a condition; elements with one key may be
  put together. -/
  | forObject (key : Option Bytes) (name : Bytes) (source keyBody body condition : Expr)
      (group : Bool)
  /-- The texts of the elements of a tuple in a row. -/
  | join (e : Expr)
  deriving Repr, Inhabited

namespace Expr

def literal (t : Bytes) : Expr := .template [.value (.text t)]

def isPath : Expr → Bool
  | .variable _ => true
  | .member e _ => e.isPath
  | .index e (.value _) => e.isPath
  | .index e (.template [.value (.text _)]) => e.isPath
  | _ => false

def keyName? : Expr → Option Bytes
  | .variable name => some name
  | .value .null => some "null"
  | .value (.bool b) => some (if b then "true" else "false")
  | _ => none

end Expr

end Retouch.Document.Hcl
