import Retouch.Document.Hcl.Expr
import Retouch.Unicode.Normal

/-! The values of expressions.
Texts are kept in their composed normal form. -/
namespace Retouch.Document.Hcl

structure Env where
  bindings : List (Bytes × Value)
  /-- The element that a splat is at. -/
  item : Value

namespace Value

def ofText (t : Bytes) : Value :=
  .text (CodePoint.encodeAll (Unicode.normalForm (CodePoint.values t)))

/-- The text of a value: truth values and numbers have one. -/
def toText : Value → Except Error Bytes
  | .text t => .ok t
  | .number n => .ok n.text
  | .bool b => .ok (if b then "true" else "false")
  | .null => .error (.noValue "a text")
  | _ => .error (.wrongType "text")

/-- The number of a value: a text may hold one. -/
def toNumber : Value → Except Error Number
  | .number n => .ok n
  | .text t =>
    match Number.ofText? t with
    | some n => .ok n
    | none => .error (.wrongType "number")
  | .null => .error (.noValue "a number")
  | _ => .error (.wrongType "number")

/-- The truth value of a value: a text may hold one, as a word or a digit. -/
def toBool : Value → Except Error Bool
  | .bool b => .ok b
  | .text t =>
    if t == Bytes.ofString "true" || t == [0x31] then .ok true
    else if t == Bytes.ofString "false" || t == [0x30] then .ok false
    else .error (.wrongType "truth value")
  | .null => .error (.noValue "a truth value")
  | _ => .error (.wrongType "truth value")

mutual

/-- Whether two values are the same. Values of different types never are. -/
def same : Value → Value → Bool
  | .null, .null => true
  | .bool a, .bool b => a == b
  | .number a, .number b => a.compare b == .eq
  | .text a, .text b => a == b
  | .tuple as, .tuple bs => sameItems as bs
  | .object as, .object bs => sameFields as bs
  | _, _ => false

def sameItems : List Value → List Value → Bool
  | [], [] => true
  | a :: as, b :: bs => same a b && sameItems as bs
  | _, _ => false

def sameFields : List (Bytes × Value) → List (Bytes × Value) → Bool
  | [], [] => true
  | (k, a) :: as, (l, b) :: bs => k == l && same a b && sameFields as bs
  | _, _ => false

end

/-- Sets a field of an object, in the order of the names. -/
def setField (key : Bytes) (v : Value) : List (Bytes × Value) → List (Bytes × Value)
  | [] => [(key, v)]
  | (k, w) :: rest =>
    if k == key then (key, v) :: rest
    else if k < key then (k, w) :: setField key v rest
    else (key, v) :: (k, w) :: rest

def field? (key : Bytes) (fields : List (Bytes × Value)) : Option Value :=
  (fields.find? (·.1 == key)).map (·.2)

def element (v key : Value) : Except Error Value :=
  match v with
  | .tuple items => do
    let n ← key.toNumber
    match n.natural?.bind (items[·]?) with
    | some x => return x
    | none => throw .index
  | .object fields => do
    match field? (← key.toText) fields with
    | some x => return x
    | none => throw .index
  | _ => .error .index

def member (v : Value) (name : Bytes) : Except Error Value :=
  match v with
  | .object fields =>
    match field? name fields with
    | some x => .ok x
    | none => .error .index
  | _ => .error .index

def elements : Value → Except Error (List (Value × Value))
  | .tuple items =>
    .ok (items.mapIdx fun i v => (.number (Number.ofDecimal false i 0), v))
  | .object fields => .ok (fields.map fun (k, v) => (.text k, v))
  | _ => .error (.wrongType "collection")

/-- The elements that a splat goes over: those of a tuple, nothing, or the value itself. -/
def splatItems : Value → List Value
  | .tuple items => items
  | .null => []
  | v => [v]

/-- What a value becomes next to another one in a choice: of a text and a simple value both are
texts. Other types do not mix. -/
def beside (v other : Value) : Except Error Value :=
  match v, other with
  | .null, _ | _, .null => .ok v
  | .bool _, .bool _ | .number _, .number _ | .text _, .text _ => .ok v
  | .tuple _, .tuple _ | .object _, .object _ => .ok v
  | .bool _, .text _ | .number _, .text _ => v.toText.map .text
  | .text _, .bool _ | .text _, .number _ => .ok v
  | _, _ => .error (.wrongType "value of the type of its alternative")

end Value

def arithmetic (f : Number → Number → Option Number) (a b : Value) : Except Error Value := do
  match f (← a.toNumber) (← b.toNumber) with
  | some n => return .number n
  | none => throw .arithmetic

def comparison (p : Ordering → Bool) (a b : Value) : Except Error Value := do
  return .bool (p ((← a.toNumber).compare (← b.toNumber)))

def logic (f : Bool → Bool → Bool) (a b : Value) : Except Error Value := do
  return .bool (f (← a.toBool) (← b.toBool))

def Operator.apply : Operator → Value → Value → Except Error Value
  | .either, a, b => logic (· || ·) a b
  | .both, a, b => logic (· && ·) a b
  | .equal, a, b => .ok (.bool (a.same b))
  | .notEqual, a, b => .ok (.bool (!a.same b))
  | .less, a, b => comparison (· == .lt) a b
  | .greater, a, b => comparison (· == .gt) a b
  | .lessEqual, a, b => comparison (· != .gt) a b
  | .greaterEqual, a, b => comparison (· != .lt) a b
  | .add, a, b => arithmetic Number.add a b
  | .sub, a, b => arithmetic Number.sub a b
  | .mul, a, b => arithmetic Number.mul a b
  | .div, a, b => arithmetic Number.div a b
  | .mod, a, b => arithmetic Number.mod a b

namespace Env

def empty : Env := ⟨[], .null⟩

def bind (env : Env) (key : Option Bytes) (name : Bytes) (element : Value × Value) : Env :=
  let keys := match key with
    | some k => [(k, element.1)]
    | none => []
  { env with bindings := (name, element.2) :: keys ++ env.bindings }

end Env

/-- Adds a field of a loop. A key may come again only where its elements are put together. -/
def addField (group : Bool) (fields : List (Bytes × Value)) (key : Bytes) (v : Value) :
    Except Error (List (Bytes × Value)) :=
  match Value.field? key fields with
  | none => .ok (Value.setField key (if group then .tuple [v] else v) fields)
  | some old =>
    match group, old with
    | true, .tuple items => .ok (Value.setField key (.tuple (items ++ [v])) fields)
    | _, _ => .error (.repeatedKey key)

def addFields (group : Bool) :
    List (Option (Bytes × Value)) → List (Bytes × Value) → Except Error (List (Bytes × Value))
  | [], fields => .ok fields
  | none :: rest, fields => addFields group rest fields
  | some (k, v) :: rest, fields => do addFields group rest (← addField group fields k v)

/-- The choice between two values, of which only the chosen one has to have no errors. -/
def choose (c : Bool) (t f : Except Error Value) : Except Error Value :=
  match t, f with
  | .ok t, .ok f => do
    let t' ← t.beside f
    let f' ← f.beside t
    return if c then t' else f'
  | _, _ => if c then t else f

mutual

def Expr.eval : Expr → Env → Except Error Value
  | .value (.text t), _ => .ok (.ofText t)
  | .value v, _ => .ok v
  | .variable name, env =>
    match env.bindings.find? (·.1 == name) with
    | some (_, v) => .ok v
    | none => .error (.unknownVariable name)
  | .item, env => .ok env.item
  | .template parts, env => do return .ofText (← evalText parts env)
  | .grouped e, env => e.eval env
  | .negate e, env => do return .number (← (← e.eval env).toNumber).neg
  | .not e, env => do return .bool (!(← (← e.eval env).toBool))
  | .binary op l r, env => do op.apply (← l.eval env) (← r.eval env)
  | .conditional c t f, env => do
    let c ← (← c.eval env).toBool
    choose c (t.eval env) (f.eval env)
  | .tuple items, env => do return .tuple (← evalItems items env)
  | .object fields, env => do return .object (← evalFields fields env [])
  | .index e key, env => do (← e.eval env).element (← key.eval env)
  | .member e name, env => do (← e.eval env).member name
  | .splat source each, env => do
    let items := (← source.eval env).splatItems
    return .tuple (← items.mapM fun v => each.eval { env with item := v })
  | .call, _ => .error .noFunctions
  | .forTuple key name source body condition, env => do
    let items ← (← (← source.eval env).elements).mapM fun p => do
      let env := env.bind key name p
      if ← (← condition.eval env).toBool then return some (← body.eval env) else return none
    return .tuple (items.filterMap id)
  | .forObject key name source keyBody body condition group, env => do
    let fields ← (← (← source.eval env).elements).mapM fun p => do
      let env := env.bind key name p
      if ← (← condition.eval env).toBool then
        return some (← (← keyBody.eval env).toText, ← body.eval env)
      else return none
    return .object (← addFields group fields [])
  | .join e, env => do
    match ← e.eval env with
    | .tuple items => return .ofText (← items.mapM Value.toText).flatten
    | _ => throw (.wrongType "tuple")

def evalItems : List Expr → Env → Except Error (List Value)
  | [], _ => .ok []
  | e :: rest, env => do
    let v ← e.eval env
    return v :: (← evalItems rest env)

def evalText : List Expr → Env → Except Error Bytes
  | [], _ => .ok []
  | e :: rest, env => do
    let t ← (← e.eval env).toText
    return t ++ (← evalText rest env)

/-- The fields of an object; of equal keys the last one counts. -/
def evalFields : List (Expr × Expr) → Env → List (Bytes × Value) →
    Except Error (List (Bytes × Value))
  | [], _, fields => .ok fields
  | (k, e) :: rest, env, fields => do
    let key ←
      match k.keyName? with
      | some name => .ok name
      | none => if k.isPath then .error .ambiguousKey else do (← k.eval env).toText
    let v ← e.eval env
    evalFields rest env (Value.setField key v fields)

end

end Retouch.Document.Hcl
