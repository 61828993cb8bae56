import Retouch.Pattern.Kind
import Retouch.Pattern.Literal
import Retouch.Pattern.Template
import Retouch.Regexp.Match
import Retouch.Regexp.Parse

/-! Patterns: what a rule looks for in a text. -/
namespace Retouch

inductive Pattern where
  /-- A template with the regular expression it was turned into. -/
  | template (source expression : Bytes) (expr : Regexp.Expr)
  | expression (source : Bytes) (expr : Regexp.Expr)
  | literal (text : Bytes)
  deriving Repr

namespace Pattern

inductive Error where
  | unknownKind (name : Bytes)
  | emptyTemplate
  | badTemplate (cause : Regexp.Error)
  | emptyExpression
  | badExpression (cause : Regexp.Error)
  | emptyLiteral
  deriving DecidableEq, Repr

namespace Error

def message : Error → Bytes
  | .unknownKind name => unknownKindMessage name
  | .emptyTemplate => "template is empty"
  | .badTemplate e => "compiling template: " ++ e.message
  | .emptyExpression => "expression is empty"
  | .badExpression e => "compiling expression: " ++ e.message
  | .emptyLiteral => "literal is empty"

end Error

def ofTemplate (source : Bytes) : Except Error Pattern :=
  match source.tokens with
  | [] => .error .emptyTemplate
  | tokens =>
    let expression := templateExpression tokens
    match Regexp.parse expression with
    | .ok e => .ok (.template source expression e)
    | .error e => .error (.badTemplate e)

def ofExpression (source : Bytes) : Except Error Pattern :=
  if source = [] then .error .emptyExpression
  else match Regexp.parse source with
    | .ok e => .ok (.expression source e)
    | .error e => .error (.badExpression e)

def ofLiteral (text : Bytes) : Except Error Pattern :=
  if text = [] then .error .emptyLiteral else .ok (.literal text)

def compile (kind : Kind) (source : Bytes) : Except Error Pattern :=
  match kind with
  | .whitespace => ofTemplate source
  | .regexp => ofExpression source
  | .literal => ofLiteral source

def compileNamed (kind source : Bytes) : Except Error Pattern :=
  match Kind.ofName? kind with
  | some k => compile k source
  | none => .error (.unknownKind kind)

def source : Pattern → Bytes
  | .template s _ _ => s
  | .expression s _ => s
  | .literal t => t

/-- The places where a pattern matches: ascending, without overlap, leftmost first. -/
def findAll : Pattern → Bytes → List Span
  | .template _ _ e, content => e.findAll content
  | .expression _ e, content => e.findAll content
  | .literal t, content => occurrences t content

end Pattern

end Retouch
