import Retouch.Document.Hcl.Body
import Retouch.Proofs.Document.Hcl.Lines
import Retouch.Proofs.Document.Reading

/-! Bodies of rule files in lines.
A value ends with its line, so every level of operators finds nothing to do, and what is left is a
single term. -/
namespace Retouch.Document.Hcl

open CodePoint (encodeAll values)

/-! Escapes. -/

namespace Template

theorem hexDigit_digit (s : Spelling) : ∀ n < 0x10, hexDigit? (s.digit n) = some n := by
  rcases s with ⟨_ | _, _ | _⟩ <;> decide

end Template

/-- The expression of what an attribute is set to. A text is a template of a single part, or of none
when it is empty. -/
def settingExpr : Setting → Expr
  | .text t => .template (if t = [] then [] else [.value (.text t)])
  | .flag b => .value (.bool b)

namespace Reader

variable {t u : Token} {ts more : List Token}

theorem gives_peek (ts : List Token) : Gives (peek true) ts ts.head? ts := rfl

theorem gives_skip : Gives (skip true) (t :: more) ⟨⟩ more := rfl

theorem gives_accept : Gives (accept true t) (t :: more) true more := by
  unfold accept
  refine Gives.bind (gives_peek _) ?_
  rw [if_pos (by simp)]
  exact Gives.bind gives_skip (Gives.pure _ _)

theorem gives_refuse (other : ts.head? ≠ some t) : Gives (accept true t) ts false ts := by
  unfold accept
  refine Gives.bind (gives_peek _) ?_
  rw [if_neg (by simpa using other)]
  exact Gives.pure _ _

end Reader

namespace Body

open Reader

variable {more rest : List Token} {outermost : Bool}

def entries (as : List (String × Setting)) (rest : Body) : Body :=
  as.foldr (fun a rest => .entry ⟨Bytes.ofString a.1, settingExpr a.2⟩ rest) rest

def names (as : List (String × Setting)) : List Bytes := as.map fun a => Bytes.ofString a.1

end Body

end Retouch.Document.Hcl
