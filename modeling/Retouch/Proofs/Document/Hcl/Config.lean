import Retouch.Document
import Retouch.Proofs.Document.Hcl.Body

/-! Rule files in lines, read as HCL.
Labels are kept as they are written. Other texts are composed, once as a literal and once more as
the text of a template. -/
namespace Retouch.Document.Hcl

open CodePoint (encodeAll values)

def composed (t : Bytes) : Bytes := encodeAll (Unicode.normalForm (values t))

def stored (t : Bytes) : Bytes := composed (composed t)

namespace Body

end Body

/-! Configurations. -/

open Body

end Retouch.Document.Hcl
