import Retouch.Event
import Retouch.Text.Quoted

/-! The log, one line for each event. -/
namespace Retouch

namespace Level

def mark : Level → String
  | .debug => "DBG"
  | .info => "INF"
  | .warn => "WRN"
  | .error => "ERR"

end Level

namespace FieldValue

def isBare (b : UInt8) : Bool := 0x21 ≤ b && b ≤ 0x7E && b != 0x22 && b != 0x5C

/-- A value in the log. A text is quoted where it would be hard to tell from what is around it. -/
def shown : FieldValue → Bytes
  | .text t =>
    let t := CodePoint.repaired t
    if t.all isBare then t else t.quoted
  | .number n => Bytes.ofInt n
  | .flag b => if b then "true" else "false"

end FieldValue

namespace Event

/-- The fields in the order of their keys. -/
def sortedFields (e : Event) : List (String × FieldValue) :=
  e.fields.mergeSort fun a b => decide (a.1 ≤ b.1)

/-- An event as a line: time, level, message and fields, as far as there are any. -/
def line (time : Bytes) (e : Event) : Bytes :=
  let message := CodePoint.repaired e.message
  let fields := e.sortedFields.map fun (key, value) => Bytes.ofString key ++ 0x3D :: value.shown
  let parts :=
    time :: Bytes.ofString e.level.mark :: (if message = [] then [] else [message]) ++ fields
  ([0x20] : Bytes).intercalate parts ++ [0x0A]

end Event

def clockText (hour minute : Nat) : Bytes :=
  let h := if hour % 12 = 0 then 12 else hour % 12
  let m := Bytes.ofNat minute
  let half : Bytes := if hour < 12 then "AM" else "PM"
  Bytes.ofNat h ++ 0x3A :: List.replicate (2 - m.length) 0x30 ++ m ++ half

def logLines (time : Bytes) (least : Level) (events : List Event) : Bytes :=
  (events.filter fun e => least.weight ≤ e.level.weight).flatMap (Event.line time)

end Retouch
