import Retouch.Bytes

/-! Facts about the build of the program. -/
namespace Retouch

structure Build where
  version : Bytes
  toolchain : Bytes
  platform : Bytes
  revision : Bytes
  time : Bytes
  modified : Bool
  deriving DecidableEq, Repr

namespace Build

def report (b : Build) : Bytes :=
  let line (label : String) (value : Bytes) : Bytes := Bytes.ofString label ++ value ++ [0x0A]
  let mark : Bytes := if b.modified then " (modified)" else ""
  "🚀 reshape version info:\n" ++ line "Version:   " b.version
    ++ line "Revision:  " (b.revision ++ mark) ++ line "Built:     " b.time
    ++ line "Go:        " b.toolchain ++ line "Platform:  " b.platform

end Build

end Retouch
