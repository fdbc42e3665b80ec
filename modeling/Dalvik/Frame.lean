import Dalvik.Config
import Dalvik.Registers

/-!
# Frames

One method invocation in progress: its registers, and the methods that were called to get there,
outermost first. How deep calls may nest, and whether registers of new frames are traced, is taken
from the configuration where the outermost frame is made and handed down from then on.
-/

namespace Dalvik

/-- A method invocation in progress. -/
structure Frame where
  registers : Registers
  callPath : List String
  depthLimit : Nat
  traced : Bool
deriving Inhabited

namespace Frame

/-- An outermost frame. -/
def root (config : Config) (registers : Registers) : Frame where
  registers := registers.setTraced config.tracing.registers
  callPath := []
  depthLimit := config.maxCallDepth
  traced := config.tracing.registers

/-- The number of calls that lead to the frame. -/
def depth (frame : Frame) : Nat := frame.callPath.length

/-- The frame of a call to `method`, if calls may nest that deep. -/
def call (frame : Frame) (method : String) (registers : Registers) : Except Fault Frame :=
  if frame.depth < frame.depthLimit then
    .ok { frame with
      registers := registers.setTraced frame.traced
      callPath := frame.callPath ++ [method] }
  else .error (.callDepthExceeded (frame.depth + 1) frame.depthLimit)

end Frame

end Dalvik
