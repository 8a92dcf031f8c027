import OpenRoad.Dpl.MirrorRuns

/-! Mirroring and the length of all nets that count. -/

namespace OpenRoad.Dpl

open OpenRoad.Lib OpenRoad.Lib.Effect List MirrorBlock
open OpenRoad.Odb (DbOrientType DbTransform)

namespace OptimizeMirroring

section Statements

variable (block : MirrorBlock)

end Statements

variable {block : MirrorBlock} {s s' mid : MirrorState} {inst : Nat}

def countedNets (block : MirrorBlock) (inst : Nat) : List Nat :=
  (instNets block inst).filter fun net => !isIgnored block net

end OptimizeMirroring

end OpenRoad.Dpl
