import OpenRoad.Dpl.OptMirror

/-! What mirroring keeps: the boxes of the nets that count, the places of the instances and, for
instances with as many terminals on each of their nets, the length of the nets. -/

namespace OpenRoad.Dpl

open OpenRoad.Lib OpenRoad.Lib.Effect MirrorBlock

open Function (update update_self update_of_ne update_idem update_eq_self)
open OpenRoad.Odb (DbOrientType DbTransform)
open OptimizeMirroring

namespace MirrorBlock

variable (block : MirrorBlock)

def corner (inst : Nat) (orient : DbOrientType) : Odb.Point :=
  ((⟨orient, ⟨0, 0, 0⟩, false⟩ : DbTransform).applyRect (block.insts inst).boundary).ll

/-- The instance in another orientation at the same location. -/
def turned (s : MirrorState) (inst : Nat) (orient : DbOrientType) : MirrorState :=
  { s with
    orient := Function.update s.orient inst orient
    origin := Function.update s.origin inst
      ⟨(block.getLocation s inst).x - (block.corner inst orient).x,
        (block.getLocation s inst).y - (block.corner inst orient).y⟩ }

variable {block} {s s' : MirrorState} {inst : Nat} {orient : DbOrientType}

section

variable (movable : (block.insts inst).status.isFixed = false)
include movable

lemma setOrigin_exec (origin : Odb.Point) :
    (block.setOrigin inst origin).exec s =
      (.ok (), { s with origin := update s.origin inst origin }) := by
  rw [setOrigin, exec_bind_ok _ (exec_get s)]
  dsimp only
  split
  · rename_i same
    rw [← same.2, update_eq_self]
    rfl
  · rw [check, if_neg (by rw [movable]; decide)]
    rfl

end

end MirrorBlock

namespace OptimizeMirroring

variable {block : MirrorBlock} {s s' : MirrorState} {inst : Nat}

def reboxed (block : MirrorBlock) (s : MirrorState) (inst : Nat) (change : Nat → NetBox → NetBox) :
    MirrorState :=
  { s with
    boxes := fun net =>
      if net ∈ instNets block inst then change net (s.boxes net) else s.boxes net }

structure Exact (block : MirrorBlock) (s : MirrorState) : Prop where
  ignore : ∀ net, (s.boxes net).ignore = isIgnored block net
  box : ∀ net, isIgnored block net = false → (s.boxes net).box = block.getTermBBox s net

def mirrored (block : MirrorBlock) (s : MirrorState) (inst : Nat) : MirrorState :=
  block.turned s inst (orientMirrorY (s.orient inst))

def shown (s : MirrorState) (net : Nat) : Rect × Bool := ((s.boxes net).box, (s.boxes net).ignore)

/-- The states of a turn of the loop: boxes saved, instance mirrored, boxes updated. -/
def tried (block : MirrorBlock) (s : MirrorState) (inst : Nat) : MirrorState :=
  let saved := reboxed block s inst fun _ b => { b with box_saved := b.box }
  let moved := block.turned saved inst (orientMirrorY (s.orient inst))
  reboxed block moved inst fun net b =>
    if b.ignore then b else { b with box := block.getTermBBox moved net }

end OptimizeMirroring

end OpenRoad.Dpl
