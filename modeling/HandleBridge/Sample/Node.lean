import HandleBridge.Sample.Counter

/-
  The exports of the node, which call other exports: a node is made after its child, ends before
  its child, and `nest` makes a call while the node is in use.
-/

namespace HandleBridge.Sample.Node

/-- A node of the given depth on top of a chain of nodes. The child is made first. -/
def create : (depth : Nat) → Script catalog UInt32
  | 0 => .create nodeType (pure (⟨0, 0⟩ : Node)) Script.silentDrop
  | d + 1 =>
    let make : Script catalog Node := do
      let child ← create d
      pure ⟨UInt32.ofNat (d + 1), child⟩
    .create nodeType make Script.silentDrop

/-- The handle of the next node, or zero. -/
def getChild (raw : UInt32) : Script catalog UInt32 :=
  .withInstance nodeType raw 0 fun (n : Node) => pure (n, .bare n.child)

def getDepth (raw : UInt32) : Script catalog UInt32 :=
  .withInstance nodeType raw 0 fun (n : Node) => pure (n, .bare n.depth)

/-- Ends the node and answers the depth of its child, raised by a thousand. -/
def detach (raw : UInt32) : Script catalog UInt32 :=
  .take nodeType .consume raw 0 fun (n : Node) => do
    let d ← getDepth n.child
    pure (.bare (d + 1000))

/-- Ends a chain of at most so many nodes. -/
def destroyChain : Nat → UInt32 → Script catalog Unit
  | 0, _ => pure ()
  | d + 1, raw =>
    if raw = invalidHandle then pure ()
    else
      .take nodeType .destroy raw () fun (n : Node) => do
        destroyChain d n.child
        pure (.bare ())

/-- Ends the node and then its chain, which is no longer than the node is deep. -/
def destroy (raw : UInt32) : Script catalog Unit :=
  .take nodeType .destroy raw () fun (n : Node) => do
    destroyChain n.depth.toNat n.child
    pure (.bare ())

/-- A call made while the node is in use. Those on nodes are turned away. -/
def nested (action other : UInt32) : Script catalog UInt64 :=
  match action.toNat with
  | 0 => do return (← getDepth other).toUInt64
  | 1 => do return (← create 0).toUInt64
  | 2 => do
    destroy other
    return 2
  | 3 => do return (← detach other).toUInt64
  | 4 => do return (← Counter.create).toUInt64
  | 5 => Counter.getValue other
  | _ => return 99

/-- Runs a nested call from inside the node. -/
def nest (raw action other : UInt32) : Script catalog UInt64 :=
  .withInstance nodeType raw 0 fun (n : Node) => do
    let r ← nested action other
    pure (n, .bare r)

end HandleBridge.Sample.Node
