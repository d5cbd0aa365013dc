import Deflatten.Script.Basic
import Deflatten.SelectorTest
/-!
# Leaf blocks

A `BlockTable` lists the printed bodies of leaf branches with the selector value that leads to each. Looking a value up
finds the first block that it selects; a block with the tag `else` is selected by nothing, and a truth value selects
nothing.
-/

namespace Deflatten

/-- A printed block, the test that leads to it as text, and the selector value. -/
structure LeafBlock where
  condition : String
  value : Scalar
  code : String
  deriving DecidableEq, Repr, Inhabited

/-- Leaf blocks in order. -/
structure BlockTable where
  blocks : List LeafBlock := []
  deriving DecidableEq, Repr, Inhabited

namespace LeafBlock

/-- The tag in place of a value for the block of a plain `else`. -/
def elseTag : String := "else"

/-- Whether a block is that of a plain `else`. -/
def isElse (b : LeafBlock) : Bool := b.value == .text elseTag

/-- Whether a value is a truth value. -/
def isTruth : Scalar → Bool
  | .bool _ => true
  | _ => false

/-- Whether a value leads to a block. -/
def selectedBy (b : LeafBlock) (value : Scalar) : Bool := !b.isElse && !isTruth value && b.value.same value

end LeafBlock

namespace BlockTable

/-- How many blocks there are. -/
def size (t : BlockTable) : Nat := t.blocks.length

/-- Adds a block at the end. -/
def push (t : BlockTable) (b : LeafBlock) : BlockTable := ⟨t.blocks ++ [b]⟩

/-- The first block that a value leads to. -/
def lookup (t : BlockTable) (value : Scalar) : Option LeafBlock := t.blocks.find? (·.selectedBy value)

/-- The place of the first block that a value leads to. -/
def indexOf? (t : BlockTable) (value : Scalar) : Option Nat := t.blocks.findIdx? (·.selectedBy value)

/-- The block at a place; a negative place counts from the end. -/
def get? (t : BlockTable) (index : Int) : Option (Nat × LeafBlock) :=
  let i := if index < 0 then index + t.size else index
  if i < 0 then none else (t.blocks[i.toNat]?).map (i.toNat, ·)

@[simp] theorem blocks_push (t : BlockTable) (b : LeafBlock) : (t.push b).blocks = t.blocks ++ [b] := rfl

@[simp] theorem size_push (t : BlockTable) (b : LeafBlock) : (t.push b).size = t.size + 1 := by simp [size, push]

/-- Blocks at the end do not change what has been found. -/
theorem lookup_push_of_some {t : BlockTable} {value : Scalar} {a : LeafBlock} (b : LeafBlock)
    (h : t.lookup value = some a) : (t.push b).lookup value = some a := by
  simp only [lookup] at h
  simp [lookup, h]

end BlockTable
end Deflatten
