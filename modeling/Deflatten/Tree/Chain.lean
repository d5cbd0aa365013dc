import Deflatten.Tree.Walk
/-!
# Chains

A chain is an `if` statement, its head, with the `if` statements that follow in its `else` parts. The last member is
the tail. `Tree.chain` lists the members; `chainPath` is the path from the head to a member.
-/

namespace Deflatten

namespace Tree

theorem sizeOf_lookup_lt {fs : List (String × Tree)} {name : String} {t : Tree} (h : fs.lookup name = some t) :
    sizeOf t < sizeOf fs := by
  induction fs with
  | nil => simp at h
  | cons f fs ih =>
    obtain ⟨n, v⟩ := f
    rw [List.lookup_cons] at h
    simp only [List.cons.sizeOf_spec, Prod.mk.sizeOf_spec]
    split at h
    · cases h; omega
    · have := ih h; omega

/-- The value of a field is smaller than the tree it belongs to. -/
theorem sizeOf_field_lt {t part : Tree} {name : String} (h : t.field? name = some part) : sizeOf part < sizeOf t := by
  match t with
  | .scalar _ => simp [field?, fields] at h
  | .list _ => simp [field?, fields] at h
  | .record fs =>
    have := sizeOf_lookup_lt h
    simp only [Tree.record.sizeOf_spec]
    simp only [fields] at this
    omega
  | .node _ fs =>
    have := sizeOf_lookup_lt h
    simp only [Tree.node.sizeOf_spec]
    simp only [fields] at this
    omega

/-- The members of the chain that a tree heads; none unless it is an `if` statement. -/
def chain (t : Tree) : List Tree :=
  if t.isConditional then
    match _h : t.field? "alternate" with
    | some next => t :: next.chain
    | none => [t]
  else []
termination_by sizeOf t
decreasing_by exact sizeOf_field_lt _h

/-- The last member of a chain; a tree that heads none is its own tail. -/
def chainTail (t : Tree) : Tree := t.chain.getLast?.getD t

/-- The statements of a block; `none` for anything else. -/
def blockBody? (t : Tree) : Option (List Tree) := if t.isBlock then some (t.get "body").items else none

end Tree

/-- The step into an `else` part. -/
def alternateStep : Step := ⟨"alternate", none⟩

/-- The path from a head to the member of its chain that `k` others precede. -/
def chainPath (k : Nat) : List Step := List.replicate k alternateStep

end Deflatten
