import Deflatten.Proofs.Tree.Chains
/-!
# Flat chains

The `if` statements of a flat chain are its members and no others. They are visited in chain order, each at the path
along the chain (`Tree.places_of_isFlatChain`).
-/

namespace Deflatten

namespace Tree

variable {t : Tree}

/-- The `if` statements of a tree in document order, each with the path to it. -/
def places (t : Tree) : List (List Step × Tree) := t.conditionals.map fun v => (v.path, v.node)

/-- A place below a step. -/
def placeBelow (s : Step) (q : List Step × Tree) : List Step × Tree := (s :: q.1, q.2)

theorem places_eq (t : Tree) :
    t.places = (if t.isConditional then [([], t)] else []) ++
      t.children.flatMap fun c => c.2.places.map (placeBelow c.1) := by
  have hbelow : ∀ c ∈ t.children,
      ((c.2.walk.map (Visit.ofChild t c).under).filter (·.node.hasTag Tag.conditional)).map
          (fun v => (v.path, v.node)) = c.2.places.map (placeBelow c.1) := by
    intro c _
    rw [List.filter_map, List.map_map, places, conditionals, walkTag, List.map_map]
    rfl
  rw [places, conditionals, walkTag, walk_eq, List.filter_cons, List.filter_flatMap]
  have hroot : (Visit.root t).node.hasTag Tag.conditional = t.isConditional := rfl
  rw [hroot]
  split
  · rw [List.map_cons, List.map_flatMap, List.flatMap_congr hbelow]
    rfl
  · rw [List.map_flatMap, List.flatMap_congr hbelow]
    rfl

theorem places_of_hasNoConditional (h : t.HasNoConditional) : t.places = [] := by
  induction t using induction_children with
  | step t ih =>
    rw [places_eq, h.self, if_neg Bool.false_ne_true, List.nil_append, List.flatMap_eq_nil_iff]
    intro c hc
    rw [ih c hc (h.child hc), List.map_nil]

/-- Below the members of a chain there is no `if` statement but the next member. -/
def IsFlatChain (t : Tree) : Prop :=
  ∀ member ∈ t.chain, ∀ c ∈ member.children, (c.1 = alternateStep ∧ c.2.isConditional) ∨ c.2.HasNoConditional

instance (t : Tree) : Decidable t.IsFlatChain := inferInstanceAs (Decidable (∀ member ∈ t.chain, _))

theorem IsFlatChain.head (h : t.IsFlatChain) (ht : t.isConditional) {c : Step × Tree} (hc : c ∈ t.children) :
    (c.1 = alternateStep ∧ c.2.isConditional) ∨ c.2.HasNoConditional :=
  h t (by rw [chain_eq ht]; exact List.mem_cons_self) c hc

theorem IsFlatChain.alternate (h : t.IsFlatChain) (ht : t.isConditional) : (t.get "alternate").IsFlatChain :=
  fun member hmember => h member (by rw [chain_eq ht]; exact List.mem_cons_of_mem _ hmember)

/-- A chain is flat if its head is, and the chain that goes on from there. -/
theorem isFlatChain_of_head
    (hhead : ∀ c ∈ t.children, (c.1 = alternateStep ∧ c.2.isConditional) ∨ c.2.HasNoConditional)
    (hrest : (t.get "alternate").IsFlatChain) : t.IsFlatChain := by
  intro member hmember
  cases ht : t.isConditional with
  | false =>
    rw [chain_of_not_isConditional ht] at hmember
    cases hmember
  | true =>
    rw [chain_eq ht] at hmember
    rcases List.mem_cons.mp hmember with rfl | hmember
    · exact hhead
    · exact hrest member hmember

theorem isFlatChain_of_not_isConditional (h : t.isConditional = false) : t.IsFlatChain := by
  intro member hmember
  rw [chain_of_not_isConditional h] at hmember
  cases hmember

/-- A field of a member that is not the next member holds no `if` statement. -/
theorem IsFlatChain.get (h : t.IsFlatChain) (ht : t.isConditional) {name : String} (hn : isNote name = false)
    (hne : name ≠ "alternate") (hc : (t.get name).isNode) : (t.get name).HasNoConditional := by
  rcases h.head ht (get_mem_children (isNode_of_isConditional ht) hn hc) with ⟨hstep, -⟩ | hnone
  · exact absurd (congrArg Step.field hstep) hne
  · exact hnone

theorem flatMap_of_others_nil {α β γ : Type} {l : List (α × β)} {f : α × β → List γ} {a : α × β} (ha : a ∈ l)
    (hnodup : (l.map Prod.fst).Nodup) (h : ∀ b ∈ l, b.1 ≠ a.1 → f b = []) : l.flatMap f = f a := by
  induction l with
  | nil => cases ha
  | cons b l ih =>
    rw [List.map_cons, List.nodup_cons] at hnodup
    rw [List.flatMap_cons]
    rcases List.mem_cons.mp ha with rfl | ha
    · have hrest : l.flatMap f = [] := by
        rw [List.flatMap_eq_nil_iff]
        intro b hb
        exact h b (List.mem_cons_of_mem _ hb) fun heq => hnodup.1 (heq ▸ List.mem_map_of_mem hb)
      rw [hrest, List.append_nil]
    · have hne : b.1 ≠ a.1 := fun heq => hnodup.1 (heq ▸ List.mem_map_of_mem ha)
      rw [h b List.mem_cons_self hne, List.nil_append]
      exact ih ha hnodup.2 fun b' hb' => h b' (List.mem_cons_of_mem _ hb')

/-- The members of a flat chain are its `if` statements, in chain order. -/
theorem places_of_isFlatChain (ht : t.HasDistinctFields) (hcond : t.isConditional) (h : t.IsFlatChain) :
    t.places = t.chain.zipIdx.map fun m => (chainPath m.2, m.1) := by
  induction t using chain_induction with
  | stop t hstop => rw [hstop] at hcond; cases hcond
  | member t _ ih =>
    have hothers : ∀ c ∈ t.children, c.1 ≠ alternateStep → c.2.places.map (placeBelow c.1) = [] := by
      intro c hc hne
      rcases h.head hcond hc with ⟨hstep, -⟩ | hnone
      · exact absurd hstep hne
      · rw [places_of_hasNoConditional hnone, List.map_nil]
    rw [places_eq, if_pos hcond, chain_eq hcond, List.zipIdx_cons, List.map_cons, List.singleton_append]
    congr 1
    cases hnext : (t.get "alternate").isConditional with
    | true =>
      have hmem : (alternateStep, t.get "alternate") ∈ t.children :=
        get_mem_children (isNode_of_isConditional hcond) rfl (isNode_of_isConditional hnext)
      rw [flatMap_of_others_nil hmem (nodup_steps_children ht.self) hothers,
        ih (ht.child hmem) hnext (h.alternate hcond), List.map_map, List.zipIdx_succ, List.map_map]
      rfl
    | false =>
      rw [chain_of_not_isConditional hnext, List.zipIdx_nil, List.map_nil, List.flatMap_eq_nil_iff]
      intro c hc
      by_cases hstep : c.1 = alternateStep
      · -- The `else` part of the last member is no `if` statement.
        have hget : t.get "alternate" = c.2 := by
          have hfound := step?_of_mem_children ht.self hc
          rw [hstep] at hfound
          exact get_of_field? hfound
        rcases h.head hcond hc with ⟨-, hc⟩ | hnone
        · rw [← hget, hnext] at hc
          cases hc
        · rw [places_of_hasNoConditional hnone, List.map_nil]
      · exact hothers c hc hstep

end Tree
end Deflatten
