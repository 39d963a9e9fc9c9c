import Mathlib.Data.List.Perm.Subperm

/-!
A walk over a finite graph that may have cycles: everything that is reached from a node along a
list of edges.
-/

namespace Rub

open List

variable {Node : Type} [DecidableEq Node]

/-- An edge of the list. -/
def Leads (edges : List (Node × Node)) (source target : Node) : Prop := (source, target) ∈ edges

def successors (edges : List (Node × Node)) (node : Node) : List Node :=
  (edges.filter fun edge => edge.1 = node).map Prod.snd

/-- Takes pending nodes one by one, and adds the successors of those not seen before. -/
def visit (edges : List (Node × Node)) : Nat → List Node → List Node → List Node
  | 0, _, seen => seen
  | _ + 1, [], seen => seen
  | fuel + 1, node :: pending, seen =>
    if node ∈ seen then visit edges fuel pending seen
    else visit edges fuel (pending ++ successors edges node) (node :: seen)

def reachable (edges : List (Node × Node)) (root : Node) : List Node :=
  visit edges (edges.length + 1) [root] []

variable {edges : List (Node × Node)}

theorem mem_successors {node target : Node} :
    target ∈ successors edges node ↔ Leads edges node target := by
  unfold successors Leads
  simp

/-- What holds of the nodes and passes along the edges holds of all that is visited. -/
theorem visit_invariant {holds : Node → Prop}
    (passes : ∀ source target, holds source → Leads edges source target → holds target) (fuel : Nat)
    {pending seen : List Node} (pendingHold : ∀ node ∈ pending, holds node)
    (seenHold : ∀ node ∈ seen, holds node) :
    ∀ node ∈ visit edges fuel pending seen, holds node := by
  induction fuel generalizing pending seen with
  | zero => exact seenHold
  | succ _ ih =>
    cases pending with
    | nil => exact seenHold
    | cons node pending =>
      have first := pendingHold node mem_cons_self
      have rest : ∀ n ∈ pending, holds n := fun n member => pendingHold n (mem_cons_of_mem _ member)
      unfold visit
      split
      · exact ih rest seenHold
      · apply ih
        · intro n member
          rcases mem_append.mp member with member | member
          · exact rest n member
          · exact passes node n first (mem_successors.mp member)
        · intro n member
          rcases mem_cons.mp member with rfl | member
          · exact first
          · exact seenHold n member

/-- The edges whose source has not been seen. -/
def openEdges (edges : List (Node × Node)) (seen : List Node) : Nat :=
  edges.countP fun edge => edge.1 ∉ seen

theorem openEdges_cons {seen : List Node} {node : Node} (fresh : node ∉ seen) :
    openEdges edges (node :: seen) + (successors edges node).length = openEdges edges seen := by
  unfold openEdges successors
  rw [length_map, ← countP_eq_length_filter]
  induction edges with
  | nil => rfl
  | cons edge =>
    simp only [countP_cons]
    by_cases same : edge.1 = node
    · have spent : decide (node ∉ node :: seen) = false := by simp
      have counted : decide (node ∉ seen) = true := by simp [fresh]
      simp only [same, spent, counted, decide_true, if_true, Bool.false_eq_true, if_false]
      omega
    · have kept : decide (edge.1 ∉ node :: seen) = decide (edge.1 ∉ seen) := by simp [same]
      simp only [same, kept, decide_false, Bool.false_eq_true, if_false]
      omega

/-- With a unit of fuel for each pending node and open edge, the visited nodes are closed. -/
theorem visit_closed (fuel : Nat) {pending seen : List Node}
    (budget : pending.length + openEdges edges seen ≤ fuel)
    (frontier : ∀ source ∈ seen, ∀ target, Leads edges source target →
      target ∈ seen ∨ target ∈ pending) :
    (∀ node ∈ seen, node ∈ visit edges fuel pending seen) ∧
      (∀ node ∈ pending, node ∈ visit edges fuel pending seen) ∧
      ∀ source ∈ visit edges fuel pending seen, ∀ target, Leads edges source target →
        target ∈ visit edges fuel pending seen := by
  induction fuel generalizing pending seen with
  | zero =>
    have done : pending = [] := length_eq_zero_iff.mp (by omega)
    subst done
    refine ⟨fun node member => member, fun node member => absurd member not_mem_nil, ?_⟩
    intro source member target leads
    exact (frontier source member target leads).resolve_right not_mem_nil
  | succ _ ih =>
    cases pending with
    | nil =>
      refine ⟨fun node member => member, fun node member => absurd member not_mem_nil, ?_⟩
      intro source member target leads
      exact (frontier source member target leads).resolve_right not_mem_nil
    | cons node pending =>
      rw [length_cons] at budget
      unfold visit
      split
      · rename_i known
        obtain ⟨seenIn, pendingIn, closed⟩ := @ih pending seen (by omega) (by
          intro source member target leads
          rcases frontier source member target leads with found | found
          · exact .inl found
          · rcases mem_cons.mp found with rfl | found
            · exact .inl known
            · exact .inr found)
        refine ⟨seenIn, ?_, closed⟩
        intro n member
        rcases mem_cons.mp member with rfl | member
        · exact seenIn n known
        · exact pendingIn n member
      · rename_i fresh
        have spent : openEdges edges (node :: seen) + _ = _ := openEdges_cons fresh
        obtain ⟨seenIn, pendingIn, closed⟩ := @ih (pending ++ successors edges node) (node :: seen)
            (by rw [length_append]; omega) (by
              intro source member target leads
              rcases mem_cons.mp member with rfl | member
              · exact .inr (mem_append_right _ (mem_successors.mpr leads))
              · rcases frontier source member target leads with found | found
                · exact .inl (mem_cons_of_mem _ found)
                · rcases mem_cons.mp found with rfl | found
                  · exact .inl mem_cons_self
                  · exact .inr (mem_append_left _ found))
        refine ⟨fun n member => seenIn n (mem_cons_of_mem _ member), ?_, closed⟩
        intro n member
        rcases mem_cons.mp member with rfl | member
        · exact seenIn n mem_cons_self
        · exact pendingIn n (mem_append_left _ member)

theorem mem_reachable {root node : Node} :
    node ∈ reachable edges root ↔ Relation.ReflTransGen (Leads edges) root node := by
  have budget : [root].length + openEdges edges [] ≤ edges.length + 1 := by
    have bound : openEdges edges [] ≤ edges.length := countP_le_length
    rw [length_singleton]
    omega
  obtain ⟨-, started, closed⟩ := visit_closed (edges.length + 1) budget
    fun source member => absurd member not_mem_nil
  constructor
  · intro member
    have passes : ∀ source target, Relation.ReflTransGen (Leads edges) root source →
        Leads edges source target → Relation.ReflTransGen (Leads edges) root target :=
      fun _ _ reached leads => reached.tail leads
    apply visit_invariant passes _ _ _ node member
    · intro n member
      rw [mem_singleton.mp member]
    · intro n member
      cases member
  · intro reached
    induction reached with
    | refl => exact started root (mem_singleton_self root)
    | tail _ leads ih => exact closed _ ih _ leads

end Rub
