import Mathlib.Data.List.Basic
import Custody.Handle

/-!
# Forests of registrations

The registrations that go down with an owner form a tree. A forest is walked in preorder when every
tree goes down with its root, and level by level when those below a root have to wait. Both walks
visit each registration once, and none before the one that owns it.
-/

set_option autoImplicit false

namespace Custody.Session

/-- A registration: its place, its handle, and the label that its destruction shows if any. -/
structure Member where
  id : Nat
  handle : Handle
  label : Option String

/-- A registration with those that its object owns. -/
inductive Tree where
  | branch (top : Member) (children : List Tree)

namespace Tree

def top : Tree → Member
  | branch top _ => top

def children : Tree → List Tree
  | branch _ children => children

mutual

def downward : Tree → List Tree
  | branch top children => branch top children :: within children

/-- The trees within a forest, each one before those below it and these before the next one. -/
def within : List Tree → List Tree
  | [] => []
  | tree :: rest => downward tree ++ within rest

end

def size (forest : List Tree) : Nat := (within forest).length

theorem within_cons (tree : Tree) (rest : List Tree) :
    within (tree :: rest) = tree :: (within tree.children ++ within rest) := by
  cases tree
  rfl

theorem within_append (front back : List Tree) :
    within (front ++ back) = within front ++ within back := by
  induction front with
  | nil => simp [within]
  | cons tree front ih => simp [within_cons, ih]

/-- A statement about forests holds when it passes on from the children and the rest. -/
theorem forest_induction {motive : List Tree → Prop} (nil : motive [])
    (cons : ∀ tree rest, motive tree.children → motive rest → motive (tree :: rest)) :
    ∀ forest, motive forest
  | [] => nil
  | branch top below :: rest =>
      cons (branch top below) rest (forest_induction nil cons below)
        (forest_induction nil cons rest)

theorem mem_within {forest : List Tree} {tree : Tree} (member : tree ∈ forest) :
    tree ∈ within forest := by
  induction forest with
  | nil => cases member
  | cons first rest ih =>
      rw [within_cons]
      rcases List.mem_cons.1 member with rfl | member
      · exact List.mem_cons_self
      · exact List.mem_cons_of_mem _ (List.mem_append_right _ (ih member))

theorem within_perm (forest : List Tree) :
    (forest ++ within (forest.flatMap children)).Perm (within forest) := by
  induction forest with
  | nil => exact .refl _
  | cons tree rest ih =>
      rw [within_cons, List.flatMap_cons, within_append, List.cons_append]
      refine .cons tree ?_
      calc
        List.Perm _ (within tree.children ++ (rest ++ within (rest.flatMap children))) :=
          List.perm_append_comm_assoc _ _ _
        List.Perm _ (within tree.children ++ within rest) := ih.append_left _

theorem within_eq_flatMap (forest : List Tree) :
    within forest = forest.flatMap fun tree => tree :: within tree.children := by
  induction forest with
  | nil => rfl
  | cons tree rest ih => rw [within_cons, List.flatMap_cons, ih, List.cons_append]

theorem within_perm_of_perm {left right : List Tree} (same : left.Perm right) :
    (within left).Perm (within right) := by
  rw [within_eq_flatMap, within_eq_flatMap]
  exact same.flatMap_right _

/-! ## Preorder -/

/-- The registrations of a forest, each one before those that it owns and these before the next. -/
def preorder (forest : List Tree) : List Member := (within forest).map top

@[simp]
theorem preorder_nil : preorder [] = [] := rfl

theorem preorder_cons (tree : Tree) (rest : List Tree) :
    preorder (tree :: rest) = tree.top :: (preorder tree.children ++ preorder rest) := by
  rw [preorder, within_cons, List.map_cons, List.map_append]
  rfl

theorem length_preorder (forest : List Tree) : (preorder forest).length = size forest := by
  rw [preorder, List.length_map, size]

theorem mem_preorder {forest : List Tree} {tree : Tree} (member : tree ∈ within forest) :
    tree.top ∈ preorder forest :=
  List.mem_map_of_mem member

theorem preorder_append (front back : List Tree) :
    preorder (front ++ back) = preorder front ++ preorder back := by
  rw [preorder, within_append, List.map_append]
  rfl

theorem preorder_perm (forest : List Tree) :
    (forest.map top ++ preorder (forest.flatMap children)).Perm (preorder forest) := by
  rw [preorder, ← List.map_append]
  exact (within_perm forest).map top

/-- A root may be taken from the front of a queue and its children put at the end. -/
theorem preorder_queue (tree : Tree) (queue : List Tree) :
    (tree.top :: preorder (queue ++ tree.children)).Perm (preorder (tree :: queue)) := by
  rw [preorder_cons, preorder_append]
  exact List.perm_append_comm.cons tree.top

theorem preorder_below_queue (tree : Tree) (queue : List Tree) :
    (tree.children.map top ++ preorder ((queue ++ tree.children).flatMap children)).Perm
      (preorder ((tree :: queue).flatMap children)) := by
  rw [List.flatMap_append, List.flatMap_cons, preorder_append, preorder_append]
  calc
    List.Perm _ (preorder (queue.flatMap children) ++
        (tree.children.map top ++ preorder (tree.children.flatMap children))) :=
      List.perm_append_comm_assoc _ _ _
    List.Perm _ (preorder (queue.flatMap children) ++ preorder tree.children) :=
      (preorder_perm tree.children).append_left _
    List.Perm _ _ := List.perm_append_comm

theorem sublist_within (forest : List Tree) {tree child : Tree} (member : tree ∈ within forest)
    (below : child ∈ tree.children) : [tree, child].Sublist (within forest) := by
  induction forest using forest_induction with
  | nil => rw [within] at member; cases member
  | cons first rest inChildren inRest =>
      rw [within_cons] at member ⊢
      rcases List.mem_cons.1 member with rfl | member
      · exact .cons_cons _ (List.singleton_sublist.2 (List.mem_append_left _ (mem_within below)))
      · refine .cons _ ?_
        rcases List.mem_append.1 member with inside | later
        · exact (inChildren inside).trans (List.sublist_append_left _ _)
        · exact (inRest later).trans (List.sublist_append_right _ _)

/-! ## Level order -/

theorem size_cons (tree : Tree) (rest : List Tree) :
    size (tree :: rest) = size tree.children + size rest + 1 := by
  rw [size, within_cons, List.length_cons, List.length_append]
  rfl

theorem size_append (front back : List Tree) : size (front ++ back) = size front + size back := by
  rw [size, within_append, List.length_append]
  rfl

theorem size_eq (forest : List Tree) :
    size forest = forest.length + size (forest.flatMap children) := by
  rw [size, ← (within_perm forest).length_eq, List.length_append]
  rfl

theorem size_eq_zero_iff (forest : List Tree) : size forest = 0 ↔ forest = [] := by
  cases forest with
  | nil => simp [size, within]
  | cons tree rest => simp [size_cons]

def levels : List Tree → List Tree
  | [] => []
  | tree :: rest => tree :: rest ++ levels ((tree :: rest).flatMap children)
termination_by forest => size forest
decreasing_by
  rw [size_eq (tree :: rest), List.length_cons]
  omega

def levelOrder (forest : List Tree) : List Member := (levels forest).map top

theorem levels_eq (forest : List Tree) :
    levels forest = forest ++ levels (forest.flatMap children) := by
  cases forest with
  | nil => simp [levels]
  | cons tree rest => rw [levels]

theorem levels_perm (forest : List Tree) : (levels forest).Perm (within forest) := by
  induction forest using levels.induct with
  | case1 => rw [levels, within]
  | case2 tree rest ih =>
      rw [levels]
      exact (ih.append_left _).trans (within_perm (tree :: rest))

theorem sublist_levels (forest : List Tree) {tree child : Tree} (member : tree ∈ levels forest)
    (below : child ∈ tree.children) : [tree, child].Sublist (levels forest) := by
  induction forest using levels.induct with
  | case1 => rw [levels] at member; cases member
  | case2 first rest ih =>
      rw [levels] at member ⊢
      rcases List.mem_append.1 member with here | later
      · have next : child ∈ levels ((first :: rest).flatMap children) := by
          rw [levels_eq]
          exact List.mem_append_left _ (List.mem_flatMap.2 ⟨tree, here, below⟩)
        exact (List.singleton_sublist.2 here).append (List.singleton_sublist.2 next)
      · exact (ih later).trans (List.sublist_append_right _ _)

/-- The walk of a queue that the children of each tree join at the end. -/
def breadthFirst : List Tree → List Tree
  | [] => []
  | tree :: queue => tree :: breadthFirst (queue ++ tree.children)
termination_by queue => size queue
decreasing_by
  rw [size_cons, size_append]
  omega

theorem breadthFirst_append (front back : List Tree) :
    breadthFirst (front ++ back) =
      front ++ breadthFirst (back ++ front.flatMap children) := by
  induction front generalizing back with
  | nil => simp
  | cons tree front ih =>
      rw [List.cons_append, breadthFirst, List.append_assoc, ih, List.append_assoc,
        List.flatMap_cons, List.cons_append]

theorem breadthFirst_eq_levels (forest : List Tree) : breadthFirst forest = levels forest := by
  induction forest using levels.induct with
  | case1 => rw [breadthFirst, levels]
  | case2 tree rest ih =>
      -- after a whole level the queue holds the next one
      have queue := breadthFirst_append (tree :: rest) []
      rw [List.append_nil, List.nil_append, ih] at queue
      rw [queue, levels]

end Tree

end Custody.Session
