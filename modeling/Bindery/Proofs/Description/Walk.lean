import Bindery.Description.Ty
import Mathlib.Data.List.Sigma

set_option autoImplicit false
set_option relaxedAutoImplicit false

/-!
What the walk over a type visits. A walk keeps a stack and knows nothing of where its types came
from; what is still ahead of it are the stacked types with everything inside them, from the top of
the stack on. Main statement: the walk over a type ends, it visits the type and then what the walks
over its children visit, and so everything that occurs in the type, each occurrence once.
-/

namespace Bindery.Ty

/-! ### The order by recursion -/

mutual

def preorder : Ty → List Ty
  | .primitive p => [.primitive p]
  | .pointer m pointee => .pointer m pointee :: pointee.preorder
  | .string m => [.string m]
  | .slice m element => .slice m element :: element.preorder
  | .owned inner => .owned inner :: inner.preorder
  | .function args returns =>
    .function args returns :: (preorderAll args ++ preorderOption returns)
  | .closure args returns =>
    .closure args returns :: (preorderAll args ++ preorderOption returns)
  | .array element len => .array element len :: element.preorder
  | .named name => [.named name]

def preorderAll : List Ty → List Ty
  | [] => []
  | t :: ts => t.preorder ++ preorderAll ts

def preorderOption : Option Ty → List Ty
  | none => []
  | some t => t.preorder

end

theorem preorderAll_eq (ts : List Ty) : preorderAll ts = ts.flatMap preorder := by
  induction ts with
  | nil => rfl
  | cons t ts ih => rw [preorderAll, ih, List.flatMap_cons]

theorem preorderOption_eq (t : Option Ty) : preorderOption t = t.toList.flatMap preorder := by
  cases t <;> simp [preorderOption]

theorem preorder_eq (t : Ty) : t.preorder = t :: t.children.flatMap preorder := by
  cases t <;> simp [preorder, children, preorderAll_eq, preorderOption_eq]

/-! ### Running a walk -/

namespace Walk

variable {w rest : Walk} {t : Ty} {ts : List Ty}

/-- Asked for one type after the other, a walk yields the types of a list and then ends. -/
inductive Yields : Walk → List Ty → Prop where
  | done {w : Walk} (ended : w.next = none) : Yields w []
  | step {w rest : Walk} {t : Ty} {ts : List Ty} (taken : w.next = some (t, rest))
      (later : Yields rest ts) : Yields w (t :: ts)

/-- What is ahead of a walk: the stacked types with what is inside them, from the top on. -/
def ahead (w : Walk) : List Ty := w.stack.toList.reverse.flatMap preorder

theorem ahead_of_ended (ended : w.next = none) : w.ahead = [] := by
  have empty : w.stack = #[] := by simpa [next] using ended
  simp [ahead, empty]

theorem ahead_of_next (taken : w.next = some (t, rest)) : w.ahead = t :: rest.ahead := by
  obtain ⟨below, rfl, rfl⟩ := eq_of_next taken
  simp [ahead, preorder_eq t]

theorem Yields.eq_ahead (yields : w.Yields ts) : ts = w.ahead := by
  induction yields with
  | done ended => exact (ahead_of_ended ended).symm
  | step taken _ ih => rw [ahead_of_next taken, ih]

theorem visited_of_ended (ended : w.next = none) : w.visited = [] := by
  rw [visited]
  split <;> simp_all

theorem visited_of_next (taken : w.next = some (t, rest)) : w.visited = t :: rest.visited := by
  rw [visited]
  split <;> simp_all

theorem yields_visited (w : Walk) : w.Yields w.visited := by
  -- The stack may grow with a step; what shrinks is the size of everything on it.
  induction size : w.size using Nat.strongRecOn generalizing w with
  | _ n ih =>
    rcases outcome : w.next with _ | ⟨t, rest⟩
    · rw [visited_of_ended outcome]
      exact .done outcome
    · rw [visited_of_next outcome]
      have step := size_of_next outcome
      exact .step outcome (ih rest.size (by omega) rest rfl)

theorem yields_iff : w.Yields ts ↔ ts = w.visited := by
  constructor
  · intro yields
    exact yields.eq_ahead.trans (yields_visited w).eq_ahead.symm
  · rintro rfl
    exact yields_visited w

end Walk

theorem tree_eq_preorder (t : Ty) : t.tree = t.preorder := by
  rw [tree, (Walk.yields_visited _).eq_ahead]
  simp [Walk.ahead, Walk.start]

theorem tree_eq (t : Ty) : t.tree = t :: t.children.flatMap tree := by
  rw [tree_eq_preorder, preorder_eq, funext tree_eq_preorder]

/-! ### Occurrences -/

def atPath : Ty → List Nat → Option Ty
  | t, [] => some t
  | t, i :: path => t.children[i]?.bind fun u => u.atPath path

/-- The paths to everything in a type, in the order of the walk. -/
def paths (t : Ty) : List (List Nat) :=
  [] :: t.children.attach.zipIdx.flatMap fun p => (paths p.1.val).map (p.2 :: ·)
termination_by t.size
decreasing_by exact size_lt_of_mem_children p.1.property

theorem paths_eq (t : Ty) :
    t.paths = [] :: t.children.zipIdx.flatMap fun p => p.1.paths.map (p.2 :: ·) := by
  rw [paths]
  conv_rhs => rw [← t.children.attach_map_subtype_val, List.zipIdx_map, List.flatMap_map]
  rfl

theorem mem_paths_iff {t : Ty} {path : List Nat} : path ∈ t.paths ↔ (t.atPath path).isSome := by
  induction path generalizing t with
  | nil => simp [paths_eq t, atPath]
  | cons i path ih =>
    have inside : i :: path ∈ t.paths ↔ ∃ u, t.children[i]? = some u ∧ path ∈ u.paths := by
      simp [paths_eq t, List.mem_zipIdx_iff_getElem?]
    rw [inside, atPath]
    cases t.children[i]? <;> simp [ih]

theorem nodup_paths (t : Ty) : t.paths.Nodup := by
  induction t using size_induction with
  | step t ih =>
    rw [paths_eq, List.nodup_cons, List.nodup_flatMap]
    refine ⟨by simp, fun p member => ?_, ?_⟩
    · have child : p.1 ∈ t.children := List.mem_of_getElem? (List.mem_zipIdx_iff_getElem?.mp member)
      exact (ih p.1 (size_lt_of_mem_children child)).map List.cons_injective
    · -- Paths into two children differ in their first step.
      refine (List.pairwise_map.mp (List.nodup_zipIdx_map_snd t.children)).imp fun apart => ?_
      intro path first second
      obtain ⟨_, -, rfl⟩ := List.mem_map.mp first
      obtain ⟨_, -, same⟩ := List.mem_map.mp second
      exact apart (List.cons.inj same).1.symm

theorem map_atPath_paths (t : Ty) : t.paths.map t.atPath = t.tree.map some := by
  induction t using size_induction with
  | step t ih =>
    have below : ∀ p ∈ t.children.zipIdx,
        (p.1.paths.map (p.2 :: ·)).map t.atPath = p.1.tree.map some := by
      intro p member
      have found := List.mem_zipIdx_iff_getElem?.mp member
      rw [← ih p.1 (size_lt_of_mem_children (List.mem_of_getElem? found)), List.map_map]
      refine List.map_congr_left fun path _ => ?_
      simp [atPath, found]
    calc t.paths.map t.atPath
        = some t :: t.children.zipIdx.flatMap fun p => p.1.tree.map some := by
          rw [paths_eq, List.map_cons, List.map_flatMap, List.flatMap_congr below, atPath]
      _ = some t :: t.children.flatMap fun u => u.tree.map some := by
          conv_rhs => rw [← List.zipIdx_map_fst 0 t.children, List.flatMap_map]
      _ = t.tree.map some := by
          rw [tree_eq t, List.map_cons, List.map_flatMap]

/-- The walk over a type ends after the types of its tree: the type and then the trees of its
children, in their order. They are what stands at the paths into the type, each of which is taken
once. -/
theorem tree_walked_once (t : Ty) :
    (∀ ts, (Walk.start t).Yields ts ↔ ts = t.tree) ∧
    t.tree = t.preorder ∧
    t.tree = t :: t.children.flatMap tree ∧
    ∃ paths : List (List Nat), paths.Nodup ∧
      (∀ path, path ∈ paths ↔ (t.atPath path).isSome) ∧
      paths.map t.atPath = t.tree.map some :=
  ⟨fun _ => Walk.yields_iff, t.tree_eq_preorder, t.tree_eq,
    t.paths, t.nodup_paths, fun _ => mem_paths_iff, t.map_atPath_paths⟩

end Bindery.Ty
