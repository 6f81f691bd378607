import ApiScribe.Resource.Graph
import Mathlib.Data.List.Chain
import Mathlib.Data.String.Basic
import Mathlib.Logic.Relation

set_option autoImplicit false

namespace ApiScribe.Edges

def Leads (edges : Edges) (source target : String) : Prop := target ∈ edges.targets source

structure Work where
  reached : List String
  pending : List String

-- A turn of the loop may take any of the pending names and put the targets of a new one anywhere.
inductive Turn (edges : Edges) : Work → Work → Prop
  | again {reached pending rest : List String} {name : String}
      (taken : pending.Perm (name :: rest)) (known : name ∈ reached) :
      Turn edges ⟨reached, pending⟩ ⟨reached, rest⟩
  | new {reached pending rest later : List String} {name : String}
      (taken : pending.Perm (name :: rest)) (unknown : name ∉ reached)
      (added : later.Perm (edges.targets name ++ rest)) :
      Turn edges ⟨reached, pending⟩ ⟨insertName name reached, later⟩

theorem mem_insertName {name other : String} {names : List String} :
    other ∈ insertName name names ↔ other = name ∨ other ∈ names := by
  induction names with
  | nil => simp [insertName]
  | cons n rest ih =>
    rw [insertName]
    split_ifs with same less
    next => simp [same]
    next => simp
    next =>
      rw [List.mem_cons, ih, List.mem_cons]
      exact or_left_comm

theorem insertName_ordered {name : String} {names : List String}
    (ordered : names.Pairwise (· < ·)) : (insertName name names).Pairwise (· < ·) := by
  induction names with
  | nil => simp [insertName]
  | cons n rest ih =>
    obtain ⟨below, ordered⟩ := List.pairwise_cons.mp ordered
    rw [insertName]
    split_ifs with same less
    next => exact List.pairwise_cons.mpr ⟨below, ordered⟩
    next =>
      refine List.pairwise_cons.mpr ⟨?_, List.pairwise_cons.mpr ⟨below, ordered⟩⟩
      intro other member
      rcases List.mem_cons.mp member with rfl | later
      · exact less
      · exact less.trans (below other later)
    next =>
      refine List.pairwise_cons.mpr ⟨?_, ih ordered⟩
      intro other member
      rcases mem_insertName.mp member with rfl | later
      · exact lt_of_le_of_ne (not_lt.mp less) (Ne.symm same)
      · exact below other later

section Effort

def unopened : Edges → List String → Nat
  | [], _ => 0
  | (source, names) :: rest, reached =>
    (if reached.contains source then 0 else names.length) + unopened rest reached

variable (edges : Edges)

def effort (work : Work) : Nat := work.pending.length + edges.unopened work.reached

theorem targets_cons (source : String) (names : List String) (name : String) :
    targets ((source, names) :: edges) name =
      if source = name then names else edges.targets name := by
  by_cases same : source = name <;> simp [targets, Dict.get?, same]

theorem unopened_insertName {reached : List String} {name : String} (unknown : name ∉ reached) :
    (edges.targets name).length + edges.unopened (insertName name reached) ≤
      edges.unopened reached := by
  induction edges with
  | nil => simp [targets, Dict.get?, unopened]
  | cons e rest ih =>
    obtain ⟨source, names⟩ := e
    simp only [unopened, targets_cons, List.contains_iff_mem, mem_insertName]
    by_cases same : source = name
    next =>
      subst same
      simp only [unknown, true_or, if_true, if_false]
      omega
    next =>
      simp only [same, false_or, if_false]
      omega

variable {edges}

theorem turn_effort {work next : Work} (turn : edges.Turn work next) :
    edges.effort next < edges.effort work := by
  cases turn with
  | again taken known =>
    have length := taken.length_eq
    simp only [effort, List.length_cons] at length ⊢
    omega
  | new taken unknown added =>
    have fewer := edges.unopened_insertName unknown
    have length := taken.length_eq
    have grown := added.length_eq
    simp only [effort, List.length_cons, List.length_append] at length grown ⊢
    omega

theorem run_length {work : Work} {trace : List Work}
    (run : List.IsChain edges.Turn (work :: trace)) : trace.length ≤ edges.effort work := by
  induction trace generalizing work with
  | nil => exact Nat.zero_le _
  | cons next rest ih =>
    obtain ⟨turn, run⟩ := List.isChain_cons_cons.mp run
    have less := turn_effort turn
    have bound := ih run
    rw [List.length_cons]
    omega

theorem effort_start (edges : Edges) (root : String) :
    edges.effort ⟨[], edges.targets root⟩ < edges.steps := by
  have counted : edges.unopened [] ≤ edges.size := by
    induction edges with
    | nil => simp [unopened, size]
    | cons e rest ih =>
      simp only [unopened, size, List.contains_nil, Bool.false_eq_true, if_false]
      omega
  have first := edges.unopened_insertName (List.not_mem_nil (a := root))
  simp only [effort, steps]
  omega

theorem turn_of_pending {reached pending : List String} (left : pending ≠ []) :
    ∃ next, edges.Turn ⟨reached, pending⟩ next := by
  cases pending with
  | nil => exact absurd rfl left
  | cons name rest =>
    by_cases known : name ∈ reached
    · exact ⟨_, .again (.refl _) known⟩
    · exact ⟨_, .new (.refl _) known (.refl _)⟩

theorem reachLoop_run {steps : Nat} {reached pending : List String}
    (enough : edges.effort ⟨reached, pending⟩ < steps) :
    Relation.ReflTransGen edges.Turn ⟨reached, pending⟩
      ⟨edges.reachLoop steps reached pending, []⟩ := by
  induction steps generalizing reached pending with
  | zero => omega
  | succ steps ih =>
    cases pending with
    | nil => exact .refl
    | cons name rest =>
      by_cases known : name ∈ reached
      next =>
        have turn : edges.Turn ⟨reached, name :: rest⟩ ⟨reached, rest⟩ := .again (.refl _) known
        have less := turn_effort turn
        simp only [reachLoop, List.contains_iff_mem, known, if_true]
        exact .head turn (ih (by omega))
      next =>
        have turn : edges.Turn ⟨reached, name :: rest⟩
            ⟨insertName name reached, edges.targets name ++ rest⟩ := .new (.refl _) known (.refl _)
        have less := turn_effort turn
        simp only [reachLoop, List.contains_iff_mem, known, if_false]
        exact .head turn (ih (by omega))

end Effort

section Frontier

variable {edges : Edges} {root : String}

-- Everything found is at the end of a path, and what an opened name leads to is found.
structure Frontier (edges : Edges) (root : String) (work : Work) : Prop where
  ordered : work.reached.Pairwise (· < ·)
  found : ∀ name, name ∈ work.reached ∨ name ∈ work.pending →
    Relation.TransGen edges.Leads root name
  opened : ∀ source, source = root ∨ source ∈ work.reached → ∀ target, edges.Leads source target →
    target ∈ work.reached ∨ target ∈ work.pending

theorem frontier_start (edges : Edges) (root : String) :
    edges.Frontier root ⟨[], edges.targets root⟩ where
  ordered := .nil
  found name member := .single (by simpa [Leads] using member)
  opened source isRoot target leads := by
    obtain rfl : source = root := by simpa using isRoot
    exact .inr leads

theorem turn_frontier {work next : Work} (frontier : edges.Frontier root work)
    (turn : edges.Turn work next) : edges.Frontier root next := by
  obtain ⟨ordered, found, opened⟩ := frontier
  cases turn with
  | again taken known =>
    refine ⟨ordered, fun name member => found name ?_, fun source isOpen target leads => ?_⟩
    · rw [taken.mem_iff, List.mem_cons]
      exact member.imp_right .inr
    · rcases opened source isOpen target leads with reached | pending
      · exact .inl reached
      · rcases List.mem_cons.mp (taken.mem_iff.mp pending) with rfl | rest
        · exact .inl known
        · exact .inr rest
  | @new reached pending rest later name taken unknown added =>
    have path : Relation.TransGen edges.Leads root name :=
      found name (.inr (taken.mem_iff.mpr List.mem_cons_self))
    refine ⟨insertName_ordered ordered, fun other member => ?_,
      fun source isOpen target leads => ?_⟩
    · simp only [mem_insertName, added.mem_iff, List.mem_append] at member
      rcases member with (rfl | reached) | target | rest
      · exact path
      · exact found other (.inl reached)
      · exact path.tail target
      · exact found other (.inr (taken.mem_iff.mpr (List.mem_cons_of_mem _ rest)))
    · simp only [mem_insertName, added.mem_iff, List.mem_append] at isOpen ⊢
      rcases or_left_comm.mp isOpen with rfl | before
      · exact .inr (.inl leads)
      · rcases opened source before target leads with reached | pending
        · exact .inl (.inr reached)
        · rcases List.mem_cons.mp (taken.mem_iff.mp pending) with rfl | rest
          · exact .inl (.inl rfl)
          · exact .inr (.inr rest)

theorem run_frontier {work : Work}
    (run : Relation.ReflTransGen edges.Turn ⟨[], edges.targets root⟩ work) :
    edges.Frontier root work := by
  induction run with
  | refl => exact frontier_start edges root
  | tail _ turn ih => exact turn_frontier ih turn

theorem mem_finished_iff {reached : List String} (frontier : edges.Frontier root ⟨reached, []⟩)
    (name : String) : name ∈ reached ↔ Relation.TransGen edges.Leads root name := by
  constructor
  · exact fun member => frontier.found name (.inl member)
  · intro path
    induction path with
    | single leads => simpa using frontier.opened root (.inl rfl) _ leads
    | tail _ leads ih => simpa using frontier.opened _ (.inr ih) _ leads

end Frontier

theorem reachable_frontier (edges : Edges) (root : String) :
    edges.Frontier root ⟨edges.reachable root, []⟩ :=
  run_frontier (reachLoop_run (edges.effort_start root))

theorem mem_reachable_iff (edges : Edges) (root name : String) :
    name ∈ edges.reachable root ↔ Relation.TransGen edges.Leads root name :=
  mem_finished_iff (edges.reachable_frontier root) name

theorem reachable_ordered (edges : Edges) (root : String) :
    (edges.reachable root).Pairwise (· < ·) :=
  (edges.reachable_frontier root).ordered

theorem eq_of_ordered {names others : List String} (left : names.Pairwise (· < ·))
    (right : others.Pairwise (· < ·)) (same : ∀ name, name ∈ names ↔ name ∈ others) :
    names = others :=
  List.Perm.eq_of_pairwise (fun _ _ _ _ less greater => absurd greater (lt_asymm less)) left right
    ((List.perm_ext_iff_of_nodup (left.imp ne_of_lt) (right.imp ne_of_lt)).mpr same)

theorem transGen_iff_path {edges : Edges} {source target : String} :
    Relation.TransGen edges.Leads source target ↔
      ∃ between, List.IsChain edges.Leads (source :: (between ++ [target])) := by
  constructor
  · intro path
    induction path using Relation.TransGen.head_induction_on with
    | single leads => exact ⟨[], List.isChain_pair.mpr leads⟩
    | head leads _ ih =>
      obtain ⟨between, path⟩ := ih
      exact ⟨_ :: between, List.isChain_cons_cons.mpr ⟨leads, path⟩⟩
  · rintro ⟨between, path⟩
    induction between generalizing source with
    | nil => exact .single (List.isChain_pair.mp path)
    | cons next rest ih =>
      obtain ⟨leads, path⟩ := List.isChain_cons_cons.mp path
      exact .head leads (ih path)

/-- Whichever pending name each turn takes, there are fewer than `steps` turns, and where no turn is
left, `reachable` has been reached. It has, in order, the names at the end of a path of one edge or
more; the root is among them if it lies on a cycle. Order and repetition of targets do not matter. -/
theorem reachable_outcome (edges : Edges) (root : String) :
    (∀ trace, List.IsChain edges.Turn (⟨[], edges.targets root⟩ :: trace) →
      trace.length < edges.steps) ∧
    Relation.ReflTransGen edges.Turn ⟨[], edges.targets root⟩ ⟨edges.reachable root, []⟩ ∧
    (∀ work, Relation.ReflTransGen edges.Turn ⟨[], edges.targets root⟩ work →
      (¬ ∃ next, edges.Turn work next) → work = ⟨edges.reachable root, []⟩) ∧
    (edges.reachable root).Pairwise (· < ·) ∧
    (∀ name, name ∈ edges.reachable root ↔ Relation.TransGen edges.Leads root name) ∧
    (root ∈ edges.reachable root ↔
      ∃ between, List.IsChain edges.Leads (root :: (between ++ [root]))) ∧
    ∀ other : Edges, (∀ source target, other.Leads source target ↔ edges.Leads source target) →
      other.reachable root = edges.reachable root := by
  refine ⟨fun trace run => (run_length run).trans_lt (edges.effort_start root),
    reachLoop_run (edges.effort_start root), ?_, edges.reachable_ordered root,
    edges.mem_reachable_iff root, (edges.mem_reachable_iff root root).trans transGen_iff_path, ?_⟩
  · rintro ⟨reached, pending⟩ run stuck
    obtain rfl : pending = [] := by
      by_contra left
      exact stuck (turn_of_pending left)
    have frontier := run_frontier run
    congr
    apply eq_of_ordered frontier.ordered (edges.reachable_ordered root)
    intro name
    rw [mem_finished_iff frontier, mem_reachable_iff]
  · intro other same
    have relation : other.Leads = edges.Leads := by
      funext source target
      exact propext (same source target)
    apply eq_of_ordered (other.reachable_ordered root) (edges.reachable_ordered root)
    intro name
    rw [mem_reachable_iff, mem_reachable_iff, relation]

example : reachable [("A", ["B", "X", "B"]), ("B", ["A"]), ("C", ["A"])] "A" = ["A", "B", "X"] := by
  decide

end ApiScribe.Edges
