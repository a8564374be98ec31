import Timetable.Failure

/-
  This file defines failures in general: a failure may wrap
  any number of others, or join them.  What is wanted of such
  a tree is looked for by a walk that visits a node before
  its children, and the children from left to right.

  The failures of this library wrap one or two others and
  join two.  Every tree is recognised as one of them, and
  what is looked up there by recursion is what the walk finds
  in the tree.

  Key definitions include:
    * `FailureTree`
    * `FailureTree.nodes`
    * `FailureTree.walk`
    * `FailureTree.Identity`
    * `FailureTree.Identity.counts`
    * `FailureTree.normalized`
    * `FailureTree.toFailure`
    * `FailureTree.Recognises`

  Main theorems include:
    * `FailureTree.walk_eq_findSome?`
    * `FailureTree.Recognises.look_toFailure`
    * `FailureTree.Identity.counts_problem_iff`
    * `FailureTree.toFailure_normalized`
-/

namespace Timetable

------------------------------------------------------------
-- Trees
------------------------------------------------------------

/- A failure that has no cause and is no answer for a client. -/
inductive Leaf where
| plain (text : String) : Leaf
| sentinel (s : Sentinel) : Leaf
| refused (state text : String) : Leaf
| shortfall (s : Plan.Shortfall Float) : Leaf

/- A leaf as a failure. -/
def Leaf.toFailure : Leaf → Failure
| .plain text => .plain text
| .sentinel s => .sentinel s
| .refused state text => .refused state text
| .shortfall s => .shortfall s

namespace Failure

/- Some failures joined, two at a time. -/
def joinAll : Failure → List Failure → Failure
| f, [] => f
| f, g :: rest => .joined f (joinAll g rest)

/- Some failures under a label; a sentinel in front of one other failure tags it. -/
def wrapAll
    (label : String) : Failure → List Failure → Failure
| .sentinel s, [cause] => .tagged label s cause
| f, rest => .during label (joinAll f rest)

end Failure

/- A failure with any number of causes. -/
inductive FailureTree where
| leaf (l : Leaf) : FailureTree
/- A problem without a cause. -/
| problem (p : Problem) : FailureTree
/- A problem that another failure caused. -/
| caused (p : Problem) (cause : FailureTree) : FailureTree
/- Failures met while doing what the label names. -/
| wrapping (label : String) (first : FailureTree) (rest : List FailureTree) : FailureTree
| joining (first : FailureTree) (rest : List FailureTree) : FailureTree

namespace FailureTree

variable {α β : Type}

/- What a failure wraps or joins, in order. -/
def children : FailureTree → List FailureTree
| .leaf _ => []
| .problem _ => []
| .caused _ cause => [cause]
| .wrapping _ first rest => first :: rest
| .joining first rest => first :: rest

theorem sizeOf_lt_of_mem_children
    {c t : FailureTree}
    (h : c ∈ t.children) :
    sizeOf c < sizeOf t := by
  cases t with
  | leaf _ => cases h
  | problem _ => cases h
  | caused p cause =>
      rw [List.mem_singleton.mp h, caused.sizeOf_spec]
      omega
  | wrapping label first rest =>
      have hList : sizeOf c < sizeOf (first :: rest) := List.sizeOf_lt_of_mem h
      rw [List.cons.sizeOf_spec] at hList
      rw [wrapping.sizeOf_spec]
      omega
  | joining first rest =>
      have hList : sizeOf c < sizeOf (first :: rest) := List.sizeOf_lt_of_mem h
      rw [List.cons.sizeOf_spec] at hList
      rw [joining.sizeOf_spec]
      omega

/- What holds of a failure if it holds of its children holds of all failures. -/
@[elab_as_elim]
theorem induction_on_children
    {motive : FailureTree → Prop}
    (t : FailureTree)
    (step : ∀ t : FailureTree, (∀ c ∈ t.children, motive c) → motive t) :
    motive t :=
  step t (fun c h =>
    have := sizeOf_lt_of_mem_children h
    induction_on_children c step)
termination_by sizeOf t

------------------------------------------------------------
-- Walking through a Tree
------------------------------------------------------------

mutual

/- The nodes of a tree: itself, and then the nodes of its children. -/
def nodes : FailureTree → List FailureTree
| .leaf l => [.leaf l]
| .problem p => [.problem p]
| .caused p cause => .caused p cause :: cause.nodes
| .wrapping label first rest =>
    .wrapping label first rest :: (first.nodes ++ nodesOfAll rest)
| .joining first rest =>
    .joining first rest :: (first.nodes ++ nodesOfAll rest)

/- The nodes of some trees. -/
def nodesOfAll : List FailureTree → List FailureTree
| [] => []
| t :: rest => t.nodes ++ nodesOfAll rest

end

mutual

/- What is picked from a node, or else from its children, from left to right. -/
def walk (pick : FailureTree → Option α) : FailureTree → Option α
| .leaf l => pick (.leaf l)
| .problem p => pick (.problem p)
| .caused p cause => (pick (.caused p cause)).or (cause.walk pick)
| .wrapping label first rest =>
    (pick (.wrapping label first rest)).or ((first.walk pick).or (walkAll pick rest))
| .joining first rest =>
    (pick (.joining first rest)).or ((first.walk pick).or (walkAll pick rest))

/- What is picked from the first tree from which something is picked. -/
def walkAll (pick : FailureTree → Option α) : List FailureTree → Option α
| [] => none
| t :: rest => (t.walk pick).or (walkAll pick rest)

end

theorem nodesOfAll_eq
    (ts : List FailureTree) :
    nodesOfAll ts = ts.flatMap nodes := by
  induction ts with
  | nil => rfl
  | cons t rest ih => rw [nodesOfAll, ih, List.flatMap_cons]

theorem nodes_eq
    (t : FailureTree) :
    t.nodes = t :: t.children.flatMap nodes := by
  cases t <;> simp [nodes, children, nodesOfAll_eq]

theorem walk_eq
    (pick : FailureTree → Option α)
    (t : FailureTree) :
    t.walk pick = (pick t).or (walkAll pick t.children) := by
  cases t <;> simp [walk, walkAll, children]

/- A walk finds what is picked from the first node that something is picked from. -/
theorem walk_eq_findSome?
    (pick : FailureTree → Option α)
    (t : FailureTree) :
    t.walk pick = t.nodes.findSome? pick := by
  induction t using induction_on_children with
  | step t ih =>
      have hChildren : ∀ ts : List FailureTree,
          (∀ c ∈ ts, c.walk pick = c.nodes.findSome? pick) →
            walkAll pick ts = (ts.flatMap nodes).findSome? pick := by
        intro ts hAll
        induction ts with
        | nil => rfl
        | cons c rest ihRest =>
            rw [walkAll, List.flatMap_cons, List.findSome?_append, hAll c (by simp),
              ihRest (fun d hd => hAll d (by simp [hd]))]
      rw [walk_eq, nodes_eq, hChildren _ ih, List.findSome?_cons]
      cases pick t <;> rfl

/- A walk finds something if something is picked from some node. -/
theorem walk_isSome_iff
    {pick : FailureTree → Option α}
    {t : FailureTree} :
    (t.walk pick).isSome = true ↔ ∃ n ∈ t.nodes, (pick n).isSome = true := by
  rw [walk_eq_findSome?, List.findSome?_isSome_iff]

/- What was picked may be changed afterwards. -/
theorem walk_map
    (pick : FailureTree → Option α)
    (g : α → β)
    (t : FailureTree) :
    t.walk (fun n => (pick n).map g) = (t.walk pick).map g := by
  rw [walk_eq_findSome?, walk_eq_findSome?, List.map_findSome?]
  rfl

------------------------------------------------------------
-- Problems in a Tree
------------------------------------------------------------

/- The problem at the root of a tree. -/
def problem? : FailureTree → Option Problem
| .problem p => some p
| .caused p _ => some p
| _ => none

/- The node is a sentinel. -/
def isSentinel (s : Sentinel) : FailureTree → Bool
| .leaf (.sentinel t) => t == s
| _ => false

theorem isSentinel_iff
    {s : Sentinel}
    {n : FailureTree} :
    n.isSentinel s = true ↔ n = .leaf (.sentinel s) := by
  cases n with
  | leaf l => cases l <;> simp [isSentinel]
  | _ => simp [isSentinel]

/- The state that the store named when it refused a statement. -/
def refusal? : FailureTree → Option String
| .leaf (.refused state _) => some state
| _ => none

/- A tree whose root is a problem. -/
def asProblem? (t : FailureTree) : Option FailureTree :=
  if t.problem?.isSome then some t else none

/-
  Which nodes are one and the same thing.  Such nodes are
  equal, but equal ones need not be the same; every sentinel
  exists once.
-/
structure Identity where
  same : FailureTree → FailureTree → Bool
  eq_of_same : ∀ {a b}, same a b = true → a = b
  sentinel_same : ∀ s, same (.leaf (.sentinel s)) (.leaf (.sentinel s)) = true

namespace Identity

/-
  What a node says about a target it is asked for: a problem
  takes it for itself if the first problem in the target has
  its code.
-/
def claims (n target : FailureTree) : Bool :=
  match n.problem?, target.walk problem? with
  | some p, some q => p.code == q.code
  | _, _ => false

/- A tree counts as a target if a node is the target or claims to be it. -/
def counts
    (i : Identity)
    (target t : FailureTree) : Bool :=
  (t.walk (fun n => if i.same n target || claims n target then some () else none)).isSome

/- A tree counts as a problem if some problem in it has the code, whichever it is. -/
theorem counts_problem_iff
    (i : Identity)
    (p : Problem)
    (t : FailureTree) :
    i.counts (.problem p) t = true ↔
      ∃ n ∈ t.nodes, n.problem?.map (·.code) = some p.code := by
  unfold counts
  rw [walk_isSome_iff]
  refine exists_congr fun n => and_congr_right fun _ => ?_
  have hClaims : claims n (.problem p) = true ↔ n.problem?.map (·.code) = some p.code := by
    have hTarget : (FailureTree.problem p).walk problem? = some p := rfl
    unfold claims
    rw [hTarget]
    cases n.problem? <;> simp
  have hSame : i.same n (.problem p) = true → n.problem?.map (·.code) = some p.code := by
    intro h
    rw [i.eq_of_same h]
    rfl
  rw [← hClaims] at hSame ⊢
  cases hNode : i.same n (.problem p) <;> simp_all

/- A tree counts as a sentinel if the sentinel is one of its nodes. -/
theorem counts_sentinel_iff
    (i : Identity)
    (s : Sentinel)
    (t : FailureTree) :
    i.counts (.leaf (.sentinel s)) t = true ↔ .leaf (.sentinel s) ∈ t.nodes := by
  have hClaims : ∀ n, claims n (.leaf (.sentinel s)) = false := by
    intro n
    have hTarget : (FailureTree.leaf (.sentinel s)).walk problem? = none := rfl
    unfold claims
    rw [hTarget]
    cases n.problem? <;> rfl
  unfold counts
  rw [walk_isSome_iff]
  constructor
  · rintro ⟨n, hNode, hCounts⟩
    have hSame : i.same n (.leaf (.sentinel s)) = true := by
      rw [hClaims, Bool.or_false] at hCounts
      split at hCounts
      · assumption
      · cases hCounts
    rwa [i.eq_of_same hSame] at hNode
  · intro hNode
    exact ⟨_, hNode, by rw [i.sentinel_same, Bool.true_or]; rfl⟩

end Identity

/-
  The tree whose root is the problem a client is answered
  with: the first one of the tree, or an internal error that
  the tree caused.
-/
def normalized (t : FailureTree) : FailureTree :=
  (t.walk asProblem?).getD (.caused .internal t)

/- This is the first node that is a problem. -/
theorem normalized_eq
    (t : FailureTree) :
    t.normalized =
      (t.nodes.find? (fun n => n.problem?.isSome)).getD (.caused .internal t) := by
  have hGuard : asProblem? = Option.guard (fun n => n.problem?.isSome) := by
    funext n
    simp [asProblem?, Option.guard]
  rw [normalized, walk_eq_findSome?, hGuard, List.findSome?_guard]

theorem problem?_normalized_isSome
    (t : FailureTree) :
    t.normalized.problem?.isSome = true := by
  rw [normalized_eq]
  cases hFind : t.nodes.find? (fun n => n.problem?.isSome) with
  | none => rfl
  | some n =>
      have hProblem := List.find?_some hFind
      exact hProblem

/- A tree whose root is a problem stays as it is. -/
theorem normalized_of_problem
    {t : FailureTree}
    (hRoot : t.problem?.isSome = true) :
    t.normalized = t := by
  have hFirst : t.nodes.find? (fun n => n.problem?.isSome) = some t := by
    rw [nodes_eq]
    exact List.find?_cons_of_pos hRoot
  rw [normalized_eq, hFirst]
  rfl

theorem normalized_normalized
    (t : FailureTree) :
    t.normalized.normalized = t.normalized :=
  normalized_of_problem t.problem?_normalized_isSome

------------------------------------------------------------
-- What a Tree is Recognised as
------------------------------------------------------------

mutual

/- A tree as one of the failures of this library. -/
def toFailure : FailureTree → Failure
| .leaf l => l.toFailure
| .problem p => .problem p
| .caused p cause => .caused p cause.toFailure
| .wrapping label first rest => .wrapAll label first.toFailure (toFailures rest)
| .joining first rest => .joinAll first.toFailure (toFailures rest)

def toFailures : List FailureTree → List Failure
| [] => []
| t :: rest => t.toFailure :: toFailures rest

end

/-
  Something is looked up in failures as a walk picks it from
  the nodes of trees: it is picked from leaves and problems,
  and otherwise found in the first cause that has it.
-/
structure Recognises
    (look : Failure → Option α)
    (pick : FailureTree → Option α) : Prop where
  leaf : ∀ l : Leaf, look l.toFailure = pick (.leaf l)
  problem : ∀ p, look (.problem p) = pick (.problem p)
  caused :
    ∀ p (cause : FailureTree),
      look (.caused p cause.toFailure) = (pick (.caused p cause)).or (look cause.toFailure)
  during : ∀ label cause, look (.during label cause) = look cause
  tagged :
    ∀ label s cause, look (.tagged label s cause) = (look (.sentinel s)).or (look cause)
  joined : ∀ first second, look (.joined first second) = (look first).or (look second)
  wrapping : ∀ label first rest, pick (.wrapping label first rest) = none
  joining : ∀ first rest, pick (.joining first rest) = none

namespace Recognises

variable
  {look : Failure → Option α}
  {pick : FailureTree → Option α}

theorem look_joinAll
    (h : Recognises look pick)
    (f : Failure)
    (rest : List Failure) :
    look (.joinAll f rest) = (look f).or (rest.findSome? look) := by
  induction rest generalizing f with
  | nil => simp [Failure.joinAll]
  | cons g rest ih =>
      rw [Failure.joinAll, h.joined, ih, List.findSome?_cons]
      cases look g <;> rfl

theorem look_wrapAll
    (h : Recognises look pick)
    (label : String)
    (f : Failure)
    (rest : List Failure) :
    look (.wrapAll label f rest) = (look f).or (rest.findSome? look) := by
  unfold Failure.wrapAll
  split
  · rw [h.tagged]
    simp
  · rw [h.during, h.look_joinAll]

/- What is looked up in a tree taken as a failure is what the walk finds in the tree. -/
theorem look_toFailure
    (h : Recognises look pick)
    (t : FailureTree) :
    look t.toFailure = t.walk pick := by
  induction t using induction_on_children with
  | step t ih =>
      have hAll : ∀ ts : List FailureTree,
          (∀ c ∈ ts, look c.toFailure = c.walk pick) →
            (toFailures ts).findSome? look = walkAll pick ts := by
        intro ts hEach
        induction ts with
        | nil => rfl
        | cons c rest ihRest =>
            rw [toFailures, walkAll, List.findSome?_cons, hEach c (by simp),
              ihRest (fun d hd => hEach d (by simp [hd]))]
            cases c.walk pick <;> rfl
      cases t with
      | leaf l => exact h.leaf l
      | problem p => exact h.problem p
      | caused p cause =>
          rw [toFailure, h.caused, walk, ih cause (by simp [children])]
      | wrapping label first rest =>
          rw [toFailure, h.look_wrapAll, walk, h.wrapping, Option.none_or,
            ih first (by simp [children]), hAll rest (fun c hc => ih c (by simp [children, hc]))]
      | joining first rest =>
          rw [toFailure, h.look_joinAll, walk, h.joining, Option.none_or,
            ih first (by simp [children]), hAll rest (fun c hc => ih c (by simp [children, hc]))]

end Recognises

------------------------------------------------------------
-- What is Looked Up in Failures
------------------------------------------------------------

/- What is true of a failure if it is true of some node is so for trees. -/
theorem Recognises.test_toFailure_iff
    {test : Failure → Bool}
    {own : FailureTree → Bool}
    (h : Recognises
      (fun f => if test f then some () else none)
      (fun n => if own n then some () else none))
    (t : FailureTree) :
    test t.toFailure = true ↔ ∃ n ∈ t.nodes, own n = true := by
  have hLook := h.look_toFailure t
  have hSome : test t.toFailure = true ↔
      (t.walk (fun n => if own n then some () else none)).isSome = true := by
    rw [← hLook]
    cases test t.toFailure <;> simp
  rw [hSome, walk_isSome_iff]
  refine exists_congr fun n => and_congr_right fun _ => ?_
  cases own n <;> simp

/- A tree as a failure has a code if some problem of the tree has it. -/
theorem hasCode_toFailure_iff
    {code : String}
    {t : FailureTree} :
    t.toFailure.hasCode code = true ↔
      ∃ n ∈ t.nodes, n.problem?.map (·.code) = some code := by
  have hRecognises :
      Recognises
        (fun f => if f.hasCode code then some () else none)
        (fun n => if n.problem?.any (·.code == code) then some () else none) :=
    { leaf := fun l => by cases l <;> rfl
      problem := fun _ => rfl
      caused := fun p cause => by
        cases hCode : p.code == code <;> simp [Failure.hasCode, problem?, hCode]
      during := fun _ _ => rfl
      tagged := fun _ _ _ => rfl
      joined := fun first second => by
        cases hFirst : first.hasCode code <;> simp [Failure.hasCode, hFirst]
      wrapping := fun _ _ _ => rfl
      joining := fun _ _ => rfl }
  rw [hRecognises.test_toFailure_iff t]
  refine exists_congr fun n => and_congr_right fun _ => ?_
  cases n.problem? <;> simp

/- A tree as a failure holds a sentinel if the sentinel is one of its nodes. -/
theorem hasSentinel_toFailure_iff
    {s : Sentinel}
    {t : FailureTree} :
    t.toFailure.hasSentinel s = true ↔ .leaf (.sentinel s) ∈ t.nodes := by
  have hRecognises :
      Recognises
        (fun f => if f.hasSentinel s then some () else none)
        (fun n => if n.isSentinel s then some () else none) :=
    { leaf := fun l => by cases l <;> rfl
      problem := fun _ => rfl
      caused := fun _ _ => rfl
      during := fun _ _ => rfl
      tagged := fun _ u cause => by
        cases hTag : u == s <;> simp [Failure.hasSentinel, hTag]
      joined := fun first second => by
        cases hFirst : first.hasSentinel s <;> simp [Failure.hasSentinel, hFirst]
      wrapping := fun _ _ _ => rfl
      joining := fun _ _ => rfl }
  rw [hRecognises.test_toFailure_iff t]
  constructor
  · rintro ⟨n, hNode, hOwn⟩
    rwa [isSentinel_iff.mp hOwn] at hNode
  · exact fun hNode => ⟨_, hNode, isSentinel_iff.mpr rfl⟩

/- The state of the first refusal is that of the first node that is one. -/
theorem state?_toFailure
    (t : FailureTree) :
    t.toFailure.state? = t.nodes.findSome? refusal? := by
  have hRecognises : Recognises Failure.state? refusal? :=
    { leaf := fun l => by cases l <;> rfl
      problem := fun _ => rfl
      caused := fun _ _ => rfl
      during := fun _ _ => rfl
      tagged := fun _ _ _ => rfl
      joined := fun first second => by simp [Failure.state?]
      wrapping := fun _ _ _ => rfl
      joining := fun _ _ => rfl }
  rw [hRecognises.look_toFailure, walk_eq_findSome?]

/- The first problem of a tree as a failure is the first one of the tree. -/
theorem firstProblem?_toFailure
    (t : FailureTree) :
    t.toFailure.firstProblem?.map (fun x => .ofProblem x.1 x.2) =
      (t.walk asProblem?).map toFailure := by
  have hRecognises :
      Recognises
        (fun f => f.firstProblem?.map (fun x => Failure.ofProblem x.1 x.2))
        (fun n => (asProblem? n).map toFailure) :=
    { leaf := fun l => by cases l <;> rfl
      problem := fun _ => rfl
      caused := fun _ _ => rfl
      during := fun _ _ => rfl
      tagged := fun _ _ _ => rfl
      joined := fun first second => by
        cases hFirst : first.firstProblem? <;> simp [Failure.firstProblem?, hFirst]
      wrapping := fun _ _ _ => rfl
      joining := fun _ _ => rfl }
  rw [← walk_map]
  exact hRecognises.look_toFailure t

/- What a client is answered with is the first problem of the tree, or an internal error. -/
theorem toFailure_normalized
    (t : FailureTree) :
    t.normalized.toFailure = t.toFailure.normalized := by
  have hFirst := firstProblem?_toFailure t
  unfold normalized Failure.normalized Failure.answer
  cases hTree : t.walk asProblem? with
  | none =>
      rw [hTree, Option.map_none, Option.map_eq_none_iff] at hFirst
      rw [hFirst]
      rfl
  | some n =>
      rw [hTree, Option.map_some, Option.map_eq_some_iff] at hFirst
      rcases hFirst with ⟨x, hx, hNode⟩
      rw [hx]
      exact hNode.symm

/- Every failure of this library is such a tree. -/
theorem exists_toFailure_eq
    (f : Failure) :
    ∃ t : FailureTree, t.toFailure = f := by
  induction f with
  | plain text => exact ⟨.leaf (.plain text), rfl⟩
  | sentinel s => exact ⟨.leaf (.sentinel s), rfl⟩
  | refused state text => exact ⟨.leaf (.refused state text), rfl⟩
  | shortfall s => exact ⟨.leaf (.shortfall s), rfl⟩
  | problem p => exact ⟨.problem p, rfl⟩
  | caused p cause ih =>
      rcases ih with ⟨t, rfl⟩
      exact ⟨.caused p t, rfl⟩
  | during label cause ih =>
      rcases ih with ⟨t, rfl⟩
      refine ⟨.wrapping label t [], ?_⟩
      simp only [toFailure, toFailures]
      unfold Failure.wrapAll
      split <;> simp_all [Failure.joinAll]
  | tagged label s cause ih =>
      rcases ih with ⟨t, rfl⟩
      exact ⟨.wrapping label (.leaf (.sentinel s)) [t], rfl⟩
  | joined first second ihFirst ihSecond =>
      rcases ihFirst with ⟨a, rfl⟩
      rcases ihSecond with ⟨b, rfl⟩
      exact ⟨.joining a [b], rfl⟩

end FailureTree

end Timetable
