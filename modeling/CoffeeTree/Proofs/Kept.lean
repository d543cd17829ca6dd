import CoffeeTree.Proofs.Built
import CoffeeTree.Proofs.Recognition.Basic

/-!
# Kept visits

What becomes of a visited node stands in the output, with two exceptions. Some nodes are stepped
through (`Tree.Visit.passes`): a block that is a body, an access, an object that stands as a
statement in a class, a member of it, and the negation that `unless` leaves. They are not converted
as expressions, but what is visited from them is. And the key of a constructor is converted only to
be recognized; it is the name `constructor` and has no parts, so nothing else is lost with it.

A visit is *kept* in an output when one of these is the case (`Convert.Kept`), and only a visit that
is accepted is kept. A step of the converter knows the parts of a node and not the output around it,
so it speaks about the nodes that it has made (`Convert.KeptBy`).
-/

namespace CoffeeTree

/-- Parentheses around anything but a block are the expression in them. -/
theorem Tree.parens_of_not_block (location : Option Location) {body : Tree}
    (h : ∀ b, body ≠ block b) : (parens location body).isUnderstood = true ∧
      (parens location body).visits = [⟨.expression, body⟩] := by
  cases body with
  | block b => exact absurd rfl (h b)
  | _ => exact ⟨rfl, rfl⟩

namespace Tree.Visit

/-- Whether a node may be stepped through. An operator may, as it can be the negation that `unless`
leaves. -/
def passes : Visit → Bool
  | ⟨.branch, block _⟩ => true
  | ⟨.access, access _ _⟩ => true
  | ⟨.access, index _ _⟩ => true
  | ⟨.statement, value _ (obj _ _) _⟩ => true
  | ⟨.member, assign _ _ _ _⟩ => true
  | ⟨.expression, op _ _ _ _⟩ => true
  | _ => false

/-- The node is visited as if it were an expression, whatever its role is. -/
structure Plain (v : Visit) : Prop where
  next_eq : v.next = v.node.visits
  accepts_eq : v.accepts = v.node.isUnderstood

/-- An expression is visited as one. -/
theorem plain_expression (t : Tree) : Plain ⟨.expression, t⟩ := ⟨rfl, rfl⟩

/-- So is a branch that is not a block. -/
theorem plain_branch {t : Tree} (h : ∀ b, t ≠ block b) : Plain ⟨.branch, t⟩ := by
  cases t with
  | block b => exact absurd rfl (h b)
  | _ => exact ⟨rfl, rfl⟩

/-- So is a statement of a class that is not an object. -/
theorem plain_statement {t : Tree} (h : Convert.classObject? t = none) :
    Plain ⟨.statement, t⟩ := by
  cases t with
  | value location base accesses =>
    cases base with
    | obj inner properties => exact absurd h (Option.some_ne_none _)
    | _ => exact ⟨rfl, rfl⟩
  | _ => exact ⟨rfl, rfl⟩

/-- So is a member of a class that is key and value at once. -/
theorem plain_member (location : Option Location) (base : Tree) (properties : List Tree) :
    Plain ⟨.member, value location base properties⟩ := ⟨rfl, rfl⟩

end Tree.Visit

namespace Convert

open CoffeeTree.Tree (Visit)

/-! ### Kept visits -/

/-- The node is in the output, or it is the name of a constructor, which the output leaves out. -/
def Stays (output n : Node) : Prop := output.Reaches n ∨ namesConstructor n.shape = true

/-- The name of a constructor has no parts. -/
theorem children_of_namesConstructor {shape : Shape Node} (h : namesConstructor shape = true) :
    shape.children = [] := by
  cases shape with
  | identifier data => rfl
  | string data => rfl
  | _ => exact absurd h Bool.false_ne_true

/-- With a node stays what is below it. -/
theorem Stays.of_reaches {output n m : Node} (h : Stays output n) (hm : n.Reaches m) :
    Stays output m := by
  rcases h with hreaches | hname
  · exact .inl (hreaches.trans hm)
  · rcases Relation.ReflTransGen.cases_head hm with rfl | ⟨c, hc, -⟩
    · exact .inr hname
    · rw [Node.children, children_of_namesConstructor hname] at hc
      exact absurd hc List.not_mem_nil

/-- What became of a visited node is in the output: the node was converted as an expression, or it
was stepped through, and the visits that follow are kept. -/
inductive Kept (source : Source) (output : Node) : Visit → Prop where
  | converted {v : Visit} {ancestors : List String} {n : Node} (next_eq : v.next = v.node.visits)
      (accepts : v.accepts = true) (result : (expr source ancestors v.node).result = .ok n)
      (stays : Stays output n) : Kept source output v
  | passed {v : Visit} (passes : v.passes = true) (accepts : v.accepts = true)
      (next : ∀ w ∈ v.next, Kept source output w) : Kept source output v

/-- The visit is kept wherever these nodes are. -/
def KeptBy (source : Source) (nodes : List Node) (v : Visit) : Prop :=
  ∀ output, (∀ n ∈ nodes, output.Reaches n) → Kept source output v

/-- The nodes keep all of the visits. -/
abbrev KeepsAll (source : Source) (nodes : List Node) (visits : List Visit) : Prop :=
  ∀ w ∈ visits, KeptBy source nodes w

variable {source : Source} {ancestors : List String}

/-- Only accepted visits are kept. -/
theorem Kept.accepts {output : Node} {v : Visit} (h : Kept source output v) :
    v.accepts = true := by
  rcases h with ⟨-, haccepts, -, -⟩ | ⟨-, haccepts, -⟩
  · exact haccepts
  · exact haccepts

/-- What a node keeps is kept where the node stays. -/
theorem Kept.of_stays {output n : Node} {v : Visit} (h : Kept source n v) (hn : Stays output n) :
    Kept source output v := by
  induction h with
  | converted next_eq accepts result stays =>
    refine .converted next_eq accepts result ?_
    rcases stays with hreaches | hname
    · exact hn.of_reaches hreaches
    · exact .inr hname
  | passed passes accepts _ ih => exact .passed passes accepts ih

namespace KeptBy

variable {nodes others : List Node} {n m : Node} {v : Visit}

/-- More nodes keep as much. -/
theorem subset (h : KeptBy source nodes v) (hsubset : nodes ⊆ others) : KeptBy source others v :=
  fun output hreaches ↦ h output fun c hc ↦ hreaches c (hsubset hc)

/-- What a node keeps is kept by the nodes above it. -/
theorem of_reaches (h : KeptBy source [m] v) (hm : n.Reaches m) : KeptBy source [n] v := by
  refine fun output hreaches ↦ h output (List.forall_mem_singleton.2 ?_)
  exact (hreaches n (List.mem_singleton_self n)).trans hm

/-- What the parts of a node keep is kept by the node. -/
theorem of_children (h : KeptBy source n.children v) : KeptBy source [n] v := by
  refine fun output hreaches ↦ h output fun c hc ↦ ?_
  exact (hreaches n (List.mem_singleton_self n)).trans (.head hc (.refl c))

/-- What an expression becomes keeps its visit. -/
theorem of_result (hplain : v.Plain) (haccepts : v.node.isUnderstood = true)
    (h : (expr source ancestors v.node).result = .ok n) : KeptBy source [n] v :=
  fun _ hreaches ↦ .converted hplain.next_eq (hplain.accepts_eq.trans haccepts) h
    (.inl (hreaches n (List.mem_singleton_self n)))

/-- A visit that is stepped through is kept when the next ones are. -/
theorem of_next (hpasses : v.passes = true) (haccepts : v.accepts = true)
    (h : ∀ w ∈ v.next, KeptBy source nodes w) : KeptBy source nodes v :=
  fun output hreaches ↦ .passed hpasses haccepts fun w hw ↦ h w hw output hreaches

/-- A block that is a body is stepped through. -/
theorem block {b : Tree.Block Tree}
    (h : KeepsAll source nodes (b.expressions.map (⟨.expression, ·⟩))) :
    KeptBy source nodes ⟨.branch, .block b⟩ :=
  .of_next rfl rfl h

end KeptBy

/-! ### Members of classes -/

/-- The value of a member is always a part of its statement. -/
theorem value_mem_memberShape (key value : Node) :
    value ∈ (memberShape key value).children := by
  rw [memberShape]
  split
  · simp [Shape.children, Shape.fields, Field.parts]
  · split <;> simp [Shape.children, Shape.fields, Field.parts]

/-- The key is one, unless it names the constructor. -/
theorem key_mem_memberShape {key : Node} (value : Node)
    (h : ¬ namesConstructor key.shape = true) : key ∈ (memberShape key value).children := by
  rw [memberShape, if_neg h]
  split <;> simp [Shape.children, Shape.fields, Field.parts]

/-- The parts of a member keep its key, also where they leave it out. -/
theorem key_kept {t : Tree} {key : Node} (value : Node) (haccepts : t.isUnderstood = true)
    (h : (expr source ancestors t).result = .ok key) :
    KeptBy source (memberShape key value).children ⟨.expression, t⟩ := by
  by_cases hname : namesConstructor key.shape = true
  · exact fun _ _ ↦ .converted rfl haccepts h (.inr hname)
  · have hkey := KeptBy.of_result (Visit.plain_expression t) haccepts h
    exact hkey.subset (List.cons_subset.2 ⟨key_mem_memberShape value hname, List.nil_subset _⟩)

end Convert

end CoffeeTree
