import MarkupTree.Conversion.Rule
import MarkupTree.Proofs.Source.Tree

namespace MarkupTree

namespace Source.Node

def rule? (node : Source.Node) : Option Rule := Rule.ofKind? node.kind

def isSupported (node : Source.Node) : Bool := node.rule?.isSome

def IsRoot (node : Source.Node) : Prop :=
  node.kind = .string "document" ∨ node.kind = .string "fragment"

theorem rule?_eq_root_iff (node : Source.Node) : node.rule? = some .root ↔ node.IsRoot := by
  unfold rule? Rule.ofKind? IsRoot
  split <;> simp_all

def isTemplate (node : Source.Node) : Bool :=
  node.rule? == some .element &&
    match node.payload.tagName with
    | some (.string name) => Text.lowercase name == "template"
    | _ => false

/-- The nodes that a conversion enters, in this order: the children of every node, and the
content of templates. -/
def visited (tree : Source.Node) : List Source.Node :=
  tree.preorder (fun _ => true) isTemplate

theorem visited_eq (node : Source.Node) :
    node.visited = node :: (node.children ++
      if node.isTemplate then node.content?.toList else []).flatMap visited := by
  rw [visited, preorder_eq, parts]
  rfl

theorem mem_visited_self (node : Source.Node) : node ∈ node.visited := by
  rw [visited_eq]
  exact List.mem_cons_self

theorem rule?_isTemplate {node : Source.Node} (h : node.isTemplate) :
    node.rule? = some .element := by
  simp only [isTemplate, Bool.and_eq_true, beq_iff_eq] at h
  exact h.1

theorem isTemplate_iff {node : Source.Node} {name : String}
    (hrule : node.rule? = some .element) (hname : node.payload.tagName = some (.string name)) :
    node.isTemplate ↔ Text.lowercase name = "template" := by
  simp [isTemplate, hrule, hname]

theorem isKey_of_rule? {node : Source.Node} {rule : Rule} (h : node.rule? = some rule) :
    node.kind.isKey := by
  rw [rule?] at h
  cases hk : node.kind <;> simp_all [Rule.ofKind?, Value.isKey]

theorem ofNode_of_rule? {node : Source.Node} {rule : Rule} (h : node.rule? = some rule) :
    Rule.ofNode node = .ok rule := by
  have hkey := isKey_of_rule? h
  rw [rule?] at h
  simp [Rule.ofNode, hkey, h]

theorem ofNode_eq_ok_iff {node : Source.Node} {rule : Rule} :
    Rule.ofNode node = .ok rule ↔ node.rule? = some rule := by
  refine ⟨fun h => ?_, ofNode_of_rule?⟩
  rw [Rule.ofNode] at h
  rw [rule?]
  split at h
  · split at h
    · next hrule =>
      cases h
      exact hrule
    · cases h
  · cases h

theorem namesTemplate_string {node : Source.Node} {name : String}
    (h : node.payload.tagName = some (.string name)) :
    node.namesTemplate = .ok (Text.lowercase name == "template") := by
  by_cases hn : name = ""
  · subst hn
    have hl : Text.lowercase "" ≠ "template" := by decide +kernel
    simp [namesTemplate, h, Value.ofOption, Value.truthy, hl]
  · simp [namesTemplate, h, Value.ofOption, Value.truthy, hn]

theorem namesTemplate_eq_ok {node : Source.Node} {b : Bool} (h : node.namesTemplate = .ok b)
    (hrule : node.rule? = some .element) : b = node.isTemplate := by
  cases ht : node.payload.tagName with
  | none => simp_all [namesTemplate, isTemplate, Value.ofOption, Value.truthy]
  | some tag =>
    cases tag with
    | string name => simp_all [namesTemplate_string ht, isTemplate]
    | _ =>
      simp only [namesTemplate, ht, Value.ofOption] at h
      split at h <;> simp_all [isTemplate]

end Source.Node

def Context.below (context : Context) (node : Source.Node) : Context :=
  if node.rule? = some .element then context.inSpace node.space else context

@[simp] theorem Context.text_below (context : Context) (node : Source.Node) :
    (context.below node).text = context.text := by
  rw [Context.below]
  split <;> rfl

@[simp] theorem Context.verbose_below (context : Context) (node : Source.Node) :
    (context.below node).verbose = context.verbose := by
  rw [Context.below]
  split <;> rfl

theorem Context.space_below {context : Context} {source : Source.Node}
    (h : source.rule? = some .element) : (context.below source).space = source.space := by
  rw [below, if_pos h]
  rfl

namespace Admission
variable {context : Context} {node : Source.Node}

theorem of_eq (context : Context) (node : Source.Node) :
    Admission.of context node =
      (Rule.ofNode node).bind fun rule => (node.templateContent rule).map fun content =>
        ⟨rule, if rule = .element then context.inSpace node.space else context, content⟩ := by
  rw [Admission.of]
  cases Rule.ofNode node with
  | error failure => rfl
  | ok rule => cases node.templateContent rule <;> rfl

theorem templateContent_eq_ok {rule : Rule} {content : Option Source.Node}
    (hrule : node.rule? = some rule) (h : node.templateContent rule = .ok content) :
    content = if node.isTemplate then node.content? else none := by
  unfold Source.Node.templateContent at h
  split at h
  · next source hc =>
    cases hn : node.namesTemplate with
    | error failure => simp [hn, Except.map] at h
    | ok b =>
      have hb := Source.Node.namesTemplate_eq_ok hn hrule
      simp only [hn, Except.map, Except.ok.injEq] at h
      rw [← h, hb, hc]
  · next hno =>
    cases h
    cases hc : node.content? with
    | none => simp
    | some source =>
      have ht : node.isTemplate = false := by
        rw [Bool.eq_false_iff]
        intro ht
        rw [Source.Node.rule?_isTemplate ht] at hrule
        exact hno source (Option.some.inj hrule).symm hc
      simp [ht]

theorem of_eq_ok_iff {admission : Admission} : Admission.of context node = .ok admission ↔
    node.rule? = some admission.rule ∧ admission.context = context.below node ∧
      node.templateContent admission.rule = .ok admission.content := by
  rw [of_eq]
  constructor
  · intro h
    cases hr : Rule.ofNode node with
    | error failure => simp [hr, Except.bind] at h
    | ok rule =>
      cases hc : node.templateContent rule with
      | error failure => simp [hr, hc, Except.bind, Except.map] at h
      | ok content =>
        have hrule := Source.Node.ofNode_eq_ok_iff.mp hr
        simp only [hr, hc, Except.bind, Except.map, Except.ok.injEq] at h
        subst h
        exact ⟨hrule, by simp [Context.below, hrule], hc⟩
  · rintro ⟨hrule, hcontext, hc⟩
    rw [Source.Node.ofNode_of_rule? hrule]
    simp only [Except.bind, hc, Except.map, Except.ok.injEq]
    obtain ⟨rule, below, content⟩ := admission
    simp_all [Context.below]

/-- What is decided on entry: the rule by the kind, the space by the namespace of elements, and
the content only of templates. -/
theorem of_eq_ok {admission : Admission} (h : Admission.of context node = .ok admission) :
    node.rule? = some admission.rule ∧ admission.context = context.below node ∧
      admission.content = if node.isTemplate then node.content? else none := by
  obtain ⟨hrule, hcontext, hcontent⟩ := of_eq_ok_iff.mp h
  exact ⟨hrule, hcontext, templateContent_eq_ok hrule hcontent⟩

theorem content_eq {admission : Admission} (h : Admission.of context node = .ok admission) :
    admission.content = none ∨ admission.content = node.content? := by
  rw [(of_eq_ok h).2.2]
  cases node.isTemplate
  · exact .inl rfl
  · exact .inr rfl

theorem mem_content {part : Source.Node} (h : Admission.of context node = .ok admission)
    (hpart : part ∈ admission.content) : part ∈ node.content? := by
  rcases content_eq h with hc | hc
  · simp [hc] at hpart
  · exact hc ▸ hpart

theorem visited_eq (h : Admission.of context node = .ok admission) :
    node.visited =
      node :: (node.children ++ admission.content.toList).flatMap Source.Node.visited := by
  rw [Source.Node.visited_eq, (of_eq_ok h).2.2]
  split <;> rfl

end Admission

end MarkupTree
