import Mathlib.Data.List.Forall2
import MarkupTree.Proofs.Conversion.Induction
import MarkupTree.Proofs.Conversion.Tags
import MarkupTree.Proofs.Conversion.Templates

namespace MarkupTree

structure OffsetRange where
  start : Int
  finish : Int
  start_le_finish : start ≤ finish
  deriving DecidableEq, Repr

/-- The offsets of a position that has both of its ends, the first one first. -/
def Position.range? (p : Position) : Option OffsetRange :=
  match p.start.bind Point.offset, p.finish.bind Point.offset with
  | some i, some j => if h : i ≤ j then some ⟨i, j, h⟩ else none
  | _, _ => none

theorem Position.range?_eq_some_iff {p : Position} {r : OffsetRange} :
    p.range? = some r ↔
      p.start.bind Point.offset = some r.start ∧ p.finish.bind Point.offset = some r.finish := by
  obtain ⟨i, j, hle⟩ := r
  unfold range?
  split
  · next hi hj =>
    rw [hi, hj, Option.dite_none_right_eq_some]
    simp only [Option.some.injEq, OffsetRange.mk.injEq]
    exact ⟨fun ⟨_, h⟩ => h, fun h => ⟨h.1 ▸ h.2 ▸ hle, h⟩⟩
  · next hno =>
    constructor
    · nofun
    · rintro ⟨hi, hj⟩
      exact (hno i j hi hj).elim

namespace Source.Node

def range? (node : Source.Node) : Option OffsetRange := node.place?.bind Position.range?

def finishes (tree : Source.Node) : List Int :=
  tree.visited.filterMap fun n => n.range?.map OffsetRange.finish

def hasEndTag (node : Source.Node) : Bool :=
  (node.location.bind Location.endTag).isSome

/-- The children of a node have ranges that start within it, in their order and apart from each
other. An element may end anywhere, but one with an end tag does not end before what is below it. -/
structure Nests (node : Source.Node) : Prop where
  plain : node.isTemplate = false
  ranged : ∀ c ∈ node.children, c.range?.isSome
  starts : ∀ r ∈ node.range?, ∀ c ∈ node.children, ∀ q ∈ c.range?, r.start ≤ q.start
  apart : node.children.Pairwise fun a b => ∀ finish ∈ a.finishes, ∀ q ∈ b.range?, finish ≤ q.start
  closed : node.rule? = some .element → node.hasEndTag → ∀ r ∈ node.range?,
    ∀ finish ∈ node.finishes, finish ≤ r.finish

instance (node : Source.Node) : Decidable node.Nests :=
  decidable_of_iff
    (node.isTemplate = false ∧ (∀ c ∈ node.children, c.range?.isSome) ∧
      (∀ r ∈ node.range?, ∀ c ∈ node.children, ∀ q ∈ c.range?, r.start ≤ q.start) ∧
      (node.children.Pairwise fun a b =>
        ∀ finish ∈ a.finishes, ∀ q ∈ b.range?, finish ≤ q.start) ∧
      (node.rule? = some .element → node.hasEndTag → ∀ r ∈ node.range?,
        ∀ finish ∈ node.finishes, finish ≤ r.finish))
    ⟨fun ⟨hplain, hranged, hstarts, hapart, hclosed⟩ =>
      ⟨hplain, hranged, hstarts, hapart, hclosed⟩,
      fun h => ⟨h.plain, h.ranged, h.starts, h.apart, h.closed⟩⟩

theorem finish_mem_finishes {node n : Source.Node} {r : OffsetRange} (hn : n ∈ node.visited)
    (h : n.range? = some r) : r.finish ∈ node.finishes := by
  refine List.mem_filterMap.mpr ⟨n, hn, ?_⟩
  rw [h]
  rfl

theorem mem_finishes_of_child {node c : Source.Node} {finish : Int} (hc : c ∈ node.children)
    (h : finish ∈ c.finishes) : finish ∈ node.finishes := by
  obtain ⟨n, hn, hfinish⟩ := List.mem_filterMap.mp h
  refine List.mem_filterMap.mpr ⟨n, ?_, hfinish⟩
  rw [visited_eq_cons]
  exact List.mem_cons_of_mem _ (mem_visitedBelow_of_child hc hn)

end Source.Node

namespace Node

def range? (node : Node) : Option OffsetRange := node.position.bind Position.range?

theorem finish_of_range? {node : Node} {r : OffsetRange} (h : node.range? = some r) :
    ∃ finish, node.position.bind Position.finish = some finish ∧
      finish.offset = some r.finish := by
  obtain ⟨p, hp, hrange⟩ := Option.bind_eq_some_iff.mp h
  obtain ⟨finish, hfinish, hoffset⟩ :=
    Option.bind_eq_some_iff.mp (Position.range?_eq_some_iff.mp hrange).2
  refine ⟨finish, ?_, hoffset⟩
  rw [hp, Option.bind_some, hfinish]

def Encloses (node : Node) : Prop :=
  node.tag?.isSome → ∀ c ∈ node.children, ∃ r q, node.range? = some r ∧ c.range? = some q ∧
    r.start ≤ q.start ∧ q.finish ≤ r.finish

structure Ordered (start : Int) (nodes : List Node) : Prop where
  ranged : ∀ c ∈ nodes, ∃ q, c.range? = some q ∧ start ≤ q.start
  apart : nodes.Pairwise fun a b => ∀ q ∈ a.range?, ∀ r ∈ b.range?, q.finish ≤ r.start

theorem Ordered.finish_le {start : Int} {nodes : List Node} {last : Node} {r : OffsetRange}
    (h : Ordered start nodes) (hlast : nodes.getLast? = some last) (hr : last.range? = some r) :
    ∀ c ∈ nodes, ∀ q ∈ c.range?, q.finish ≤ r.finish := by
  intro c hc q hq
  obtain ⟨before, rfl⟩ := List.getLast?_eq_some_iff.mp hlast
  rcases List.mem_append.mp hc with hc | hc
  · have hapart := (List.pairwise_append.mp h.apart).2.2 c hc last (List.mem_singleton.mpr rfl)
    exact Int.le_trans (hapart q hq r hr) r.start_le_finish
  · obtain rfl := List.mem_singleton.mp hc
    obtain rfl := Option.some.inj (hq.symm.trans hr)
    exact Int.le_refl _

end Node

/-- With a repaired end an element starts where it did and no child ends after it. It ends where it
did or where its last child does. -/
theorem repairEnd_range {endTag : Option Span} {children : List Node} {p : Position}
    {r : OffsetRange} (hp : p.range? = some r) (hordered : Node.Ordered r.start children)
    (hclosed : endTag.isSome → ∀ c ∈ children, ∀ q ∈ c.range?, q.finish ≤ r.finish) :
    ∃ r', (repairEnd endTag children p).range? = some r' ∧ r'.start = r.start ∧
      (∀ c ∈ children, ∀ q ∈ c.range?, q.finish ≤ r'.finish) ∧
      (r'.finish = r.finish ∨ ∃ c ∈ children, ∃ q ∈ c.range?, r'.finish = q.finish) := by
  cases endTag with
  | some tag => exact ⟨r, hp, rfl, hclosed rfl, .inl rfl⟩
  | none =>
    cases hlast : children.getLast? with
    | none =>
      obtain rfl := List.getLast?_eq_none_iff.mp hlast
      exact ⟨r, hp, rfl, nofun, .inl rfl⟩
    | some last =>
      have hmem := List.mem_of_getLast? hlast
      obtain ⟨q, hq, hstart⟩ := hordered.ranged last hmem
      obtain ⟨finish, hfinish, hoffset⟩ := Node.finish_of_range? hq
      have hend : lastEnd? children = some finish := by
        rw [lastEnd?, hlast]
        exact hfinish
      have hrepair : repairEnd none children p = { p with finish := some finish } := by
        simp only [repairEnd, hend]
      refine ⟨⟨r.start, q.finish, Int.le_trans hstart q.start_le_finish⟩, ?_, rfl, ?_,
        .inr ⟨last, hmem, q, hq, rfl⟩⟩
      · rw [hrepair, Position.range?_eq_some_iff]
        exact ⟨(Position.range?_eq_some_iff.mp hp).1, hoffset⟩
      · intro c hc
        exact hordered.finish_le hlast hq c hc

/-- Source and result have ranges that start alike, and that of the result ends where some node of
the source tree does. -/
def Reaches (source : Source.Node) (result : Node) : Prop :=
  ∃ r q, source.range? = some r ∧ result.range? = some q ∧ q.start = r.start ∧
    q.finish ∈ source.finishes

namespace Reaches
variable {source : Source.Node} {result : Node} {r q : OffsetRange}

theorem start_eq (h : Reaches source result) (hr : source.range? = some r)
    (hq : result.range? = some q) : q.start = r.start := by
  obtain ⟨r', q', hr', hq', hstart, -⟩ := h
  obtain rfl := Option.some.inj (hr.symm.trans hr')
  obtain rfl := Option.some.inj (hq.symm.trans hq')
  exact hstart

theorem finish_mem (h : Reaches source result) (hq : result.range? = some q) :
    q.finish ∈ source.finishes := by
  obtain ⟨_, q', -, hq', -, hfinish⟩ := h
  obtain rfl := Option.some.inj (hq.symm.trans hq')
  exact hfinish

variable {sources : List Source.Node} {results : List Node}

theorem exists_source (h : List.Forall₂ Reaches sources results) :
    ∀ t ∈ results, ∃ s ∈ sources, Reaches s t := by
  induction h with
  | nil => exact nofun
  | @cons s _ _ _ hst _ ih =>
    refine List.forall_mem_cons.mpr ⟨⟨s, List.mem_cons_self, hst⟩, fun t ht => ?_⟩
    obtain ⟨s', hs', hst'⟩ := ih t ht
    exact ⟨s', List.mem_cons_of_mem _ hs', hst'⟩

/-- Results that reach what their sources do are apart if these are. -/
theorem apart (h : List.Forall₂ Reaches sources results)
    (hapart : sources.Pairwise fun a b =>
      ∀ finish ∈ a.finishes, ∀ q ∈ b.range?, finish ≤ q.start) :
    results.Pairwise fun a b => ∀ q ∈ a.range?, ∀ r ∈ b.range?, q.finish ≤ r.start := by
  induction h with
  | nil => exact .nil
  | @cons s t sources results hst hrest ih =>
    rw [List.pairwise_cons] at hapart ⊢
    refine ⟨?_, ih hapart.2⟩
    intro t' ht' q hq r hr
    -- The first result ends where a node of its source's tree does, and all of these end before the
    -- later source, with which the later result starts.
    obtain ⟨s', hs', hst'⟩ := exists_source hrest t' ht'
    have ⟨p, _, hp, _⟩ := hst'
    rw [hst'.start_eq hp hr]
    exact hapart.1 s' hs' _ (hst.finish_mem hq) p hp

/-- The results for the children of a node that nests are ordered as these are. -/
theorem ordered (hnests : source.Nests) (hr : source.range? = some r)
    (h : List.Forall₂ Reaches source.children results) : Node.Ordered r.start results := by
  refine ⟨fun c hc => ?_, apart h hnests.apart⟩
  obtain ⟨s, hs, p, q, hp, hq, hstart, -⟩ := exists_source h c hc
  refine ⟨q, hq, ?_⟩
  rw [hstart]
  exact hnests.starts r hr s hs p hp

theorem children_finish_mem (h : List.Forall₂ Reaches source.children results) :
    ∀ c ∈ results, ∀ q ∈ c.range?, q.finish ∈ source.finishes := by
  intro c hc q hq
  obtain ⟨s, hs, hsc⟩ := exists_source h c hc
  exact Source.Node.mem_finishes_of_child hs (hsc.finish_mem hq)

end Reaches

section
variable {context : Context} {source : Source.Node} {children : List Node}
  {content : Option Node} {run run' : Run} {result : Node} {r : OffsetRange}

theorem Rule.convert_element_plain (hrule : source.rule? = some .element)
    (hplain : source.isTemplate = false)
    (h : Rule.element.convert context source children content run = (.ok result, run')) :
    ∃ tag, result = .element none tag children none := by
  obtain ⟨tag, ⟨-, rfl⟩ | ⟨htemplate, -⟩ | ⟨htemplate, -⟩⟩ :=
    convertElement_shape hrule (convert_element_eq_ok h)
  · exact ⟨tag, rfl⟩
  · rw [hplain] at htemplate
    cases htemplate
  · rw [hplain] at htemplate
    cases htemplate

theorem Rule.convert_parts_subset {rule : Rule} (hrule : source.rule? = some rule)
    (hplain : source.isTemplate = false)
    (h : rule.convert context source children content run = (.ok result, run')) :
    result.parts ⊆ children := by
  cases rule with
  | root =>
    obtain ⟨p, rfl⟩ := convert_root_eq_ok h
    rw [Node.parts_root]
    exact List.Subset.refl _
  | element =>
    obtain ⟨tag, rfl⟩ := convert_element_plain hrule hplain h
    simp
  | text | comment | doctype =>
    rcases convert_leaf_eq_ok h nofun nofun with ⟨kind, value, rfl⟩ | rfl
    · exact List.nil_subset _
    · exact List.nil_subset _

theorem locate_range?_of_tag?_none {made : Node} (htext : context.text.isSome)
    (htag : made.tag? = none) (hr : source.range? = some r) :
    (locate context source.location made run).1.range? = some r := by
  obtain ⟨p, hp, hrange⟩ := Option.bind_eq_some_iff.mp hr
  have hplace : (made.place context.space context.verbose.truthy source.location).1 =
      source.place? := by
    cases made with
    | element _ _ _ _ => cases htag
    | _ => rfl
  rw [Node.range?, position_locate, if_pos htext, hplace, hp, Option.some_or, Option.bind_some,
    hrange]

/-- An element is placed where its source is, up to a repaired end. -/
theorem locate_element_range? {tag : Tag} {p : Position} (htext : context.text.isSome)
    (hp : source.place? = some p) :
    (locate context source.location (.element none tag children none) run).1.range? =
      (repairEnd (source.location.bind Source.Location.endTag) children p).range? := by
  rw [Node.range?, position_locate, if_pos htext]
  show ((source.place?.map _).or none).bind _ = _
  rw [hp]
  rfl

/-- A placed element starts where its source does, ends where a node below does, and encloses its
children. -/
theorem locate_element_nests {tag : Tag} (htext : context.text.isSome) (h : source.Nests)
    (hrule : source.rule? = some .element) (hr : source.range? = some r)
    (hchildren : List.Forall₂ Reaches source.children children) :
    let placed := (locate context source.location (.element none tag children none) run).1
    Reaches source placed ∧ placed.Encloses := by
  intro placed
  obtain ⟨p, hp, hrange⟩ := Option.bind_eq_some_iff.mp hr
  have hordered := Reaches.ordered h hr hchildren
  have hfinishes := Reaches.children_finish_mem hchildren
  -- A closed element keeps its end, and its children have theirs from nodes that end before it.
  obtain ⟨r', hr', hstart, hlast, hfinish⟩ := repairEnd_range hrange hordered
    fun hclosed c hc q hq => h.closed hrule hclosed r hr _ (hfinishes c hc q hq)
  have hplaced : placed.range? = some r' := (locate_element_range? htext hp).trans hr'
  constructor
  · refine ⟨r, r', hr, hplaced, hstart, ?_⟩
    rcases hfinish with hown | ⟨c, hc, q, hq, hchild⟩
    · rw [hown]
      exact Source.Node.finish_mem_finishes source.mem_visited_self hr
    · rw [hchild]
      exact hfinishes c hc q hq
  · intro _ c hc
    rw [children_locate] at hc
    obtain ⟨q, hq, hle⟩ := hordered.ranged c hc
    exact ⟨r', q, hplaced, hq, hstart ▸ hle, hlast c hc q hq⟩

/-- Where every child nests and encloses, so does the placed result of a node. -/
theorem Rule.convert_nests {rule : Rule} (htext : context.text.isSome) (h : source.Nests)
    (hrule : source.rule? = some rule) (htop : source.IsRoot ∨ source.range?.isSome)
    (hchildren : List.Forall₂ Reaches source.children children)
    (hmade : rule.convert context source children content run = (.ok result, run')) :
    let placed := (locate context source.location result run').1
    (source.range?.isSome → Reaches source placed) ∧ placed.Encloses := by
  intro placed
  by_cases helement : rule = .element
  · subst helement
    obtain ⟨tag, rfl⟩ := convert_element_plain hrule h.plain hmade
    have hsome : source.range?.isSome := by
      refine htop.resolve_left fun hroot => ?_
      rw [← Source.Node.rule?_eq_root_iff, hrule] at hroot
      cases hroot
    obtain ⟨r, hr⟩ := Option.isSome_iff_exists.mp hsome
    obtain ⟨hreaches, hencloses⟩ := locate_element_nests htext h hrule hr hchildren
    exact ⟨fun _ => hreaches, hencloses⟩
  · have htag := convert_tag?_eq_none hrule helement hmade
    constructor
    · intro hsome
      obtain ⟨r, hr⟩ := Option.isSome_iff_exists.mp hsome
      exact ⟨r, r, hr, locate_range?_of_tag?_none htext htag hr, rfl,
        Source.Node.finish_mem_finishes source.mem_visited_self hr⟩
    · intro hsome
      rw [tag?_locate, htag] at hsome
      cases hsome

end

/-- What a conversion establishes of a node: its result starts where it does and ends where a node
of its tree does, and all elements of the result enclose their children. -/
def ConvertsNested (source : Source.Node) (result : Node) : Prop :=
  (∀ n ∈ source.visited, n.Nests) → (source.IsRoot ∨ source.range?.isSome) →
    (source.range?.isSome → Reaches source result) ∧ ∀ n ∈ result.preorder, n.Encloses

theorem ConvertsNested.children {source : Source.Node} {children : List Node}
    (hself : source.Nests) (hbelow : ∀ n ∈ source.visitedBelow, n.Nests)
    (h : List.Forall₂ ConvertsNested source.children children) :
    List.Forall₂ Reaches source.children children ∧
      ∀ c ∈ children, ∀ n ∈ c.preorder, n.Encloses := by
  have hranged := hself.ranged
  have hnests : ∀ s ∈ source.children, ∀ n ∈ s.visited, n.Nests := by
    intro s hs n hn
    exact hbelow n (Source.Node.mem_visitedBelow_of_child hs hn)
  generalize source.children = sources at h hranged hnests
  induction h with
  | nil => exact ⟨.nil, nofun⟩
  | cons hst _ ih =>
    rw [List.forall_mem_cons] at hranged hnests
    obtain ⟨hreaches, hencloses⟩ := hst hnests.1 (.inr hranged.1)
    obtain ⟨hrest, hall⟩ := ih hranged.2 hnests.2
    exact ⟨.cons (hreaches hranged.1) hrest, List.forall_mem_cons.mpr ⟨hencloses, hall⟩⟩

/-- The invariant of a whole conversion, by induction on the parse tree. The repaired end of a node
is the end of a node below it, so it stays before what follows and within what is closed above. -/
theorem convertNode_nested {context : Context} {source : Source.Node} {run run' : Run}
    {result : Node} {text : String} (htext : context.text = some text)
    (hrun : run.Indexed (some text))
    (h : convertNode context source run = (.ok result, run')) : ConvertsNested source result := by
  refine convertNode_induction ?_ source context run result run' htext hrun h
  intro context source rule children content run made run₁ htext _ hrule hchildren _ hmade
    hvisited htop
  rw [Source.Node.visited_eq_cons, List.forall_mem_cons] at hvisited
  obtain ⟨hself, hbelow⟩ := hvisited
  obtain ⟨hreaches, hencloses⟩ := ConvertsNested.children hself hbelow hchildren
  obtain ⟨hstart, hencloses'⟩ := Rule.convert_nests (by simp [htext]) hself hrule htop hreaches hmade
  refine ⟨hstart, ?_⟩
  rw [Node.preorder_eq, List.forall_mem_cons, List.forall_mem_flatMap]
  refine ⟨hencloses', fun part hpart => ?_⟩
  rw [parts_locate] at hpart
  exact hencloses part (Rule.convert_parts_subset hrule hself.plain hmade hpart)

/-- Where a parse tree without templates reports ranges that nest, up to the ends of elements
without end tags, a conversion with a file gives every child of an element a range within that of
the element. -/
theorem convert_restores_nesting {run run' : Run} {options : Options File} {tree : Source.Node}
    {node : Node} (h : run.convert options tree = (.ok node, run')) (hfile : options.file.isSome)
    (htop : tree.IsRoot ∨ tree.range?.isSome) (hnests : ∀ n ∈ tree.visited, n.Nests) :
    ∀ n ∈ node.preorder, n.Encloses := by
  obtain ⟨log, log', run₂, hnode, rfl⟩ := Run.convert_steps h
  obtain ⟨file, hoptions⟩ := Option.isSome_iff_exists.mp hfile
  have htext : (Context.ofOptions options).text = some file.text := by
    simp [hoptions]
  refine (convertNode_nested htext ?_ hnode hnests htop).2
  -- A conversion starts without an index.
  intro index hindex
  cases hindex

def onFirstLine (start finish : Int) : Span :=
  ⟨⟨some 1, some (start + 1), some start⟩, ⟨some 1, some (finish + 1), some finish⟩⟩

def Source.Node.spanning (node : Source.Node) (start finish : Int) (endTag : Option Span) :
    Source.Node :=
  node.atLocation ⟨onFirstLine start finish, none, endTag, []⟩

def shelf : Source.Node :=
  .bare "document" none none
    [(Source.Node.bare "element" none "ul"
        [(Source.Node.bare "element" none "li"
            [(Source.Node.bare "text" "a" none [] none).spanning 8 9 none] none).spanning 4 8 none,
          (Source.Node.bare "element" none "li"
            [(Source.Node.bare "element" none "b"
              [(Source.Node.bare "text" "c" none [] none).spanning 16 17 none]
              none).spanning 13 16 none] none).spanning 9 13 none]
        none).spanning 0 22 (some (onFirstLine 17 22)),
      (Source.Node.bare "text" "d" none [] none).spanning 22 23 none] none

def shelved : Options File :=
  ⟨.string "html", some (.ofText "<ul><li>a<li><b>c</ul>d" none), .bool false⟩

def convertedShelf : Node :=
  let element (start finish : Int) (name : String) (children : List Node) : Node :=
    .element (onFirstLine start finish).position? ⟨.string name, [], none⟩ children none
  let text (start finish : Int) (data : String) : Node :=
    .literal (onFirstLine start finish).position? .text (.string data)
  .root (some (LineIndex.ofText "<ul><li>a<li><b>c</ul>d").whole) false
    [element 0 22 "ul"
        [element 4 9 "li" [text 8 9 "a"],
          element 9 17 "li" [element 13 17 "b" [text 16 17 "c"]]],
      text 22 23 "d"]

theorem convert_shelf :
    ∃ run', (Run.fresh shelved false).convert shelved shelf = (.ok convertedShelf, run') := by
  refine ⟨⟨true, some (LineIndex.ofText "<ul><li>a<li><b>c</ul>d"), [], none⟩, ?_⟩
  rw [Run.convert_eq_convertNode]
  rfl

theorem convert_restores_nesting_shelf :
    (∃ run', (Run.fresh shelved false).convert shelved shelf = (.ok convertedShelf, run')) ∧
      shelved.file.isSome ∧ shelf.IsRoot ∧ (∀ n ∈ shelf.visited, n.Nests) ∧
      ∀ n ∈ convertedShelf.preorder, n.Encloses := by
  obtain ⟨run', h⟩ := convert_shelf
  have hnests : ∀ n ∈ shelf.visited, n.Nests := by decide +kernel
  exact ⟨⟨run', h⟩, rfl, .inl rfl, hnests,
    convert_restores_nesting h rfl (.inl (.inl rfl)) hnests⟩

end MarkupTree
