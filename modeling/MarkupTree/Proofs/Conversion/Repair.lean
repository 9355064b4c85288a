import Mathlib.Data.List.Chain
import MarkupTree.Proofs.Conversion.Nesting

namespace MarkupTree

namespace Source.Node

/-- An element that its parser locates, without an end tag, and that is not a template. -/
structure Unclosed (node : Source.Node) : Prop where
  element : node.rule? = some .element
  plain : node.isTemplate = false
  located : node.IsLocated
  endless : node.hasEndTag = false

instance (node : Source.Node) : Decidable node.Unclosed :=
  decidable_of_iff
    (node.rule? = some .element ∧ node.isTemplate = false ∧ node.IsLocated ∧
      node.hasEndTag = false)
    ⟨fun ⟨helement, hplain, hlocated, hendless⟩ => ⟨helement, hplain, hlocated, hendless⟩,
      fun h => ⟨h.element, h.plain, h.located, h.endless⟩⟩

def toLast (node : Source.Node) : Turn := .child (node.children.length - 1)

/-- Unclosed elements of which each is the last child of the one before. -/
structure UnclosedSpine (nodes : List Source.Node) : Prop where
  chain : nodes.IsChain fun a b => a.children.getLast? = some b
  unclosed : ∀ e ∈ nodes, e.Unclosed

theorem keepsChildren_of_plain {node : Source.Node} (helement : node.rule? = some .element)
    (hplain : node.isTemplate = false) : node.keepsChildren := by
  simp [keepsChildren, helement, hplain]

theorem keptAt?_toLast {node last : Source.Node} (hkeeps : node.keepsChildren)
    (h : node.children.getLast? = some last) : node.keptAt? [node.toLast] = some last := by
  rw [List.getLast?_eq_getElem?] at h
  exact keptAt?_child_eq_some_iff.mpr ⟨hkeeps, last, h, rfl⟩

theorem UnclosedSpine.keptAt? {before after : List Source.Node} {x tree : Source.Node}
    {path : List Turn} (h : UnclosedSpine (before ++ x :: after))
    (hfirst : tree.keptAt? path = (before ++ x :: after).head?) :
    tree.keptAt? (path ++ before.map toLast) = some x := by
  induction before generalizing path with
  | nil => simpa using hfirst
  | cons e before ih =>
    obtain ⟨hlast, hchain⟩ := List.isChain_cons.mp h.chain
    have he := h.unclosed e List.mem_cons_self
    have hrest : UnclosedSpine (before ++ x :: after) :=
      ⟨hchain, fun x hx => h.unclosed x (List.mem_cons_of_mem _ hx)⟩
    rw [List.map_cons, ← List.singleton_append, ← List.append_assoc]
    refine ih hrest ?_
    obtain ⟨next, hnext⟩ := Option.isSome_iff_exists.mp
      (show (before ++ x :: after).head?.isSome by simp)
    rw [keptAt?_append, hfirst, hnext]
    exact keptAt?_toLast (keepsChildren_of_plain he.element he.plain) (hlast next hnext)

theorem contentSpan?_toLast (path : List Turn) (node tree : Source.Node) :
    tree.contentSpan? (path ++ [node.toLast]) = none :=
  contentSpan?_of_getLast?_ne (by simp [toLast]) tree

/-- Only the first element of a spine may be the content of a template. -/
theorem contentSpan?_map_toLast {path : List Turn} {before : List Source.Node} {tree : Source.Node}
    (h : before = [] → tree.contentSpan? path = none) :
    tree.contentSpan? (path ++ before.map toLast) = none := by
  rcases before.eq_nil_or_concat with rfl | ⟨first, e, rfl⟩
  · rw [List.map_nil, List.append_nil, h rfl]
  · rw [List.concat_eq_append, List.map_append, ← List.append_assoc]
    exact contentSpan?_toLast _ e tree

end Source.Node

namespace Node

def endAt? (path : List Turn) (node : Node) : Option Point :=
  (node.at? path).bind fun n => n.position.bind Position.finish

end Node

open Source.Node (toLast UnclosedSpine)

theorem repairEnd_of_isSome {endTag : Option Span} (h : endTag.isSome) (children : List Node)
    (p : Position) : repairEnd endTag children p = p := by
  obtain ⟨tag, rfl⟩ := Option.isSome_iff_exists.mp h
  rfl

theorem repairEnd_none (children : List Node) (p : Position) :
    repairEnd none children p = ⟨p.start, (lastEnd? children).or p.finish⟩ := by
  unfold repairEnd
  cases lastEnd? children <;> rfl

section
variable {context : Context} {source : Source.Node} {run run' : Run} {result : Node}

/-- An element is placed by its own location and by the children that it ends up with. -/
theorem convertNode_element_position (htext : context.text.isSome)
    (helement : source.rule? = some .element)
    (h : convertNode context source run = (.ok result, run')) :
    result.position = source.place?.map
      (repairEnd (source.location.bind Source.Location.endTag) result.children) := by
  obtain ⟨rule, children, content, made, run₂, run₃, hrule, -, hmade, hlocate⟩ :=
    convertNode_made h
  obtain rfl := Option.some.inj (hrule.symm.trans helement)
  have hresult : result = (locate (context.below source) source.location made run₃).1 := by
    rw [hlocate]
  -- No rule gives an element a position, so the only one is that of its location.
  have hmade' : ∃ tag children content, made = .element none tag children content := by
    obtain ⟨tag, ⟨-, rfl⟩ | ⟨-, -, rfl⟩ | ⟨-, _, -, rfl⟩⟩ :=
      Rule.convertElement_shape helement (Rule.convert_element_eq_ok hmade)
    · exact ⟨_, _, _, rfl⟩
    · exact ⟨_, _, _, rfl⟩
    · exact ⟨_, _, _, rfl⟩
  obtain ⟨tag, children, content, rfl⟩ := hmade'
  rw [hresult, children_locate, position_locate, Context.text_below, if_pos htext]
  exact Option.or_none

theorem convertNode_plain_children (hplain : source.isTemplate = false)
    (h : convertNode context source run = (.ok result, run')) :
    result.heldChildren = result.children := by
  have hself : result ∈ result.preorder := by
    rw [Node.preorder_eq]
    exact List.mem_cons_self
  have hnone : result.content? = none := by
    rw [← Option.not_isSome_iff_eq_none, (convertNode_wellFormed h result hself).content,
      convertNode_isTemplate h, hplain]
    exact Bool.false_ne_true
  rw [Node.heldChildren, hnone, Option.getD_none]

theorem convertNode_lastEnd? (helement : source.rule? = some .element)
    (hplain : source.isTemplate = false)
    (h : convertNode context source run = (.ok result, run')) :
    lastEnd? result.children = result.endAt? [source.toLast] := by
  have hlength := convertNode_length_heldChildren
    (Source.Node.keepsChildren_of_plain helement hplain) h
  rw [Node.endAt?, toLast, Node.at?, ← hlength, ← List.getLast?_eq_getElem?, lastEnd?,
    convertNode_plain_children hplain h]
  cases result.children.getLast? <;> rfl

/-- An unclosed element starts where its location says and ends where its last child does, or else
where its location says. -/
theorem convertNode_unclosed_position (htext : context.text.isSome) (hsource : source.Unclosed)
    (h : convertNode context source run = (.ok result, run')) :
    result.position = some ⟨source.place?.bind Position.start,
      (result.endAt? [source.toLast]).or (source.place?.bind Position.finish)⟩ := by
  obtain ⟨p, hp⟩ := Option.isSome_iff_exists.mp (source.place?_isSome_iff.mpr hsource.located)
  have hendless : source.location.bind Source.Location.endTag = none :=
    Option.not_isSome_iff_eq_none.mp (Bool.eq_false_iff.mp hsource.endless)
  rw [convertNode_element_position htext hsource.element h, hp, hendless, Option.map_some,
    repairEnd_none, convertNode_lastEnd? hsource.element hsource.plain h]
  rfl

end

section
variable {context : Context} {tree e : Source.Node} {path : List Turn} {run run' : Run}
  {node : Node}

/-- At the end of a path, where no tags of a template interfere, stands just what the node there
converts to. -/
theorem convertNode_at_of_unspanned (h : convertNode context tree run = (.ok node, run'))
    (he : tree.keptAt? path = some e) (hspan : tree.contentSpan? path = none) :
    ∃ result run₁ run₁', convertNode context e run₁ = (.ok result, run₁') ∧
      node.at? path = some result := by
  obtain ⟨result, run₁, run₁', hresult, -, hat⟩ := convertNode_reached h he
  refine ⟨result, run₁, run₁', hresult, ?_⟩
  rw [hat, hspan, ite_self, Option.none_or, Node.withPosition_position]

/-- One link of a spine: an element takes its end from the node one step below. -/
theorem convertNode_unclosed_at (htext : context.text.isSome)
    (h : convertNode context tree run = (.ok node, run')) (he : tree.keptAt? path = some e)
    (hunclosed : e.Unclosed) (hspan : tree.contentSpan? path = none) :
    ∃ r, node.at? path = some r ∧ r.position = some ⟨e.place?.bind Position.start,
      (node.endAt? (path ++ [e.toLast])).or (e.place?.bind Position.finish)⟩ := by
  obtain ⟨result, run₁, run₁', hresult, hat⟩ := convertNode_at_of_unspanned h he hspan
  refine ⟨result, hat, ?_⟩
  rw [convertNode_unclosed_position htext hunclosed hresult, Node.endAt?, Node.endAt?,
    Node.at?_append, hat, Option.bind_some]

/-- Below every element of a spine stands a node that ends where the tip does. The tip hands its end
up from one element to the next. -/
theorem convertNode_spine_endAt? (htext : context.text.isSome)
    (h : convertNode context tree run = (.ok node, run')) {before after : List Source.Node}
    {x : Source.Node} {q : Point} (hspine : UnclosedSpine (before ++ x :: after))
    (hfirst : tree.keptAt? path = (before ++ x :: after).head?)
    (hq : node.endAt? (path ++ (before ++ x :: after).map toLast) = some q) :
    node.endAt? (path ++ before.map toLast ++ [x.toLast]) = some q := by
  induction after generalizing before x with
  | nil => simpa using hq
  | cons y after ih =>
    -- The node below is the next element, which takes its end from one step further down.
    have hsplit : before ++ x :: y :: after = (before ++ [x]) ++ y :: after := by simp
    have hpath : path ++ before.map toLast ++ [x.toLast] =
        path ++ (before ++ [x]).map toLast := by simp
    rw [hsplit] at hspine hfirst hq
    have hspan := Source.Node.contentSpan?_toLast (path ++ before.map toLast) x tree
    rw [hpath] at hspan ⊢
    obtain ⟨t, hat, hposition⟩ := convertNode_unclosed_at htext h (hspine.keptAt? hfirst)
      (hspine.unclosed y (by simp)) hspan
    rw [ih hspine hfirst hq, Option.some_or] at hposition
    rw [Node.endAt?, hat, Option.bind_some, hposition]
    rfl

/-- An element of a spine starts where its location says and ends where the tip does. The last one
ends where its location says if there is no end to take over. -/
theorem convertNode_spine_position (htext : context.text.isSome)
    (h : convertNode context tree run = (.ok node, run')) {before after : List Source.Node}
    {x : Source.Node} (hspine : UnclosedSpine (before ++ x :: after))
    (hfirst : tree.keptAt? path = (before ++ x :: after).head?)
    (hspan : before = [] → tree.contentSpan? path = none) :
    ∃ r, node.at? (path ++ before.map toLast) = some r ∧
      (∀ q, node.endAt? (path ++ (before ++ x :: after).map toLast) = some q →
        r.position = some ⟨x.place?.bind Position.start, some q⟩) ∧
      (after = [] → node.endAt? (path ++ (before ++ x :: after).map toLast) = none →
        r.position = x.place?) := by
  have hx := hspine.unclosed x (by simp)
  obtain ⟨r, hat, hposition⟩ := convertNode_unclosed_at htext h (hspine.keptAt? hfirst) hx
    (Source.Node.contentSpan?_map_toLast hspan)
  refine ⟨r, hat, fun q hq => ?_, ?_⟩
  · rw [hposition, convertNode_spine_endAt? htext h hspine hfirst hq, Option.some_or]
  · rintro rfl hnone
    have hpath : path ++ (before ++ [x]).map toLast = path ++ before.map toLast ++ [x.toLast] := by
      simp
    rw [hpath] at hnone
    obtain ⟨p, hp⟩ := Option.isSome_iff_exists.mp (x.place?_isSome_iff.mpr hx.located)
    rw [hposition, hnone, Option.none_or, hp]
    rfl

/-- An element with an end tag, or that is not located, is placed by its location alone. -/
theorem convertNode_unrepaired_at (htext : context.text.isSome)
    (h : convertNode context tree run = (.ok node, run')) (he : tree.keptAt? path = some e)
    (helement : e.rule? = some .element) (hspan : tree.contentSpan? path = none) :
    ∃ r, node.at? path = some r ∧ (e.hasEndTag → r.position = e.place?) ∧
      (¬e.IsLocated → r.position = none) := by
  obtain ⟨r, run₁, run₁', hr, hat⟩ := convertNode_at_of_unspanned h he hspan
  have hposition := convertNode_element_position htext helement hr
  refine ⟨r, hat, fun hclosed => ?_, fun hunlocated => ?_⟩
  · rw [hposition]
    cases e.place? with
    | none => rfl
    | some p => rw [Option.map_some, repairEnd_of_isSome hclosed]
  · rw [hposition, Option.not_isSome_iff_eq_none.mp (mt e.place?_isSome_iff.mp hunlocated)]
    rfl

end

/-- Converted with a file, the elements of a spine all end where the last child of the last one
does, and start where their own locations say. If there is no such end, the last one ends where its
own location says. An element with an end tag or without a known end keeps what its location gives
it. Only content that the tags of a template place stands where these say. -/
theorem convert_repairs_spine {run run' : Run} {options : Options File} {tree : Source.Node}
    {node : Node} (h : run.convert options tree = (.ok node, run')) (hfile : options.file.isSome) :
    (∀ path es, tree.keptAt? path = es.head? → UnclosedSpine es →
      ∀ before x after, es = before ++ x :: after →
        (before = [] → tree.contentSpan? path = none) →
          ∃ r, node.at? (path ++ before.map toLast) = some r ∧
            (∀ q, node.endAt? (path ++ es.map toLast) = some q →
              r.position = some ⟨x.place?.bind Position.start, some q⟩) ∧
            (after = [] → node.endAt? (path ++ es.map toLast) = none →
              r.position = x.place?)) ∧
      (∀ path e, tree.keptAt? path = some e → e.rule? = some .element →
        tree.contentSpan? path = none → ∃ r, node.at? path = some r ∧
          (e.hasEndTag → r.position = e.place?) ∧ (¬e.IsLocated → r.position = none)) ∧
      ∀ path e p, tree.keptAt? path = some e → tree.contentSpan? path = some p →
        ∃ r, node.at? path = some r ∧ r.position = some p := by
  obtain ⟨log, log', run₂, hnode, rfl⟩ := Run.convert_steps h
  have htext : (Context.ofOptions options).text.isSome := by
    simpa using hfile
  refine ⟨?_, fun path e => convertNode_unrepaired_at htext hnode, ?_⟩
  · rintro path _ hfirst hspine before x after rfl hspan
    exact convertNode_spine_position htext hnode hspine hfirst hspan
  · intro path e p he hspan
    obtain ⟨_, r, _, _, -, -, hat, hposition⟩ := convertNode_position_at htext hnode he
    rw [hspan, Option.some_or] at hposition
    exact ⟨r, hat, hposition⟩

def boldWord : Source.Node :=
  (Source.Node.bare "element" none "b"
    [(Source.Node.bare "text" "c" none [] none).spanning 16 17 none] none).spanning 13 16 none

def lastItem : Source.Node :=
  (Source.Node.bare "element" none "li" [boldWord] none).spanning 9 13 none

theorem convert_repairs_spine_shelf :
    (∃ run', (Run.fresh shelved false).convert shelved shelf = (.ok convertedShelf, run')) ∧
      shelved.file.isSome ∧ shelf.keptAt? [.child 0, .child 1] = some lastItem ∧
      UnclosedSpine [lastItem, boldWord] ∧ ∃ r, convertedShelf.at? [.child 0, .child 1] = some r ∧
        r.position = some ⟨some ⟨some 1, some 10, some 9⟩, some ⟨some 1, some 18, some 17⟩⟩ := by
  obtain ⟨run', h⟩ := convert_shelf
  have hunclosed : ∀ e ∈ [lastItem, boldWord], e.Unclosed := by decide +kernel
  have hspine : UnclosedSpine [lastItem, boldWord] := ⟨.cons_cons rfl (.singleton _), hunclosed⟩
  obtain ⟨r, hat, hend, -⟩ := (convert_repairs_spine h rfl).1 [.child 0, .child 1] _ rfl hspine []
    lastItem [boldWord] rfl fun _ => rfl
  exact ⟨⟨run', h⟩, rfl, rfl, hspine, r, hat, hend _ rfl⟩

def strayContent : Source.Node :=
  (Source.Node.bare "element" none "p"
    [(Source.Node.bare "text" "a" none [] none).spanning 13 14 none] none).spanning 10 13 none

def stray : Source.Node :=
  (Source.Node.bare "element" none "template" [] (some strayContent)).atLocation
    ⟨onFirstLine 0 26, some (onFirstLine 0 10), some (onFirstLine 15 26), []⟩

def strayed : Options File :=
  ⟨.string "html", some (.ofText "<template><p>a </template>" none), .bool false⟩

def convertedStray : Node :=
  .element (onFirstLine 0 26).position? ⟨.string "template", [], none⟩ []
    (some (.element (onFirstLine 10 15).position? ⟨.string "p", [], none⟩
      [.literal (onFirstLine 13 14).position? .text (.string "a")] none))

theorem convert_stray :
    ∃ run', (Run.fresh strayed false).convert strayed stray = (.ok convertedStray, run') := by
  refine ⟨⟨true, none, [], none⟩, ?_⟩
  rw [Run.convert_eq_convertNode]
  rfl

/-- An unclosed element does not end where its last child does if it is the content of a template
with tags that say otherwise. -/
theorem convert_not_repairs_spine :
    ¬∀ (run run' : Run) (options : Options File) (tree : Source.Node) (node : Node)
      (path : List Turn) (es : List Source.Node), run.convert options tree = (.ok node, run') →
        options.file.isSome → tree.keptAt? path = es.head? → UnclosedSpine es →
          ∀ before x after, es = before ++ x :: after →
            ∃ r, node.at? (path ++ before.map toLast) = some r ∧
              ∀ q, node.endAt? (path ++ es.map toLast) = some q →
                r.position = some ⟨x.place?.bind Position.start, some q⟩ := by
  intro hrepairs
  obtain ⟨run', h⟩ := convert_stray
  have hunclosed : ∀ e ∈ [strayContent], e.Unclosed := by decide +kernel
  obtain ⟨r, hat, hend⟩ := hrepairs _ _ _ _ _ [.content] [strayContent] h rfl rfl
    ⟨.singleton _, hunclosed⟩ [] strayContent [] rfl
  cases hat
  exact absurd (hend _ rfl) (by decide)

end MarkupTree
