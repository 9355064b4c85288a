import MarkupTree.Proofs.Conversion.Located

namespace MarkupTree

/-- Induction along a conversion under one text: a relation between nodes and their results holds of
a whole tree if every rule, followed by the placing of what it made, carries it over from the parts
of a node to the node. -/
theorem convertNode_induction {R : Source.Node → Node → Prop} {text : Option String}
    (hcomplete : ∀ context source rule children content run made run₁, context.text = text →
      run.Indexed text → source.rule? = some rule → List.Forall₂ R source.children children →
      ContentFrom R source content →
      rule.convert (Context.below context source) source children content run = (.ok made, run₁) →
        R source (locate (Context.below context source) source.location made run₁).1)
    (source : Source.Node) : ∀ context run result run', context.text = text → run.Indexed text →
      convertNode context source run = (.ok result, run') → R source result := by
  induction source with
  | mk form payload children content ihc iht =>
    intro context run result run' htext hrun h
    obtain ⟨admission, results, converted, run₁, run₂, ha, hchildren, hcontent, hdone⟩ :=
      convertNode_eq_ok_iff.mp h
    obtain ⟨hrule, hcontext, -⟩ := Admission.of_eq_ok ha
    obtain ⟨made, run₃, hmade, hplaced⟩ := Admission.complete_steps hdone
    rw [hcontext] at hmade hplaced
    have hbelow := (context.text_below (.mk form payload children content)).trans htext
    have hkeeps (s : Source.Node) (run : Run) (t : Node) (run' : Run) (hrun : run.Indexed text)
        (hs : convertNode (context.below (.mk form payload children content)) s run =
          (.ok t, run')) : run'.Indexed text :=
      (hbelow ▸ convertNode_follows s _ _ _ _ hs).indexed hrun
    -- The children are converted before the content, and neither changes which text is indexed.
    have hresults := convertNodes_forall₂_of hkeeps hrun hchildren fun s hs run t run' =>
      ihc s hs _ run t run' hbelow
    have hrun₁ : run₁.Indexed text :=
      (hbelow ▸ convertNodes_follows hchildren fun s _ => convertNode_follows s _).indexed hrun
    have hconverted := convertContent_from hcontent fun s t _ hs hst =>
      iht s hs _ _ _ _ hbelow hrun₁ hst
    have hrun₂ : run₂.Indexed text :=
      (hbelow ▸ convertContent_follows hcontent fun s _ => convertNode_follows s _).indexed hrun₁
    have hresult := hcomplete context _ _ _ _ _ _ _ htext hrun₂ hrule hresults hconverted hmade
    rwa [hplaced] at hresult

/-- What every rule gives to its result if the parts have it, and what placing a node keeps, holds
of all results, where `Q` is what may be assumed of the nodes that are entered. -/
theorem convertNode_forall {P : Node → Prop} {Q : Source.Node → Prop} {text : Option String}
    (hrules : ∀ (rule : Rule) context source children content run t run', context.text = text →
      run.Indexed text → Q source → source.rule? = some rule → (∀ c ∈ children, P c) →
      (∀ c ∈ content, P c) →
        rule.convert context source children content run = (.ok t, run') → P t)
    (hlocate : ∀ context source t run, Q source → P t →
      P (locate context (Source.Node.location source) t run).1)
    {source : Source.Node} {context : Context} {run run' : Run} {result : Node}
    (htext : context.text = text) (hrun : run.Indexed text) (hsource : ∀ n ∈ source.visited, Q n)
    (h : convertNode context source run = (.ok result, run')) : P result := by
  refine convertNode_induction (R := fun s t => (∀ n ∈ s.visited, Q n) → P t) ?_ source context run
    result run' htext hrun h hsource
  intro context source rule children content run made run₁ htext hrun hrule hchildren hcontent hmade
    hvisited
  rw [Source.Node.visited_eq_cons, List.forall_mem_cons] at hvisited
  obtain ⟨hself, hbelow⟩ := hvisited
  refine hlocate _ _ _ _ hself (hrules rule _ source children content run made run₁
    ((context.text_below source).trans htext) hrun hself hrule (fun c hc => ?_)
    (fun c hc => ?_) hmade)
  · obtain ⟨i, hi, rfl⟩ := List.getElem_of_mem hc
    have hs : i < source.children.length := hchildren.length_eq ▸ hi
    exact hchildren.get hs hi fun n hn => hbelow n
      (Source.Node.mem_visitedBelow_of_child (List.getElem_mem hs) hn)
  · rcases hcontent with ⟨rfl, -⟩ | ⟨s, t, htemplate, hs, rfl, hst⟩
    · cases hc
    · cases hc
      exact hst fun n hn => hbelow n (Source.Node.mem_visitedBelow_of_content htemplate hs hn)

end MarkupTree
