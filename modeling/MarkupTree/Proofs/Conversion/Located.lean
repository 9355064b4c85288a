import MarkupTree.Proofs.Conversion.Locating

namespace MarkupTree

def Run.Indexed (text : Option String) (run : Run) : Prop :=
  ∀ index, run.index = some index → index = LineIndex.ofText (text.getD "None")

/-- What a run becomes when these nodes are converted: a located one among them marks it where
there is a file, an index that it did not have is that of the text, and a log stays one. -/
structure Run.Follows (text : Option String) (nodes : List Source.Node) (run run' : Run) :
    Prop where
  located : run'.located ↔ run.located ∨ text.isSome ∧ ∃ n ∈ nodes, n.IsLocated
  index : ∀ index, run'.index = some index →
    run.index = some index ∨ index = LineIndex.ofText (text.getD "None")
  log : run'.log.isSome = run.log.isSome

namespace Run.Follows
variable {text : Option String} {xs ys : List Source.Node} {run run₁ run₂ : Run}

theorem of_kept (hlocated : run₁.located = run.located) (hindex : run₁.index = run.index)
    (hlog : run₁.log.isSome = run.log.isSome) : Follows text [] run run₁ where
  located := by simp [hlocated]
  index := fun index h => .inl (hindex ▸ h)
  log := hlog

theorem trans (h : Follows text xs run run₁) (h' : Follows text ys run₁ run₂) :
    Follows text (xs ++ ys) run run₂ where
  located := by
    rw [h'.located, h.located, or_assoc, ← and_or_left]
    simp only [List.mem_append, or_and_right, exists_or]
  index := by
    intro index hindex
    rcases h'.index index hindex with hindex | hindex
    · exact h.index index hindex
    · exact .inr hindex
  log := h'.log.trans h.log

theorem of_mem_iff (h : Follows text xs run run₁) (hmem : ∀ n, n ∈ xs ↔ n ∈ ys) :
    Follows text ys run run₁ where
  located := by simp only [h.located, hmem]
  index := h.index
  log := h.log

theorem indexed {nodes : List Source.Node} (h : Follows text nodes run run₁)
    (hrun : run.Indexed text) : run₁.Indexed text := by
  intro index hindex
  rcases h.index index hindex with hindex | hindex
  · exact hrun index hindex
  · exact hindex

end Run.Follows

section
variable {context : Context} {source : Source.Node} {children : List Node}
  {content : Option Node} {run run' : Run} {result : Node}

theorem Rule.convertRoot_of_located (h : context.text.isSome && run.located) :
    convertRoot context source children run =
      (.root (some (run.lineIndex context.text).1.whole) source.inQuirksMode children,
        (run.lineIndex context.text).2) := by
  rw [convertRoot, if_pos h]
  rfl

theorem Rule.convertRoot_of_unlocated (h : ¬(context.text.isSome && run.located)) :
    convertRoot context source children run = (.root none source.inQuirksMode children, run) := by
  rw [convertRoot, if_neg h]

theorem Run.lineIndex_follows (run : Run) (text : Option String) :
    run.Follows text [] (run.lineIndex text).2 := by
  unfold lineIndex
  split
  · exact .of_kept rfl rfl rfl
  · exact ⟨by simp, fun index h => .inr (Option.some.inj h).symm, rfl⟩

theorem Run.lineIndex_fst {text : Option String} (h : run.Indexed text) :
    (run.lineIndex text).1 = LineIndex.ofText (text.getD "None") := by
  unfold lineIndex
  split
  · next index hindex => exact h index hindex
  · rfl

theorem Rule.convert_follows {rule : Rule} {x : Except Failure Node}
    (h : rule.convert context source children content run = (x, run')) :
    run.Follows context.text [] run' := by
  cases rule with
  | root =>
    have hrun' : (convertRoot context source children run).2 = run' := congrArg Prod.snd h
    by_cases hspan : context.text.isSome && run.located
    · rw [← hrun', convertRoot_of_located hspan]
      exact run.lineIndex_follows context.text
    · rw [← hrun', convertRoot_of_unlocated hspan]
      exact .of_kept rfl rfl rfl
  | comment =>
    simp only [convert, convertComment] at h
    split at h
    · cases h
      exact .of_kept rfl rfl rfl
    · split at h
      · cases h
        exact .of_kept rfl rfl rfl
      · split at h
        · cases h
          exact .of_kept rfl rfl rfl
        · next hnote =>
          obtain ⟨log, hlog, rfl⟩ := Run.note_eq_ok hnote
          cases h
          exact .of_kept rfl rfl hlog
    · cases h
      exact .of_kept rfl rfl rfl
  | text | doctype | element =>
    cases h
    exact .of_kept rfl rfl rfl

theorem locate_follows (context : Context) (source : Source.Node) (node : Node) (run : Run) :
    run.Follows context.text [source] (locate context source.location node run).2 := by
  rw [locate_snd]
  refine ⟨?_, fun index hindex => .inl hindex, rfl⟩
  rw [Bool.or_eq_true, Bool.and_eq_true, Source.Node.place?_isSome_iff]
  simp

theorem Admission.complete_follows {admission : Admission}
    (h : admission.complete source children content run = (.ok result, run')) :
    run.Follows admission.context.text [source] run' := by
  obtain ⟨made, run₁, hmade, hlocate⟩ := complete_steps h
  have hplaced := locate_follows admission.context source made run₁
  rw [hlocate] at hplaced
  exact (Rule.convert_follows hmade).trans hplaced

theorem convertNodes_follows {sources : List Source.Node} {results : List Node}
    (h : convertNodes context sources run = (.ok results, run'))
    (hs : ∀ s ∈ sources, ∀ run t run', convertNode context s run = (.ok t, run') →
      run.Follows context.text s.visited run') :
    run.Follows context.text (sources.flatMap Source.Node.visited) run' := by
  induction sources generalizing run results with
  | nil =>
    cases h
    exact .of_kept rfl rfl rfl
  | cons s rest ih =>
    simp only [convertNodes_cons, Outcome.andThen_eq_ok_iff] at h
    obtain ⟨t, run₁, ht, ts, run₂, hts, hr⟩ := h
    cases hr
    rw [List.flatMap_cons]
    have hfirst := hs s List.mem_cons_self _ _ _ ht
    exact hfirst.trans (ih hts fun s hmem => hs s (List.mem_cons_of_mem _ hmem))

theorem convertContent_follows {content : Option Source.Node} {converted : Option Node}
    (h : convertContent context content run = (.ok converted, run'))
    (hs : ∀ s ∈ content, ∀ run t run', convertNode context s run = (.ok t, run') →
      run.Follows context.text s.visited run') :
    run.Follows context.text (content.toList.flatMap Source.Node.visited) run' := by
  rcases convertContent_eq_ok h with ⟨rfl, -, rfl⟩ | ⟨s, t, rfl, -, ht⟩
  · exact .of_kept rfl rfl rfl
  · rw [Option.toList_some, List.flatMap_cons, List.flatMap_nil, List.append_nil]
    exact hs s rfl _ _ _ ht

end

def Source.Node.visitedBelow (node : Source.Node) : List Source.Node :=
  node.children.flatMap visited ++
    (if node.isTemplate then node.content? else none).toList.flatMap visited

theorem Source.Node.mem_visitedBelow_of_child {node s n : Source.Node} (hs : s ∈ node.children)
    (hn : n ∈ s.visited) : n ∈ node.visitedBelow :=
  List.mem_append_left _ (List.mem_flatMap.mpr ⟨s, hs, hn⟩)

theorem Source.Node.mem_visitedBelow_of_content {node s n : Source.Node} (ht : node.isTemplate)
    (hs : node.content? = some s) (hn : n ∈ s.visited) : n ∈ node.visitedBelow := by
  apply List.mem_append_right
  rw [if_pos ht, hs]
  exact List.mem_flatMap.mpr ⟨s, List.mem_singleton.mpr rfl, hn⟩

theorem Source.Node.visited_eq_cons (node : Source.Node) :
    node.visited = node :: node.visitedBelow := by
  rw [visited_eq, visitedBelow, List.flatMap_append]
  congr 2
  split <;> rfl

section
variable {context : Context} {source : Source.Node} {run run₁ run₂ run' : Run}
  {results : List Node} {converted : Option Node} {result : Node}

theorem convertParts_follows
    (hparts : ∀ s ∈ source.children ++ source.content?.toList, ∀ context run t run',
      convertNode context s run = (.ok t, run') → run.Follows context.text s.visited run')
    (hchildren : convertNodes (context.below source) source.children run = (.ok results, run₁))
    (hcontent : convertContent (context.below source)
      (if source.isTemplate then source.content? else none) run₁ = (.ok converted, run₂)) :
    run.Follows context.text source.visitedBelow run₂ := by
  have hfirst := convertNodes_follows hchildren fun s hs =>
    hparts s (List.mem_append_left _ hs) _
  have hsecond := convertContent_follows hcontent fun s hs => by
    apply hparts s (List.mem_append_right _ _) _
    split at hs
    · exact Option.mem_toList.mpr hs
    · cases hs
  rw [Context.text_below] at hfirst hsecond
  exact hfirst.trans hsecond

/-- The run changes with every node that is entered, whatever becomes of the node. -/
theorem convertNode_follows (source : Source.Node) : ∀ context run result run',
    convertNode context source run = (.ok result, run') →
      run.Follows context.text source.visited run' := by
  induction source with
  | mk form payload children content ihc iht =>
    intro context run result run' h
    obtain ⟨admission, results, converted, run₁, run₂, ha, hchildren, hcontent, hcomplete⟩ :=
      convertNode_eq_ok_iff.mp h
    obtain ⟨-, hcontext, -⟩ := Admission.of_eq_ok ha
    have hbelow := convertParts_follows (fun s hs context run t run' => by
      rcases List.mem_append.mp hs with hs | hs
      · exact ihc s hs context run t run'
      · exact iht s (Option.mem_toList.mp hs) context run t run') hchildren hcontent
    have hself := Admission.complete_follows hcomplete
    rw [hcontext, Context.text_below] at hself
    refine (hbelow.trans hself).of_mem_iff fun n => ?_
    rw [Source.Node.visited_eq_cons, List.mem_append, List.mem_singleton, List.mem_cons]
    exact or_comm

/-- When the rule of a node runs, all that is below the node has been converted. -/
theorem convertNode_made (h : convertNode context source run = (.ok result, run')) :
    ∃ rule children content made run₂ run₃, source.rule? = some rule ∧
      run.Follows context.text source.visitedBelow run₂ ∧
      rule.convert (context.below source) source children content run₂ = (.ok made, run₃) ∧
      locate (context.below source) source.location made run₃ = (result, run') := by
  obtain ⟨admission, results, converted, run₁, run₂, ha, hchildren, hcontent, hcomplete⟩ :=
    convertNode_eq_ok_iff.mp h
  obtain ⟨hrule, hcontext, -⟩ := Admission.of_eq_ok ha
  obtain ⟨made, run₃, hmade, hlocate⟩ := Admission.complete_steps hcomplete
  rw [hcontext] at hmade hlocate
  have hbelow := convertParts_follows (fun s _ => convertNode_follows s) hchildren hcontent
  exact ⟨_, _, _, made, run₂, run₃, hrule, hbelow, hmade, hlocate⟩

end

end MarkupTree
