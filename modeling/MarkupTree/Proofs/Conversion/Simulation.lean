import MarkupTree.Proofs.Conversion.Recursion

namespace MarkupTree

/-- The second outcome is what `g` makes of the first one: they fail alike, or the results
correspond, and the runs that they leave are related. -/
structure Outcome.Maps {α β : Type} (g : α → β) (S : Run → Run → Prop) (o : Outcome α)
    (o' : Outcome β) : Prop where
  result : o'.1 = o.1.map g
  run : S o.2 o'.2

namespace Outcome.Maps
variable {α β γ δ : Type} {g : α → β} {S : Run → Run → Prop}

theorem refl (o : Outcome α) : o.Maps id Eq o := by
  obtain ⟨failure | a, run⟩ := o <;> exact ⟨rfl, rfl⟩

theorem eq {o o' : Outcome α} (h : o.Maps id Eq o') : o' = o := by
  obtain ⟨failure | a, run⟩ := o <;> exact Prod.ext h.result h.run.symm

theorem ok {a : α} {run run' : Run} (h : S run run') :
    Outcome.Maps g S (.ok a, run) (.ok (g a), run') := ⟨rfl, h⟩

theorem andThen {o : Outcome α} {o' : Outcome β} {g' : γ → δ} {f : α → Run → Outcome γ}
    {f' : β → Run → Outcome δ} (h : o.Maps g S o')
    (hf : ∀ a run run', S run run' → (f a run).Maps g' S (f' (g a) run')) :
    (o.andThen f).Maps g' S (o'.andThen f') := by
  obtain ⟨x, run⟩ := o
  obtain ⟨x', run'⟩ := o'
  obtain ⟨hresult, hrun⟩ := h
  dsimp only at hresult hrun
  subst hresult
  cases x with
  | error failure => exact ⟨rfl, hrun⟩
  | ok a => exact hf a run run' hrun

end Outcome.Maps

theorem Admission.of_eq_below (context : Context) (node : Source.Node) :
    Admission.of context node =
      (Rule.ofNode node).bind fun rule => (node.templateContent rule).map fun content =>
        ⟨rule, context.below node, content⟩ := by
  rw [of_eq]
  cases hr : Rule.ofNode node with
  | error failure => rfl
  | ok rule =>
    have hrule := Source.Node.ofNode_eq_ok_iff.mp hr
    simp only [Except.bind, Context.below, hrule, Option.some.injEq]

theorem Admission.complete_eq (a : Admission) (source : Source.Node) (children : List Node)
    (content : Option Node) (run : Run) :
    a.complete source children content run =
      (a.rule.convert a.context source children content run).andThen fun made run =>
        (.ok (locate a.context source.location made run).1,
          (locate a.context source.location made run).2) := by
  rw [complete]
  obtain ⟨failure | made, run⟩ := a.rule.convert a.context source children content run <;> rfl

section
variable {S : Run → Run → Prop} {g : Node → Node} {context context' : Context} {run run' : Run}

theorem convertNodes_maps {sources : List Source.Node}
    (hs : ∀ s ∈ sources, ∀ run run', S run run' →
      (convertNode context s run).Maps g S (convertNode context' s run'))
    (hrun : S run run') :
    (convertNodes context sources run).Maps (List.map g) S
      (convertNodes context' sources run') := by
  induction sources generalizing run run' with
  | nil => exact .ok hrun
  | cons s rest ih =>
    rw [convertNodes_cons, convertNodes_cons]
    refine (hs s List.mem_cons_self _ _ hrun).andThen fun result run run' hrun => ?_
    have hrest := ih (fun s hmem => hs s (List.mem_cons_of_mem _ hmem)) hrun
    exact hrest.andThen fun results run run' hrun => .ok hrun

theorem convertContent_maps {content : Option Source.Node}
    (hs : ∀ s ∈ content, ∀ run run', S run run' →
      (convertNode context s run).Maps g S (convertNode context' s run'))
    (hrun : S run run') :
    (convertContent context content run).Maps (Option.map g) S
      (convertContent context' content run') := by
  cases content with
  | none => exact .ok hrun
  | some s =>
    rw [convertContent_some, convertContent_some]
    exact (hs s rfl _ _ hrun).andThen fun result run run' hrun => .ok hrun

end

/-- Two conversions keep step in contexts that `T` relates and from runs that `S` relates: they
refuse alike, and the second one completes a node to what `g` makes of the result of the first. -/
structure Simulation (T : Context → Context → Prop) (S : Run → Run → Prop) (g : Node → Node) :
    Prop where
  below : ∀ {context context'} node, T context context' →
    T (context.below node) (context'.below node)
  refuse : ∀ {context context' run run'} failure, T context context' → S run run' →
    (run'.refuse context' failure).1 = (run.refuse context failure).1 ∧
      S (run.refuse context failure).2 (run'.refuse context' failure).2
  complete : ∀ {context context' run run'} rule part (source : Source.Node) children content,
    T context context' → S run run' → source.rule? = some rule →
    (Admission.complete ⟨rule, context.below source, part⟩ source children content run).Maps g S
      (Admission.complete ⟨rule, context'.below source, part⟩ source (children.map g)
        (content.map g) run')

namespace Simulation
variable {T : Context → Context → Prop} {S : Run → Run → Prop} {g : Node → Node}
  (h : Simulation T S g)
include h

theorem halt {context context' : Context} {run run' : Run} (hcontext : T context context')
    (hrun : S run run') (failure : Failure) :
    (run.halt context failure).Maps g S (run'.halt context' failure) := by
  obtain ⟨hfailure, hleft⟩ := h.refuse failure hcontext hrun
  exact ⟨congrArg Except.error hfailure, hleft⟩

/-- What single steps keep holds of whole trees. -/
theorem convertNode_maps (source : Source.Node) : ∀ {context context' run run'},
    T context context' → S run run' →
      (convertNode context source run).Maps g S (convertNode context' source run') := by
  induction source with
  | mk form payload children content ihc iht =>
    intro context context' run run' hcontext hrun
    rw [convertNode_eq, convertNode_eq, Admission.of_eq_below, Admission.of_eq_below]
    have hbelow := h.below (.mk form payload children content) hcontext
    -- Whether the node is entered is a matter of the node alone.
    cases hr : Rule.ofNode (.mk form payload children content) with
    | error failure => exact h.halt hcontext hrun failure
    | ok rule =>
      cases hc : Source.Node.templateContent (.mk form payload children content) rule with
      | error failure =>
        simp only [Except.bind, hc, Except.map]
        exact h.halt hcontext hrun failure
      | ok part =>
        simp only [Except.bind, hc, Except.map]
        have hpart : ∀ s ∈ part, s ∈ content := by
          intro s hs
          rcases Source.Node.templateContent_eq hc with rfl | rfl
          · cases hs
          · exact hs
        refine (convertNodes_maps (fun s hs _ _ => ihc s hs hbelow) hrun).andThen
          fun results run₁ run₁' hrun₁ => ?_
        refine (convertContent_maps (fun s hs _ _ => iht s (hpart s hs) hbelow) hrun₁).andThen
          fun converted run₂ run₂' hrun₂ => ?_
        exact h.complete rule part _ results converted hcontext hrun₂
          (Source.Node.ofNode_eq_ok_iff.mp hr)

end Simulation

end MarkupTree
