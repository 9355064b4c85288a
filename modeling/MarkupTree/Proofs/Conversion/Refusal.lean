import MarkupTree.Proofs.Construction.Attributes
import MarkupTree.Proofs.Conversion.Diagnostics
import MarkupTree.Proofs.Conversion.Survival

namespace MarkupTree

/-- The kind of a node can be looked up, and the fields that its rule and its summary read have the
types that these expect. -/
structure Source.Node.WellFormed (node : Source.Node) : Prop where
  kind : node.kind.isKey
  data : node.rule? = some .text ∨ node.rule? = some .comment ∨ node.form = .text ∨
    node.form = .comment → ∃ data, node.payload.data = some (.string data)
  tagName : node.rule? = some .element →
    ∃ name, name ≠ "" ∧ node.payload.tagName = some (.string name)
  attributes : node.rule? = some .element → ∀ a ∈ node.payload.attributes, a.WellFormed

namespace Source.Node.WellFormed
variable {source : Source.Node}

theorem summary_eq_ok (h : source.WellFormed) : ∃ s, source.summary = .ok s := by
  have hexcerpt (hform : source.form = .text ∨ source.form = .comment) :
      ∃ s, ((Value.ofOption source.payload.data).excerpt?.map Value.literal) = some s := by
    obtain ⟨data, hdata⟩ := h.data (.inr (.inr hform))
    exact ⟨_, by rw [hdata]; rfl⟩
  have hsummary : ∃ s, source.summary? = some s := by
    cases hform : source.form with
    | text =>
      obtain ⟨s, hs⟩ := hexcerpt (.inl hform)
      exact ⟨s!"Text({s})", by simp only [summary?, hform, hs, Option.map_some]⟩
    | comment =>
      obtain ⟨s, hs⟩ := hexcerpt (.inr hform)
      exact ⟨s!"Comment({s})", by simp only [summary?, hform, hs, Option.map_some]⟩
    | _ => exact ⟨_, by simp only [summary?, hform]; rfl⟩
  obtain ⟨s, hs⟩ := hsummary
  exact ⟨s, by rw [summary, hs]⟩

theorem admission_eq_ok (h : source.WellFormed) (hsupported : source.isSupported)
    (context : Context) : ∃ admission, Admission.of context source = .ok admission := by
  obtain ⟨rule, hrule⟩ := Option.isSome_iff_exists.mp hsupported
  rw [Admission.of_eq, ofNode_of_rule? hrule]
  have hcontent : ∃ content, source.templateContent rule = .ok content := by
    unfold templateContent
    split
    · obtain ⟨name, -, hname⟩ := h.tagName hrule
      exact ⟨_, by rw [namesTemplate_string hname]; rfl⟩
    · exact ⟨none, rfl⟩
  obtain ⟨content, hcontent⟩ := hcontent
  exact ⟨_, by simp only [Except.bind, hcontent]; rfl⟩

theorem admission_eq_error (h : source.WellFormed) (hunsupported : source.isSupported = false)
    (context : Context) :
    Admission.of context source = .error (.unsupportedKind source) := by
  have hrule : Rule.ofKind? source.kind = none := by
    simpa [isSupported, rule?] using hunsupported
  rw [Admission.of_eq, Rule.ofNode, if_pos h.kind, hrule]
  rfl

end Source.Node.WellFormed

theorem Rule.convert_eq_ok {rule : Rule} {source : Source.Node} (h : source.WellFormed)
    (hrule : source.rule? = some rule) (context : Context) (children : List Node)
    (content : Option Node) (run : Run) :
    ∃ result, (rule.convert context source children content run).1 = .ok result := by
  cases rule with
  | root => exact ⟨_, rfl⟩
  | text =>
    obtain ⟨data, hdata⟩ := h.data (.inl hrule)
    exact ⟨_, by simp only [convert, hdata, need]; rfl⟩
  | comment =>
    obtain ⟨data, hdata⟩ := h.data (.inr (.inl hrule))
    simp only [convert, convertComment, hdata, need]
    split
    · exact ⟨_, rfl⟩
    · split
      · next hnote => cases Run.note_eq_error hnote
      · exact ⟨_, rfl⟩
  | doctype => exact ⟨_, rfl⟩
  | element =>
    obtain ⟨name, hne, hname⟩ := h.tagName hrule
    exact ⟨_, convertElement_eq_ok_iff.mpr ⟨_, name, _, readAttributes_eq (h.attributes hrule),
      hname, hne, Node.spellAttributes_eq context.space _, rfl⟩⟩

theorem Admission.complete_ok {admission : Admission} {source : Source.Node}
    (h : source.WellFormed) (hrule : source.rule? = some admission.rule) (children : List Node)
    (content : Option Node) (run : Run) :
    ∃ result, (admission.complete source children content run).1 = .ok result := by
  obtain ⟨result, hresult⟩ := Rule.convert_eq_ok h hrule admission.context children content run
  unfold complete
  split
  · next failure run' hfailure => simp [hfailure] at hresult
  · exact ⟨_, rfl⟩

/-- The outcome of a conversion that enters these nodes one after the other: it succeeds if all of
their kinds are supported, and is refused at the first whose kind is not. -/
def Outcome.RefusesFirst {α : Type} (nodes : List Source.Node) (o : Outcome α) : Prop :=
  match nodes.find? fun n => !n.isSupported with
  | none => ∃ a, o.1 = .ok a
  | some bad => o.1 = .error (.unsupportedKind bad)

namespace Outcome.RefusesFirst
variable {α β : Type} {xs ys : List Source.Node}

theorem of_ok (a : α) (run : Run) : RefusesFirst [] (.ok a, run) := ⟨a, rfl⟩

theorem andThen {o : Outcome α} {f : α → Run → Outcome β} (h : o.RefusesFirst xs)
    (hf : ∀ a run, o = (.ok a, run) → (f a run).RefusesFirst ys) :
    (o.andThen f).RefusesFirst (xs ++ ys) := by
  obtain ⟨x, run⟩ := o
  unfold RefusesFirst at h ⊢
  rw [List.find?_append]
  cases hx : xs.find? fun n => !n.isSupported with
  | none =>
    simp only [hx] at h
    obtain ⟨a, rfl⟩ := h
    exact hf a run rfl
  | some bad =>
    simp only [hx] at h
    subst h
    rfl

theorem cons {o : Outcome α} {source : Source.Node} (hsupported : source.isSupported)
    (h : o.RefusesFirst xs) : o.RefusesFirst (source :: xs) := by
  unfold RefusesFirst
  rw [List.find?_cons_of_neg (by simp [hsupported])]
  exact h

end Outcome.RefusesFirst

section
variable {context : Context}

theorem convertNodes_refusesFirst {sources : List Source.Node} (run : Run)
    (h : ∀ s ∈ sources, ∀ run, (convertNode context s run).RefusesFirst s.visited) :
    (convertNodes context sources run).RefusesFirst (sources.flatMap Source.Node.visited) := by
  induction sources generalizing run with
  | nil => exact .of_ok [] run
  | cons s rest ih =>
    rw [convertNodes_cons, List.flatMap_cons]
    refine (h s List.mem_cons_self run).andThen fun result run₁ _ => ?_
    rw [← List.append_nil (rest.flatMap _)]
    exact (ih run₁ fun s hs => h s (List.mem_cons_of_mem _ hs)).andThen
      fun results run₂ _ => .of_ok (result :: results) run₂

theorem convertContent_refusesFirst {content : Option Source.Node} (run : Run)
    (h : ∀ s ∈ content, ∀ run, (convertNode context s run).RefusesFirst s.visited) :
    (convertContent context content run).RefusesFirst
      (content.toList.flatMap Source.Node.visited) := by
  cases content with
  | none => exact .of_ok none run
  | some s =>
    rw [convertContent_some, Option.toList_some, List.flatMap_cons, List.flatMap_nil]
    exact (h s rfl run).andThen fun result run' _ => .of_ok (some result) run'

end

theorem convertNode_of_unsupported {source : Source.Node} (h : source.WellFormed)
    (hunsupported : source.isSupported = false) (context : Context) (run : Run) :
    (convertNode context source run).1 = .error (.unsupportedKind source) := by
  obtain ⟨s, hs⟩ := h.summary_eq_ok
  rw [convertNode_of_error (h.admission_eq_error hunsupported context)]
  simp only [Run.halt, Run.refuse, hs]
  split
  · next hnote => cases Run.note_eq_error hnote
  · rfl

/-- Among well-formed nodes, the first in preorder whose kind is unsupported is the one that is
refused, whatever is complete by then. -/
theorem convertNode_refusesFirst (source : Source.Node) :
    (∀ n ∈ source.visited, n.WellFormed) → ∀ context run,
      (convertNode context source run).RefusesFirst source.visited := by
  induction source with
  | mk form payload children content ihc iht =>
    intro h context run
    have hsource := h _ (Source.Node.mem_visited_self _)
    cases hsupported : (Source.Node.mk form payload children content).isSupported with
    | false =>
      -- Nothing below an unsupported node is entered, and it comes before all that.
      rw [Outcome.RefusesFirst, Source.Node.visited_eq, List.find?_cons_of_pos (by simp [hsupported])]
      exact convertNode_of_unsupported hsource hsupported context run
    | true =>
      obtain ⟨admission, ha⟩ := hsource.admission_eq_ok hsupported context
      obtain ⟨hrule, -, -⟩ := Admission.of_eq_ok ha
      rw [convertNode_eq, ha]
      rw [Admission.visited_eq ha] at h ⊢
      have hpart {s : Source.Node} (hs : s ∈ children ++ admission.content.toList) :
          ∀ n ∈ s.visited, n.WellFormed := fun n hn =>
        h n (List.mem_cons_of_mem _ (List.mem_flatMap.mpr ⟨s, hs, hn⟩))
      rw [List.flatMap_append, ← List.append_nil (List.flatMap _ admission.content.toList)]
      refine .cons hsupported ((convertNodes_refusesFirst run fun s hs run => ?_).andThen
        fun results run₁ _ => (convertContent_refusesFirst run₁ fun s hs run => ?_).andThen
          fun converted run₂ _ => Admission.complete_ok hsource hrule results converted run₂)
      · exact ihc s hs (hpart (List.mem_append_left _ hs)) _ run
      · exact iht s (Admission.mem_content ha hs)
          (hpart (List.mem_append_right _ (Option.mem_toList.mpr hs))) _ run

theorem StandsFor.summary_eq_ok {source : Source.Node} {result : Node}
    (h : StandsFor source result) (hsource : source.WellFormed) :
    ∃ s, result.summary = .ok s := by
  cases h with
  | text hrule hdata =>
    obtain ⟨data, hstring⟩ := hsource.data (.inl hrule)
    obtain rfl := Option.some.inj (hdata.symm.trans hstring)
    exact ⟨_, rfl⟩
  | _ => exact ⟨_, rfl⟩

theorem Run.record_refusesFirst (run : Run) (channel : Channel) (message : String) :
    (run.record channel (.ok message)).RefusesFirst [] := by
  unfold record
  split
  · next hnote => cases note_eq_error hnote
  · exact .of_ok () _

theorem Run.convert_refusesFirst (run : Run) (options : Options File) {tree : Source.Node}
    (h : ∀ n ∈ tree.visited, n.WellFormed) :
    (run.convert options tree).RefusesFirst tree.visited := by
  have htree := h tree tree.mem_visited_self
  obtain ⟨s, hs⟩ := htree.summary_eq_ok
  rw [convert_eq_convertNode]
  simp only [announce, hs]
  rw [← List.nil_append tree.visited, ← List.append_nil tree.visited]
  refine (record_refusesFirst _ _ _).andThen fun _ run₁ _ =>
    (convertNode_refusesFirst tree h _ run₁).andThen fun node run₂ hnode => ?_
  obtain ⟨t, ht⟩ := (standsFor_of_convertNode hnode).summary_eq_ok htree
  rw [conclude, ht]
  exact (record_refusesFirst _ _ _).andThen fun _ run₃ _ => .of_ok node run₃

def supportedKinds : List Value :=
  ["document", "fragment", "element", "text", "comment", "doctype"].map Value.string

theorem Source.Node.isSupported_iff (node : Source.Node) :
    node.isSupported ↔ node.kind ∈ supportedKinds := by
  unfold isSupported rule? Rule.ofKind? supportedKinds
  split <;> simp_all

theorem Outcome.RefusesFirst.eq_ok_iff {α : Type} {o : Outcome α} {nodes : List Source.Node}
    (h : o.RefusesFirst nodes) : (∃ a, o.1 = .ok a) ↔ ∀ n ∈ nodes, n.kind ∈ supportedKinds := by
  unfold RefusesFirst at h
  split at h
  · next hnone =>
    rw [List.find?_eq_none] at hnone
    refine ⟨fun _ n hn => ?_, fun _ => h⟩
    simpa [Source.Node.isSupported_iff] using hnone n hn
  · next bad hbad =>
    have hunsupported := List.find?_some hbad
    constructor
    · rintro ⟨a, ha⟩
      cases h.symm.trans ha
    · intro hall
      have := hall bad (List.mem_of_find?_eq_some hbad)
      simp [(Source.Node.isSupported_iff bad).mpr this] at hunsupported

theorem Outcome.RefusesFirst.exists_first {α : Type} {o : Outcome α} {nodes : List Source.Node}
    (h : o.RefusesFirst nodes) (hunsupported : ¬∀ n ∈ nodes, n.kind ∈ supportedKinds) :
    ∃ before bad after, nodes = before ++ bad :: after ∧
      (∀ n ∈ before, n.kind ∈ supportedKinds) ∧ bad.kind ∉ supportedKinds ∧
      o.1 = .error (.unsupportedKind bad) := by
  have hnone := mt h.eq_ok_iff.mp hunsupported
  unfold RefusesFirst at h
  split at h
  · exact absurd h hnone
  · next bad hbad =>
    obtain ⟨hb, before, after, hsplit, hbefore⟩ := List.find?_eq_some_iff_append.mp hbad
    refine ⟨before, bad, after, hsplit, fun n hn => ?_, ?_, h⟩
    · simpa [Source.Node.isSupported_iff] using hbefore n hn
    · simpa [← Source.Node.isSupported_iff] using hb

theorem Run.line_unsupported (source : Source.Node) :
    (unsupported source).line = .ofInt? (source.location.bind fun l => l.start.line) := by
  unfold unsupported
  dsimp only
  rw [Option.bind_map]
  rfl

theorem Run.column_unsupported (source : Source.Node) :
    (unsupported source).column = .ofInt? (source.location.bind fun l => l.start.column) := by
  unfold unsupported
  dsimp only
  rw [Option.bind_map]
  rfl

/-- A conversion of well-formed nodes succeeds if all of their kinds are supported, and is refused
at the first in preorder whose kind is not. Only a refused node is remarked on, once, as fatal and
with the place where it starts. -/
theorem convert_refuses_first_unsupported (run : Run) (options : Options File)
    (tree : Source.Node) :
    ((∀ n ∈ tree.visited, n.WellFormed) →
      ((∃ node, (run.convert options tree).1 = .ok node) ↔
        ∀ n ∈ tree.visited, n.kind ∈ supportedKinds) ∧
      ((¬∀ n ∈ tree.visited, n.kind ∈ supportedKinds) →
        ∃ before bad after, tree.visited = before ++ bad :: after ∧
          (∀ n ∈ before, n.kind ∈ supportedKinds) ∧ bad.kind ∉ supportedKinds ∧
          (run.convert options tree).1 = .error (.unsupportedKind bad))) ∧
    (∀ bad, (run.convert options tree).1 = .error (.unsupportedKind bad) → options.file.isSome →
      ∃ d, (run.convert options tree).2.messages = run.messages ++ [d] ∧ d.fatal ∧
        d.rule = .string "unsupported-node-kind" ∧
        d.line = .ofInt? (bad.location.bind fun l => l.start.line) ∧
        d.column = .ofInt? (bad.location.bind fun l => l.start.column)) ∧
    ((∀ bad, (run.convert options tree).1 ≠ .error (.unsupportedKind bad)) ∨ options.file = none →
      (run.convert options tree).2.messages = run.messages) := by
  have hreports := run.convert_reports options tree
  unfold Outcome.Reports at hreports
  refine ⟨fun h => ?_, fun bad hbad hfile => ?_, fun hother => ?_⟩
  · have hrefuses := run.convert_refusesFirst options h
    exact ⟨hrefuses.eq_ok_iff, hrefuses.exists_first⟩
  · simp only [hbad, hfile, if_true] at hreports
    exact ⟨_, hreports, rfl, rfl, Run.line_unsupported bad, Run.column_unsupported bad⟩
  · split at hreports
    · next bad hbad =>
      rcases hother with hother | hfile
      · exact absurd hbad (hother bad)
      · simpa [hfile] using hreports
    · exact hreports

def misfit : Source.Node :=
  .bare "element" none "TEMPLATE" [.bare "comment" "a" none [] none]
    (some (.bare "text" "b" none [.bare "directive" none none [] none] none))

theorem visited_misfit : misfit.visited =
    [misfit, .bare "comment" "a" none [] none,
      .bare "text" "b" none [.bare "directive" none none [] none] none,
      .bare "directive" none none [] none] := by
  rfl

theorem misfit_wellFormed : ∀ n ∈ misfit.visited, n.WellFormed := by
  rw [visited_misfit]
  intro n hn
  simp only [List.mem_cons, List.not_mem_nil, or_false] at hn
  obtain rfl | rfl | rfl | rfl := hn
  · refine ⟨rfl, fun h => ?_, fun _ => ⟨"TEMPLATE", by decide, rfl⟩, fun _ a ha => ?_⟩
    · rcases h with h | h | h | h <;> cases h
    · cases ha
  · exact ⟨rfl, fun _ => ⟨"a", rfl⟩, nofun, nofun⟩
  · exact ⟨rfl, fun _ => ⟨"b", rfl⟩, nofun, nofun⟩
  · refine ⟨rfl, fun h => ?_, nofun, nofun⟩
    rcases h with h | h | h | h <;> cases h

theorem misfit_unsupported : ¬∀ n ∈ misfit.visited, n.kind ∈ supportedKinds := by
  intro h
  have hkind := h (.bare "directive" none none [] none) (by simp [visited_misfit])
  simp [supportedKinds, Source.Node.bare, Source.Node.kind, Source.Node.payload] at hkind

def emptyFile : Options File := ⟨.string "html", some (.ofText none none), .bool false⟩

theorem convert_refuses_first_unsupported_misfit :
    (∀ n ∈ misfit.visited, n.WellFormed) ∧
      (¬∀ n ∈ misfit.visited, n.kind ∈ supportedKinds) ∧
      ∃ before bad after d, misfit.visited = before ++ bad :: after ∧
        (∀ n ∈ before, n.kind ∈ supportedKinds) ∧ bad.kind ∉ supportedKinds ∧
        ((Run.fresh emptyFile false).convert emptyFile misfit).1 =
          .error (.unsupportedKind bad) ∧
        ((Run.fresh emptyFile false).convert emptyFile misfit).2.messages = [d] ∧ d.fatal := by
  have hmisfit := convert_refuses_first_unsupported (Run.fresh emptyFile false) emptyFile misfit
  obtain ⟨before, bad, after, hsplit, hbefore, hbad, herror⟩ :=
    (hmisfit.1 misfit_wellFormed).2 misfit_unsupported
  obtain ⟨d, hmessages, hfatal, -⟩ := hmisfit.2.1 bad herror rfl
  exact ⟨misfit_wellFormed, misfit_unsupported, before, bad, after, d, hsplit, hbefore, hbad, herror,
    hmessages, hfatal⟩

end MarkupTree
