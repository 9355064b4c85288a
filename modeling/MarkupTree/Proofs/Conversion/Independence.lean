import MarkupTree.Proofs.Conversion.Diagnostics
import MarkupTree.Proofs.Conversion.Located
import MarkupTree.Proofs.Conversion.Space

namespace MarkupTree

def Converts (context : Context) (source : Source.Node) : Prop :=
  ∀ run, ∃ result run', convertNode context source run = (.ok result, run')

def StandsAlone (context : Context) (source : Source.Node) : Prop :=
  context.text = none ∨ ∀ n ∈ source.visited, ¬n.IsRoot

structure Source.Node.Resembles (source' source : Source.Node) : Prop where
  form : source'.form = source.form
  payload : source'.payload = source.payload
  hasContent : source'.content?.isSome = source.content?.isSome

namespace Source.Node.Resembles
variable {source source' : Source.Node}

theorem refl (source : Source.Node) : source.Resembles source := ⟨rfl, rfl, rfl⟩

theorem rule?_eq (h : source'.Resembles source) : source'.rule? = source.rule? := by
  rw [rule?, rule?, kind, kind, h.payload]

theorem isTemplate_eq (h : source'.Resembles source) : source'.isTemplate = source.isTemplate := by
  rw [isTemplate, isTemplate, h.rule?_eq, h.payload]

theorem below_eq (h : source'.Resembles source) (context : Context) :
    context.below source' = context.below source := by
  have hspace : source'.space = source.space := by rw [space, space, h.payload]
  rw [Context.below, Context.below, h.rule?_eq, hspace]

theorem templateContent_eq_ok {rule : Rule} {content : Option Source.Node}
    (h : source'.Resembles source) (hok : source.templateContent rule = .ok content) :
    ∃ content', source'.templateContent rule = .ok content' := by
  have hnames : source'.namesTemplate = source.namesTemplate := by
    rw [namesTemplate, namesTemplate, h.payload]
  unfold templateContent at hok ⊢
  split
  · next c' hc' =>
    obtain ⟨c, hc⟩ : ∃ c, source.content? = some c := by
      rw [← Option.isSome_iff_exists, ← h.hasContent, hc']
      rfl
    rw [hnames]
    simp only [hc] at hok
    cases hn : source.namesTemplate with
    | error failure => simp [hn, Except.map] at hok
    | ok isTemplate => exact ⟨_, rfl⟩
  · exact ⟨none, rfl⟩

theorem admission_eq_ok {context : Context} {a : Admission} (h : source'.Resembles source)
    (ha : Admission.of context source = .ok a) :
    ∃ a', Admission.of context source' = .ok a' ∧ a'.rule = a.rule ∧ a'.context = a.context := by
  obtain ⟨hrule, hcontext, hcontent⟩ := Admission.of_eq_ok_iff.mp ha
  obtain ⟨content', hcontent'⟩ := h.templateContent_eq_ok hcontent
  refine ⟨⟨a.rule, a.context, content'⟩, ?_, rfl, rfl⟩
  rw [← h.rule?_eq] at hrule
  rw [← h.below_eq] at hcontext
  exact Admission.of_eq_ok_iff.mpr ⟨hrule, hcontext, hcontent'⟩

end Source.Node.Resembles

section
variable {context : Context} {source source' : Source.Node} {children : List Node}
  {content : Option Node} {run run₁ : Run} {result : Node}

/-- The rule of a node reads its own fields to decide whether it makes a result, and neither the
run nor what is below the node. -/
theorem Rule.convert_of_resembles {rule : Rule} (hsource : source'.Resembles source)
    (h : rule.convert context source children content run = (.ok result, run₁))
    (children' : List Node) (content' : Option Node) (run' : Run) :
    ∃ result' run₁',
      rule.convert context source' children' content' run' = (.ok result', run₁') := by
  cases rule with
  | root | doctype => exact ⟨_, _, rfl⟩
  | text =>
    obtain ⟨data, hdata, -⟩ := convert_text_eq_ok h
    rw [← hsource.payload] at hdata
    exact ⟨_, _, by rw [convert, hdata]; rfl⟩
  | comment =>
    obtain ⟨data, hdata, -⟩ := convertComment_eq_ok h
    rw [← hsource.payload] at hdata
    simp only [convert, convertComment, hdata, need]
    split
    · exact ⟨_, _, rfl⟩
    · obtain ⟨noted, hnote⟩ := run'.note_ok .rules "CommentHandler: comment reclassified as cdata"
      rw [hnote]
      exact ⟨_, _, rfl⟩
  | element =>
    obtain ⟨attributes, name, spelled, hread, hname, hne, hspell, -⟩ :=
      convertElement_eq_ok_iff.mp (convert_element_eq_ok h)
    rw [← hsource.payload] at hread hname
    obtain ⟨made, hmade⟩ : ∃ made, convertElement context source' children' content' = .ok made :=
      ⟨_, convertElement_eq_ok_iff.mpr ⟨attributes, name, spelled, hread, hname, hne, hspell, rfl⟩⟩
    exact ⟨made, run', by rw [convert, hmade]⟩

/-- Only a root looks at the state of the run, and only where there is a text. -/
theorem Rule.convert_fst_run {rule : Rule} (h : context.text = none ∨ rule ≠ .root)
    (run run' : Run) :
    (rule.convert context source children content run).1 =
      (rule.convert context source children content run').1 := by
  cases rule with
  | root =>
    have htext : context.text = none := h.resolve_right fun hne => hne rfl
    have hspan (run : Run) : ¬(context.text.isSome && run.located) := by simp [htext]
    simp only [convert, convertRoot_of_unlocated (hspan _)]
  | comment =>
    simp only [convert, convertComment]
    split
    · rfl
    · split
      · rfl
      · obtain ⟨noted, hnote⟩ := run.note_ok .rules "CommentHandler: comment reclassified as cdata"
        obtain ⟨noted', hnote'⟩ :=
          run'.note_ok .rules "CommentHandler: comment reclassified as cdata"
        rw [hnote, hnote']
    · rfl
  | text | doctype | element => rfl

theorem Admission.complete_of_resembles {a a' : Admission} (hsource : source'.Resembles source)
    (hrule : a'.rule = a.rule) (hcontext : a'.context = a.context)
    (h : a.complete source children content run = (.ok result, run₁)) (children' : List Node)
    (content' : Option Node) (run' : Run) :
    ∃ result' run₁', a'.complete source' children' content' run' = (.ok result', run₁') := by
  obtain ⟨made, run₂, hmade, -⟩ := complete_steps h
  rw [← hrule, ← hcontext] at hmade
  obtain ⟨made', run₂', hmade'⟩ := Rule.convert_of_resembles hsource hmade children' content' run'
  rw [complete, hmade']
  exact ⟨_, _, rfl⟩

theorem Admission.complete_unique {a : Admission} {run' run₁' : Run} {result' : Node}
    (hfree : a.context.text = none ∨ a.rule ≠ .root)
    (h : a.complete source children content run = (.ok result, run₁))
    (h' : a.complete source children content run' = (.ok result', run₁')) : result = result' := by
  obtain ⟨made, run₂, hmade, hlocate⟩ := complete_steps h
  obtain ⟨made', run₂', hmade', hlocate'⟩ := complete_steps h'
  have hsame : (a.rule.convert a.context source children content run).1 =
      (a.rule.convert a.context source children content run').1 :=
    Rule.convert_fst_run hfree run run'
  rw [hmade, hmade'] at hsame
  obtain rfl := Except.ok.inj hsame
  have hplaced := locate_fst_run a.context source.location made run₂ run₂'
  rwa [hlocate, hlocate'] at hplaced

end

section
variable {context : Context} {source source' : Source.Node} {sources : List Source.Node}
  {run run' run₁ run₁' : Run} {result result' : Node} {results results' : List Node}

theorem convertNodes_of_converts (h : ∀ s ∈ sources, Converts context s) (run : Run) :
    ∃ results run', convertNodes context sources run = (.ok results, run') := by
  induction sources generalizing run with
  | nil => exact ⟨[], run, rfl⟩
  | cons s rest ih =>
    obtain ⟨t, run₁, ht⟩ := h s List.mem_cons_self run
    obtain ⟨ts, run₂, hts⟩ := ih (fun s hs => h s (List.mem_cons_of_mem _ hs)) run₁
    refine ⟨t :: ts, run₂, ?_⟩
    rw [convertNodes_cons, ht, Outcome.andThen_ok, hts, Outcome.andThen_ok]

theorem convertContent_of_converts {content : Option Source.Node}
    (h : ∀ s ∈ content, Converts context s) (run : Run) :
    ∃ converted run', convertContent context content run = (.ok converted, run') := by
  cases content with
  | none => exact ⟨none, run, rfl⟩
  | some s =>
    obtain ⟨t, run₁, ht⟩ := h s rfl run
    refine ⟨some t, run₁, ?_⟩
    rw [convertContent_some, ht, Outcome.andThen_ok]

theorem converts_of_resembles (hsource : source'.Resembles source)
    (h : convertNode context source run = (.ok result, run₁))
    (hchildren : ∀ s ∈ source'.children, Converts context s)
    (hcontent : ∀ s ∈ if source'.isTemplate then source'.content? else none, Converts context s) :
    Converts context source' := by
  intro run'
  obtain ⟨a, _, _, _, _, ha, -, -, hcomplete⟩ := convertNode_eq_ok_iff.mp h
  obtain ⟨a', ha', hrule, hcontext⟩ := hsource.admission_eq_ok ha
  obtain ⟨children, run₂, hmade⟩ := convertNodes_of_converts hchildren run'
  obtain ⟨content, run₃, hattached⟩ := convertContent_of_converts hcontent run₂
  obtain ⟨result', run₄, hresult⟩ :=
    Admission.complete_of_resembles hsource hrule hcontext hcomplete children content run₃
  exact ⟨result', run₄, convertNode_eq_ok_of_parts_iff.mpr
    ⟨a', children, content, run₂, run₃, ha', hmade, hattached, hresult⟩⟩

theorem exists_of_convertNodes (h : convertNodes context sources run = (.ok results, run'))
    {s : Source.Node} (hs : s ∈ sources) :
    ∃ run t run', convertNode context s run = (.ok t, run') := by
  have hall : List.Forall₂ (fun s _ => ∃ run t run', convertNode context s run = (.ok t, run'))
      sources results :=
    convertNodes_forall₂ h fun s _ run t run' ht => ⟨run, t, run', ht⟩
  obtain ⟨i, hi, rfl⟩ := List.getElem_of_mem hs
  exact hall.get hi (hall.length_eq ▸ hi)

theorem exists_of_child (h : convertNode context source run = (.ok result, run'))
    {s : Source.Node} (hs : s ∈ source.children) :
    ∃ run t run', convertNode context s run = (.ok t, run') := by
  obtain ⟨_, _, _, _, _, -, hchildren, -, -⟩ := convertNode_eq_ok_of_parts_iff.mp h
  exact exists_of_convertNodes hchildren hs

theorem exists_of_content (h : convertNode context source run = (.ok result, run'))
    {s : Source.Node} (hs : s ∈ if source.isTemplate then source.content? else none) :
    ∃ run t run', convertNode context s run = (.ok t, run') := by
  obtain ⟨_, _, _, _, _, -, -, hcontent, -⟩ := convertNode_eq_ok_of_parts_iff.mp h
  rw [Option.mem_def] at hs
  rcases convertContent_eq_ok hcontent with ⟨hnone, -, -⟩ | ⟨s', t, hs', -, ht⟩
  · cases hs.symm.trans hnone
  · obtain rfl := Option.some.inj (hs.symm.trans hs')
    exact ⟨_, t, _, ht⟩

/-- One conversion that succeeds shows that every one does. -/
theorem converts_of_eq_ok (source : Source.Node) : ∀ run result run',
    convertNode context source run = (.ok result, run') → Converts context source := by
  induction source with
  | mk form payload children content ihc iht =>
    intro run result run' h
    refine converts_of_resembles (.refl _) h (fun s hs => ?_) (fun s hs => ?_)
    · obtain ⟨run₁, t, run₂, ht⟩ := exists_of_child h hs
      exact ihc s hs run₁ t run₂ ht
    · obtain ⟨run₁, t, run₂, ht⟩ := exists_of_content h hs
      split at hs
      · exact iht s hs run₁ t run₂ ht
      · cases hs

theorem Converts.child (h : Converts context source) {s : Source.Node} (hs : s ∈ source.children) :
    Converts context s := by
  obtain ⟨result, run', hresult⟩ := h default
  obtain ⟨run₁, t, run₂, ht⟩ := exists_of_child hresult hs
  exact converts_of_eq_ok s run₁ t run₂ ht

theorem Converts.content (h : Converts context source) {s : Source.Node}
    (hs : s ∈ if source.isTemplate then source.content? else none) : Converts context s := by
  obtain ⟨result, run', hresult⟩ := h default
  obtain ⟨run₁, t, run₂, ht⟩ := exists_of_content hresult hs
  exact converts_of_eq_ok s run₁ t run₂ ht

theorem StandsAlone.child (h : StandsAlone context source) {s : Source.Node}
    (hs : s ∈ source.children) : StandsAlone context s := by
  refine h.imp_right fun hroots n hn => hroots n ?_
  rw [Source.Node.visited_eq_cons]
  exact List.mem_cons_of_mem _ (Source.Node.mem_visitedBelow_of_child hs hn)

theorem StandsAlone.content (h : StandsAlone context source) {s : Source.Node}
    (ht : source.isTemplate) (hs : source.content? = some s) : StandsAlone context s := by
  refine h.imp_right fun hroots n hn => hroots n ?_
  rw [Source.Node.visited_eq_cons]
  exact List.mem_cons_of_mem _ (Source.Node.mem_visitedBelow_of_content ht hs hn)

/-- All conversions of the node that succeed have the same result. -/
def Steady (context : Context) (source : Source.Node) : Prop :=
  ∀ ⦃run run' result result' run₁ run₁'⦄, convertNode context source run = (.ok result, run₁) →
    convertNode context source run' = (.ok result', run₁') → result = result'

theorem convertNodes_unique (hs : ∀ s ∈ sources, Steady context s)
    (h : convertNodes context sources run = (.ok results, run₁))
    (h' : convertNodes context sources run' = (.ok results', run₁')) : results = results' := by
  induction sources generalizing run run' results results' with
  | nil =>
    cases h
    cases h'
    rfl
  | cons s rest ih =>
    simp only [convertNodes_cons, Outcome.andThen_eq_ok_iff] at h h'
    obtain ⟨t, run₂, ht, ts, run₃, hts, hr⟩ := h
    obtain ⟨t', run₂', ht', ts', run₃', hts', hr'⟩ := h'
    cases hr
    cases hr'
    rw [hs s List.mem_cons_self ht ht',
      ih (fun s hmem => hs s (List.mem_cons_of_mem _ hmem)) hts hts']

theorem convertContent_unique {content : Option Source.Node} {converted converted' : Option Node}
    (hs : ∀ s ∈ content, Steady context s)
    (h : convertContent context content run = (.ok converted, run₁))
    (h' : convertContent context content run' = (.ok converted', run₁')) :
    converted = converted' := by
  rcases convertContent_eq_ok h with ⟨rfl, rfl, -⟩ | ⟨s, t, rfl, rfl, ht⟩
  · cases h'
    rfl
  · rcases convertContent_eq_ok h' with ⟨hnone, -, -⟩ | ⟨s', t', hs', rfl, ht'⟩
    · cases hnone
    · cases hs'
      rw [hs s rfl ht ht']

/-- A node that stands alone does not notice what was converted before it. -/
theorem StandsAlone.steady (source : Source.Node) :
    StandsAlone context source → Steady context source := by
  induction source with
  | mk form payload children content ihc iht =>
    intro halone run run' result result' run₁ run₁' h h'
    obtain ⟨a, ts, c, _, _, ha, hchildren, hcontent, hcomplete⟩ :=
      convertNode_eq_ok_of_parts_iff.mp h
    obtain ⟨a', ts', c', _, _, ha', hchildren', hcontent', hcomplete'⟩ :=
      convertNode_eq_ok_of_parts_iff.mp h'
    obtain rfl := Except.ok.inj (ha.symm.trans ha')
    obtain rfl := convertNodes_unique (fun s hs => ihc s hs (halone.child hs)) hchildren hchildren'
    have hsteady : ∀ s ∈ if (Source.Node.mk form payload children content).isTemplate then
        (Source.Node.mk form payload children content).content? else none, Steady context s := by
      intro s hs
      split at hs
      · next htemplate => exact iht s hs (halone.content htemplate hs)
      · cases hs
    obtain rfl := convertContent_unique hsteady hcontent hcontent'
    obtain ⟨hrule, hcontext, -⟩ := Admission.of_eq_ok ha
    refine Admission.complete_unique ?_ hcomplete hcomplete'
    rw [hcontext, Context.text_below]
    refine halone.imp_right fun hroots hroot => ?_
    rw [hroot, Source.Node.rule?_eq_root_iff] at hrule
    exact hroots _ (Source.Node.mem_visited_self _) hrule

end

end MarkupTree
