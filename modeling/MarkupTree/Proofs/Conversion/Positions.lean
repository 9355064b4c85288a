import MarkupTree.Proofs.Conversion.Induction
import MarkupTree.Proofs.Conversion.Survival

namespace MarkupTree

def Source.Location.spans (l : Source.Location) : List Span :=
  l.toSpan :: (l.startTag.toList ++ l.endTag.toList ++ l.attributes.filterMap Prod.snd)

def Source.Location.EndsSatisfy (Good : Point → Prop) (l : Source.Location) : Prop :=
  ∀ s ∈ l.spans, ∀ q ∈ s.ends, q.Known → Good q

namespace Source.Location
variable {Good : Point → Prop} {l : Source.Location} {s : Span}

theorem toSpan_mem_spans (l : Source.Location) : l.toSpan ∈ l.spans := List.mem_cons_self

theorem startTag_mem_spans (h : l.startTag = some s) : s ∈ l.spans := by
  simp [spans, h]

theorem endTag_mem_spans (h : l.endTag = some s) : s ∈ l.spans := by
  simp [spans, h]

theorem attribute_mem_spans {name : String} (h : (name, some s) ∈ l.attributes) : s ∈ l.spans := by
  simp only [spans, List.mem_cons, List.mem_append, List.mem_filterMap]
  exact .inr (.inr ⟨_, h, rfl⟩)

end Source.Location

namespace Node

/-- All positions that a node carries itself: its own, and those of its tags and properties. -/
def places (node : Node) : List Position :=
  node.position.toList ++ (node.tag?.bind Tag.positions).toList.flatMap TagPositions.all

def AllPlaces (P : Position → Prop) (node : Node) : Prop :=
  ∀ n ∈ node.preorder, ∀ p ∈ n.places, P p

variable {P : Position → Prop}

theorem allPlaces_iff (node : Node) :
    node.AllPlaces P ↔ (∀ p ∈ node.places, P p) ∧ ∀ part ∈ node.parts, part.AllPlaces P := by
  unfold AllPlaces
  rw [preorder_eq, List.forall_mem_cons]
  simp only [List.forall_mem_flatMap]

theorem allPlaces_of_places_nil {node : Node} (h : node.places = [])
    (hparts : ∀ part ∈ node.parts, part.AllPlaces P) : node.AllPlaces P := by
  refine node.allPlaces_iff.mpr ⟨?_, hparts⟩
  simp [h]

namespace AllPlaces
variable {node : Node}

theorem position (h : node.AllPlaces P) {p : Position} (hp : node.position = some p) : P p := by
  refine (node.allPlaces_iff.mp h).1 p (List.mem_append_left _ ?_)
  exact Option.mem_toList.mpr hp

theorem atPlaces (h : node.AllPlaces P) {p : Option Position} {positions : Option TagPositions}
    (hp : ∀ q ∈ p, P q) (hpositions : ∀ t ∈ positions, ∀ q ∈ t.all, P q) :
    (node.atPlaces p positions).AllPlaces P := by
  rw [allPlaces_iff, parts_atPlaces]
  refine ⟨fun q hq => ?_, (node.allPlaces_iff.mp h).2⟩
  rcases List.mem_append.mp hq with hq | hq
  · refine hp q ?_
    cases node <;> exact Option.mem_toList.mp hq
  · obtain ⟨t, ht, hall⟩ := List.mem_flatMap.mp hq
    refine hpositions t ?_ q hall
    cases node with
    | element _ _ _ _ => exact Option.mem_toList.mp ht
    | _ => cases ht

theorem withPosition (h : node.AllPlaces P) {p : Option Position} (hp : ∀ q ∈ p, P q) :
    (node.withPosition p).AllPlaces P := by
  rw [withPosition_eq]
  refine h.atPlaces hp fun t ht q hq => ?_
  refine (node.allPlaces_iff.mp h).1 q (List.mem_append_right _ ?_)
  exact List.mem_flatMap.mpr ⟨t, Option.mem_toList.mpr ht, hq⟩

end AllPlaces

end Node

section
variable {Good : Point → Prop} {location : Option Source.Location}

theorem tagPositions_endsSatisfy (hl : ∀ l ∈ location, l.EndsSatisfy Good) (space : Space) :
    ∀ p ∈ (tagPositions space location).all, p.EndsSatisfy Good := by
  intro p hp
  rw [TagPositions.all, List.mem_append, List.mem_append] at hp
  rcases hp with (hopening | hclosing) | hproperty
  · obtain ⟨s, hs, hsp⟩ := Option.bind_eq_some_iff.mp (Option.mem_toList.mp hopening)
    obtain ⟨l, hloc, htag⟩ := Option.bind_eq_some_iff.mp hs
    exact Span.endsSatisfy_of_position? (hl l hloc s (l.startTag_mem_spans htag)) hsp
  · obtain ⟨s, hs, hsp⟩ := Option.bind_eq_some_iff.mp (Option.mem_toList.mp hclosing)
    obtain ⟨l, hloc, htag⟩ := Option.bind_eq_some_iff.mp hs
    exact Span.endsSatisfy_of_position? (hl l hloc s (l.endTag_mem_spans htag)) hsp
  · obtain ⟨entry, hentry, hvalue⟩ := List.mem_filterMap.mp hproperty
    obtain ⟨pair, hpair, hsame⟩ := Entries.exists_of_mem_ofList hentry
    obtain ⟨⟨name, s?⟩, ha, rfl⟩ := List.mem_map.mp hpair
    obtain ⟨s, rfl, hsp⟩ := Option.bind_eq_some_iff.mp (hsame.trans hvalue)
    cases location with
    | none => cases ha
    | some l => exact Span.endsSatisfy_of_position? (hl l rfl s (l.attribute_mem_spans ha)) hsp

theorem contentPosition?_endsSatisfy (hl : ∀ l ∈ location, l.EndsSatisfy Good) {p : Position}
    (h : contentPosition? location = some p) : p.EndsSatisfy Good := by
  unfold contentPosition? at h
  split at h
  · next opening closing hopening hclosing =>
    split at h
    · next hinner =>
      cases h
      obtain ⟨l, hloc, hstart⟩ := Option.bind_eq_some_iff.mp hopening
      obtain ⟨s, hs, hsp⟩ := Option.bind_eq_some_iff.mp hstart
      obtain ⟨l', hloc', hend⟩ := Option.bind_eq_some_iff.mp hclosing
      obtain ⟨s', hs', hsp'⟩ := Option.bind_eq_some_iff.mp hend
      have hfirst := Span.endsSatisfy_of_position? (hl l hloc s (l.startTag_mem_spans hs)) hsp
      have hlast := Span.endsSatisfy_of_position? (hl l' hloc' s' (l'.endTag_mem_spans hs')) hsp'
      exact ⟨by simpa using hinner, hfirst.finish, hlast.start⟩
    · cases h
  · cases h

/-- The end that replaces another one is that of a child. -/
theorem repairEnd_endsSatisfy {endTag : Option Span} {children : List Node} {p : Position}
    (hp : p.EndsSatisfy Good) (hchildren : ∀ t ∈ children, t.AllPlaces (·.EndsSatisfy Good)) :
    (repairEnd endTag children p).EndsSatisfy Good := by
  unfold repairEnd
  split
  · next finish hlast =>
    obtain ⟨last, hmem, hlast⟩ := Option.bind_eq_some_iff.mp hlast
    obtain ⟨q, hq, hfinish⟩ := Option.bind_eq_some_iff.mp hlast
    have hend := (hchildren last (List.mem_of_getLast? hmem)).position hq
    exact ⟨.inr rfl, hp.start, fun r hr => by cases hr; exact hend.finish _ hfinish⟩
  · exact hp

theorem Node.place_allPlaces {node : Node} (h : node.AllPlaces (·.EndsSatisfy Good))
    (hl : ∀ l ∈ location, l.EndsSatisfy Good) (space : Space) (verbose : Bool) :
    (∀ p ∈ (node.place space verbose location).1, p.EndsSatisfy Good) ∧
      (node.place space verbose location).2.AllPlaces (·.EndsSatisfy Good) := by
  have hspan : ∀ p ∈ location.bind fun l => l.toSpan.position?, p.EndsSatisfy Good := by
    intro p hp
    obtain ⟨l, hloc, hsp⟩ := Option.bind_eq_some_iff.mp hp
    exact Span.endsSatisfy_of_position? (hl l hloc _ l.toSpan_mem_spans) hsp
  cases node with
  | element p tag children content =>
    have hparts := (Node.allPlaces_iff _).mp h
    refine ⟨fun q hq => ?_, ?_⟩
    · obtain ⟨r, hr, rfl⟩ := Option.map_eq_some_iff.mp hq
      exact repairEnd_endsSatisfy (hspan r hr) fun t ht => hparts.2 t (List.mem_append_left _ ht)
    · cases verbose
      · exact h
      · have hmoved : ((Node.element p tag children content).atPlaces p
            (some (tagPositions space location))).AllPlaces (·.EndsSatisfy Good) := by
          apply h.atPlaces
          · rintro q ⟨⟩
            exact h.position rfl
          · rintro t ⟨⟩
            exact tagPositions_endsSatisfy hl space
        exact hmoved
  | _ => exact ⟨hspan, h⟩

theorem locate_allPlaces {node : Node} (h : node.AllPlaces (·.EndsSatisfy Good))
    (hl : ∀ l ∈ location, l.EndsSatisfy Good) (context : Context) (run : Run) :
    (locate context location node run).1.AllPlaces (·.EndsSatisfy Good) := by
  obtain ⟨hposition, hnode⟩ := Node.place_allPlaces h hl context.space context.verbose.truthy
  by_cases hfile : location.isSome && context.text.isSome
  · rw [locate_of_file _ _ _ _ hfile]
    apply hnode.withPosition
    intro q hq
    rcases Option.or_eq_some_iff.mp hq with hq | ⟨-, hq⟩
    · exact hposition q hq
    · exact hnode.position hq
  · rw [locate_of_no_file _ _ _ _ hfile]
    exact h

end

namespace Rule
variable {Good : Point → Prop} {context : Context} {source : Source.Node} {children : List Node}
  {content : Option Node} {run run' : Run} {result : Node}

/-- A new element has no places of its own, and its content is at most moved between its tags. -/
theorem convertElement_allPlaces (hl : ∀ l ∈ source.location, l.EndsSatisfy Good)
    (hrule : source.rule? = some .element)
    (hchildren : ∀ t ∈ children, t.AllPlaces (·.EndsSatisfy Good))
    (hcontent : ∀ t ∈ content, t.AllPlaces (·.EndsSatisfy Good))
    (h : convertElement context source children content = .ok result) :
    result.AllPlaces (·.EndsSatisfy Good) := by
  obtain ⟨_, _, _, -, -, -, htag⟩ := convertElement_tag h
  obtain ⟨tag, hshape⟩ := convertElement_shape hrule h
  have hplaces : result.places = [] := by
    rw [Node.places, htag]
    rcases hshape with ⟨-, rfl⟩ | ⟨-, -, rfl⟩ | ⟨-, c, -, rfl⟩ <;> rfl
  refine Node.allPlaces_of_places_nil hplaces ?_
  rcases hshape with ⟨-, rfl⟩ | ⟨-, -, rfl⟩ | ⟨-, c, hc, rfl⟩
  · simpa using hchildren
  · have hroot : (Node.root none false children).AllPlaces (·.EndsSatisfy Good) := by
      rw [Node.allPlaces_iff, Node.parts_root]
      exact ⟨by simp [Node.places, Node.position, Node.tag?], hchildren⟩
    simpa using hroot
  · have hmoved := (hcontent c hc).withPosition (p := (if context.text.isSome then
      contentPosition? source.location else none).or c.position) fun q hq => ?_
    · simpa using hmoved
    · rcases Option.or_eq_some_iff.mp hq with hq | ⟨-, hq⟩
      · split at hq
        · exact contentPosition?_endsSatisfy hl hq
        · cases hq
      · exact (hcontent c hc).position hq

theorem convertRoot_allPlaces (hwhole : (run.lineIndex context.text).1.whole.EndsSatisfy Good)
    (hchildren : ∀ t ∈ children, t.AllPlaces (·.EndsSatisfy Good)) :
    (convertRoot context source children run).1.AllPlaces (·.EndsSatisfy Good) := by
  by_cases hspan : context.text.isSome && run.located
  · rw [convertRoot_of_located hspan, Node.allPlaces_iff, Node.parts_root]
    refine ⟨?_, hchildren⟩
    simpa [Node.places, Node.position, Node.tag?] using hwhole
  · rw [convertRoot_of_unlocated hspan]
    exact Node.allPlaces_of_places_nil rfl (by simpa using hchildren)

theorem convert_allPlaces {rule : Rule} (hl : ∀ l ∈ source.location, l.EndsSatisfy Good)
    (hwhole : (run.lineIndex context.text).1.whole.EndsSatisfy Good)
    (hrule : source.rule? = some rule)
    (hchildren : ∀ t ∈ children, t.AllPlaces (·.EndsSatisfy Good))
    (hcontent : ∀ t ∈ content, t.AllPlaces (·.EndsSatisfy Good))
    (h : rule.convert context source children content run = (.ok result, run')) :
    result.AllPlaces (·.EndsSatisfy Good) := by
  cases rule with
  | root =>
    have hroot : (convertRoot context source children run).1 = result :=
      Except.ok.inj (congrArg Prod.fst h)
    rw [← hroot]
    exact convertRoot_allPlaces hwhole hchildren
  | element => exact convertElement_allPlaces hl hrule hchildren hcontent (convert_element_eq_ok h)
  | text | comment | doctype =>
    rcases convert_leaf_eq_ok h nofun nofun with ⟨kind, value, rfl⟩ | rfl
    · exact Node.allPlaces_of_places_nil rfl nofun
    · exact Node.allPlaces_of_places_nil rfl nofun

end Rule

/-- The ends of all positions in a converted tree are known ends that the parse tree reports, or the
ends of the whole text. -/
theorem Run.convert_allPlaces {Good : Point → Prop} {run run' : Run} {options : Options File}
    {tree : Source.Node} {node : Node} (h : run.convert options tree = (.ok node, run'))
    (hwhole : ∀ text, (options.file.map File.text).getD "None" = text →
      (LineIndex.ofText text).whole.EndsSatisfy Good)
    (htree : ∀ n ∈ tree.visited, ∀ l ∈ n.location, l.EndsSatisfy Good) :
    node.AllPlaces (·.EndsSatisfy Good) := by
  obtain ⟨log, log', run₂, hnode, rfl⟩ := Run.convert_steps h
  refine convertNode_forall (Q := fun n => ∀ l ∈ n.location, l.EndsSatisfy Good) ?_ ?_ rfl
    (fun index hindex => ?_) htree hnode
  · intro rule context source children content run t run' htext hrun hl hrule hchildren hcontent
      hmade
    refine Rule.convert_allPlaces hl ?_ hrule hchildren hcontent hmade
    rw [htext, Run.lineIndex_fst hrun]
    exact hwhole _ rfl
  · intro context source t run hl ht
    exact locate_allPlaces ht hl context run
  · cases hindex

/-- Every position anywhere in a converted tree has an end, and all of its ends have a line and a
column that are not zero, whatever the locations of the parse tree are. -/
theorem convert_positions_wellFormed {run run' : Run} {options : Options File}
    {tree : Source.Node} {node : Node} (h : run.convert options tree = (.ok node, run')) :
    ∀ n ∈ node.preorder, ∀ p ∈ n.places, p.WellFormed := by
  have hends := Run.convert_allPlaces h (fun text _ => (LineIndex.ofText text).whole_endsKnown)
    fun n _ l _ s _ q _ hq => hq
  exact fun n hn p hp => p.wellFormed_iff.mpr (hends n hn p hp)

def unclosed : Source.Node :=
  (Source.Node.bare "element" none "p"
    [(Source.Node.bare "text" "a" none [] none).atLocation
      ⟨⟨⟨some 1, some 4, some 3⟩, ⟨some 2, some (-1), none⟩⟩, none, none, []⟩] none).atLocation
    ⟨⟨⟨some 1, some 1, some 0⟩, ⟨some 0, some 0, some 9⟩⟩,
      some ⟨⟨some 1, some 1, some 0⟩, ⟨some 1, some 0, some 3⟩⟩, none, []⟩

def verbosely : Options File := ⟨.string "svg", some (.ofText "<p>a" none), .bool true⟩

def convertedUnclosed : Node :=
  .element (some ⟨some ⟨some 1, some 1, some 0⟩, some ⟨some 2, some (-1), none⟩⟩)
    ⟨.string "p", [], some ⟨some ⟨some ⟨some 1, some 1, some 0⟩, none⟩, none, []⟩⟩
    [.literal (some ⟨some ⟨some 1, some 4, some 3⟩, some ⟨some 2, some (-1), none⟩⟩) .text
      (.string "a")] none

theorem convert_unclosed : (Run.fresh verbosely false).convert verbosely unclosed =
    (.ok convertedUnclosed, { Run.fresh verbosely false with located := true }) := by
  rw [Run.convert_eq_convertNode]
  rfl

theorem convert_positions_wellFormed_unclosed :
    (Run.fresh verbosely false).convert verbosely unclosed =
        (.ok convertedUnclosed, { Run.fresh verbosely false with located := true }) ∧
      ∀ n ∈ convertedUnclosed.preorder, ∀ p ∈ n.places, p.WellFormed :=
  ⟨convert_unclosed, convert_positions_wellFormed convert_unclosed⟩

end MarkupTree
