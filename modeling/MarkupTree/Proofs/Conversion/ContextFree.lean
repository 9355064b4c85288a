import MarkupTree.Proofs.Conversion.Arrival

namespace MarkupTree

theorem Source.Node.summary_eq_ok_iff {node : Source.Node} :
    (∃ s, node.summary = .ok s) ↔ node.summary?.isSome := by
  unfold summary
  cases node.summary? <;> simp

theorem Node.summary_eq_ok_iff {node : Node} :
    (∃ s, node.summary = .ok s) ↔ node.summary?.isSome := by
  unfold summary
  cases node.summary? with
  | none => cases node <;> simp
  | some s => simp

theorem Source.Node.Resembles.summary?_isSome {source source' : Source.Node}
    (h : source'.Resembles source) : source'.summary?.isSome = source.summary?.isSome := by
  simp only [summary?, h.form, h.payload]
  cases source.form <;> simp

theorem StandsFor.summary?_isSome_iff {source : Source.Node} {result : Node}
    (h : StandsFor source result) : result.summary?.isSome ↔
      (source.rule? = some .text → (Value.ofOption source.payload.data).excerpt?.isSome) := by
  cases h with
  | text hrule hdata => simp [Node.summary?, hrule, hdata, Value.ofOption]
  | root hrule | element hrule | doctype hrule | comment hrule _ _ | cdata hrule _ =>
    simp [Node.summary?, hrule, Value.excerpt?]

/-- Where a log is kept, the tree and its result can be shown in it. -/
def Run.CanShow (run : Run) (tree : Source.Node) (node : Node) : Prop :=
  run.log.isSome → (∃ s, tree.summary = .ok s) ∧ ∃ s, node.summary = .ok s

/-- There is no file, or no document or fragment is entered with the node. -/
def FreeStanding (options : Options File) (source : Source.Node) : Prop :=
  options.file = none ∨ ∀ n ∈ source.visited, ¬n.IsRoot

theorem FreeStanding.standsAlone {options : Options File} {source : Source.Node}
    (h : FreeStanding options source) : StandsAlone (Context.ofOptions options) source := by
  refine h.imp_left fun hfile => ?_
  simp [hfile]

section
variable {run run' run₁ run₁' : Run} {options : Options File} {tree tree' source : Source.Node}
  {node node' result : Node} {path path' : List Turn}

theorem Run.canShow_of_convert (h : run.convert options tree = (.ok node, run')) :
    run.CanShow tree node := by
  obtain ⟨run₁, run₂, hannounce, hnode, hconclude⟩ := convert_eq_ok_iff.mp h
  obtain ⟨log, hlog₁, rfl⟩ := record_eq_ok hannounce
  have hlog₂ := (convertNode_follows tree _ _ _ _ hnode).log.trans hlog₁
  intro hlog
  have htree := announce_isOk_iff.mp ⟨_, hannounce⟩ hlog
  have hresult := conclude_isOk_iff.mp ⟨_, hconclude⟩ (hlog₂.trans hlog)
  exact ⟨htree, hresult⟩

theorem Run.convert_of_converts (htree : Converts (Context.ofOptions options) tree) (run : Run)
    (hshow : ∀ run₁ node run₂, convertNode (Context.ofOptions options) tree run₁ =
      (.ok node, run₂) → run.CanShow tree node) :
    ∃ node run', run.convert options tree = (.ok node, run') := by
  have hfirst : run.log.isSome → ∃ s, tree.summary = .ok s := by
    obtain ⟨node, run₂, hnode⟩ := htree default
    exact fun hlog => (hshow _ _ _ hnode hlog).1
  obtain ⟨run₁, hannounce⟩ := announce_isOk_iff.mpr hfirst
  obtain ⟨node, run₂, hnode⟩ := htree run₁
  obtain ⟨log, hlog₁, rfl⟩ := record_eq_ok hannounce
  have hlog₂ := (convertNode_follows tree _ _ _ _ hnode).log.trans hlog₁
  have hlast : run₂.log.isSome → ∃ s, node.summary = .ok s :=
    fun hlog => (hshow _ _ _ hnode (hlog₂.symm.trans hlog)).2
  obtain ⟨run', hconclude⟩ := conclude_isOk_iff.mpr hlast
  exact ⟨node, run', convert_eq_ok_iff.mpr ⟨_, run₂, hannounce, hnode, hconclude⟩⟩

/-- Converted alone, a node that stands alone comes to what it came to before. -/
theorem Run.convert_of_steady (hsteady : Steady (Context.ofOptions options) source)
    (h : convertNode (Context.ofOptions options) source run = (.ok result, run'))
    (hshow : run₁.CanShow source result) : (run₁.convert options source).1 = .ok result := by
  obtain ⟨made, run₂, hmade⟩ := run₁.convert_of_converts (converts_of_eq_ok source _ _ _ h)
    fun _ node _ hnode => hsteady h hnode ▸ hshow
  obtain ⟨_, _, hnode⟩ := convert_eq_ok hmade
  rw [hmade, hsteady h hnode]

/-- What stands for a node in a result, if the node is not the content of a template, is what the
node converts to. -/
theorem Run.convert_at (h : run.convert options tree = (.ok node, run'))
    (hsource : tree.keptAt? path = some source) (hpath : path.getLast? ≠ some .content) :
    ∃ result run₁ run₁', convertNode (Context.ofOptions options) source run₁ = (.ok result, run₁') ∧
      node.at? path = some result := by
  obtain ⟨_, _, hnode⟩ := convert_eq_ok h
  obtain ⟨result, p, run₁, run₁', hresult, hat, hlast⟩ := convertNode_at hnode hsource
  rw [hlast hpath] at hat
  exact ⟨result, run₁, run₁', hresult, hat⟩

theorem Run.convert_at_eq (h : run.convert options tree = (.ok node, run'))
    (hsource : tree.keptAt? path = some source) (hpath : path.getLast? ≠ some .content)
    (h' : run₁.convert options tree' = (.ok node', run₁'))
    (hsource' : tree'.keptAt? path' = some source) (hpath' : path'.getLast? ≠ some .content)
    (hfree : FreeStanding options source) :
    ∃ result, node.at? path = some result ∧ node'.at? path' = some result := by
  obtain ⟨result, _, _, hresult, hat⟩ := convert_at h hsource hpath
  obtain ⟨result', _, _, hresult', hat'⟩ := convert_at h' hsource' hpath'
  obtain rfl := StandsAlone.steady source hfree.standsAlone hresult hresult'
  exact ⟨result, hat, hat'⟩

theorem Converts.perm {context : Context} {children : List Source.Node}
    (h : Converts context source) (hperm : children.Perm source.children) :
    Converts context (source.withChildren children) := by
  obtain ⟨result, run', hresult⟩ := h default
  have hsame := source.withChildren_resembles children
  refine converts_of_resembles hsame hresult (fun s hs => ?_) (fun s hs => ?_)
  · rw [Source.Node.children_withChildren] at hs
    exact h.child (hperm.mem_iff.mp hs)
  · rw [hsame.isTemplate_eq, Source.Node.content?_withChildren] at hs
    exact h.content hs

/-- A tree in which the children of a node are in another order is converted just as well. -/
theorem Run.convert_perm {children : List Source.Node}
    (h : run.convert options tree = (.ok node, run')) (hsource : tree.keptAt? path = some source)
    (hperm : children.Perm source.children) :
    ∃ node' run'', run.convert options (tree.modifyAt (Source.Node.withChildren children) path) =
      (.ok node', run'') := by
  obtain ⟨_, _, hnode⟩ := convert_eq_ok h
  obtain ⟨_, _, _, _, hpart, -, -⟩ := convertNode_at hnode hsource
  have hresembles := Source.Node.withChildren_resembles children
  have hchanged := (converts_of_eq_ok source _ _ _ hpart).perm hperm
  refine run.convert_of_converts (converts_modifyAt hresembles
    (converts_of_eq_ok tree _ _ _ hnode) hsource hchanged) fun _ made _ hmade hlog => ?_
  -- Only the order of children has changed, so the log can show what it could show before.
  have hsame := Source.Node.modifyAt_resembles hresembles path tree
  obtain ⟨htree, hresult⟩ := canShow_of_convert h hlog
  rw [Source.Node.summary_eq_ok_iff] at htree ⊢
  rw [Node.summary_eq_ok_iff, (standsFor_of_convertNode hnode).summary?_isSome_iff] at hresult
  rw [Node.summary_eq_ok_iff, (standsFor_of_convertNode hmade).summary?_isSome_iff,
    hsame.summary?_isSome, hsame.rule?_eq, hsame.payload]
  exact ⟨htree, hresult⟩

end

/-- What stands for a node in the result of a conversion, if the node is not the content of a
template and there is no file or no document or fragment within it, is the result of the node
alone, and so the same in all other surroundings. Such children keep their results in every order
of the children of a node, and every order can be converted. -/
theorem convert_context_free {run run' : Run} {options : Options File} {tree source : Source.Node}
    {node : Node} {path : List Turn} (h : run.convert options tree = (.ok node, run'))
    (hsource : tree.keptAt? path = some source) :
    (path.getLast? ≠ some .content → FreeStanding options source →
      ∃ result, node.at? path = some result ∧ StandsFor source result ∧
        (∀ run₁ : Run, run₁.CanShow source result → (run₁.convert options source).1 = .ok result) ∧
        ∀ (run₁ run₁' : Run) tree' node' path', run₁.convert options tree' = (.ok node', run₁') →
          tree'.keptAt? path' = some source → path'.getLast? ≠ some .content →
            node'.at? path' = some result) ∧
    ∀ children : List Source.Node, children.Perm source.children →
      ∃ node' run'', run.convert options (tree.modifyAt (Source.Node.withChildren children) path) =
          (.ok node', run'') ∧
        ∀ i j part, source.keepsChildren → children[i]? = some part →
          source.children[j]? = some part → FreeStanding options part →
            ∃ result, node'.at? (path ++ [.child i]) = some result ∧
              node.at? (path ++ [.child j]) = some result := by
  refine ⟨fun hpath hfree => ?_, fun children hperm => ?_⟩
  · obtain ⟨result, run₁, run₁', hresult, hat⟩ := Run.convert_at h hsource hpath
    refine ⟨result, hat, standsFor_of_convertNode hresult, fun run₁ hshow => ?_, ?_⟩
    · exact Run.convert_of_steady (StandsAlone.steady source hfree.standsAlone) hresult hshow
    · intro run₁ run₁' tree' node' path' h' hsource' hpath'
      obtain ⟨result', hat', hother⟩ :=
        Run.convert_at_eq h hsource hpath h' hsource' hpath' hfree
      rw [hother, ← hat', hat]
  · obtain ⟨node', run'', h'⟩ := Run.convert_perm h hsource hperm
    refine ⟨node', run'', h', fun i j part hkeeps hi hj hfree => ?_⟩
    have hresembles := Source.Node.withChildren_resembles children
    have hpart : tree.keptAt? (path ++ [.child j]) = some part := by
      rw [Source.Node.keptAt?_append, hsource]
      exact Source.Node.keptAt?_child_eq_some_iff.mpr ⟨hkeeps, part, hj, rfl⟩
    have hmoved : (tree.modifyAt (Source.Node.withChildren children) path).keptAt?
        (path ++ [.child i]) = some part := by
      rw [Source.Node.keptAt?_append, Source.Node.keptAt?_modifyAt hresembles hsource]
      refine Source.Node.keptAt?_child_eq_some_iff.mpr ⟨?_, part, ?_, rfl⟩
      · rwa [(hresembles source).keepsChildren_eq]
      · rwa [Source.Node.children_withChildren]
    have hlast (k : Nat) : (path ++ [Turn.child k]).getLast? ≠ some .content := by simp
    exact Run.convert_at_eq h' hmoved (hlast i) h hpart (hlast j) hfree

def Source.Node.ofNamespace (uri : String) : Source.Node → Source.Node
  | mk form payload children content =>
    mk form { payload with space := .string uri } children content

def caption : Source.Node :=
  (Source.Node.bare "element" none "textPath"
    [(Source.Node.bare "text" "a" none [] none).atLocation
      ⟨⟨⟨some 1, some 16, some 15⟩, ⟨some 1, some 17, some 16⟩⟩, none, none, []⟩] none).atLocation
    ⟨⟨⟨some 1, some 6, some 5⟩, ⟨some 1, some 17, some 16⟩⟩,
      some ⟨⟨some 1, some 6, some 5⟩, ⟨some 1, some 16, some 15⟩⟩, none, []⟩

def curve : Source.Node :=
  (Source.Node.bare "element" none "textPath" [] none).ofNamespace svgNamespace

def canvas : Source.Node :=
  (Source.Node.bare "element" none "svg" [caption, curve] none).ofNamespace svgNamespace

def drawing : Source.Node := .bare "document" none none [canvas] none

def captioned : Options File := ⟨.string "svg", some (.ofText "<svg><textPath>a" none), .bool true⟩

def convertedCaption : Node :=
  .element (some ⟨some ⟨some 1, some 6, some 5⟩, some ⟨some 1, some 17, some 16⟩⟩)
    ⟨.string "textpath", [], some
      ⟨some ⟨some ⟨some 1, some 6, some 5⟩, some ⟨some 1, some 16, some 15⟩⟩, none, []⟩⟩
    [.literal (some ⟨some ⟨some 1, some 16, some 15⟩, some ⟨some 1, some 17, some 16⟩⟩) .text
      (.string "a")] none

def convertedDrawing : Node :=
  .root (some (LineIndex.ofText "<svg><textPath>a").whole) false
    [.element none ⟨.string "svg", [], none⟩
      [convertedCaption, .element none ⟨.string "textPath", [], none⟩ [] none] none]

theorem convert_drawing :
    ∃ run', (Run.fresh captioned false).convert captioned drawing = (.ok convertedDrawing, run') := by
  refine ⟨⟨true, some (LineIndex.ofText "<svg><textPath>a"), [], none⟩, ?_⟩
  rw [Run.convert_eq_convertNode]
  rfl

theorem freeStanding_caption : FreeStanding captioned caption := by
  have hrules : ∀ n ∈ caption.visited, n.rule? ≠ some .root := by decide
  exact .inr fun n hn hroot => hrules n hn (n.rule?_eq_root_iff.mpr hroot)

theorem convert_context_free_drawing :
    (∃ run', (Run.fresh captioned false).convert captioned drawing =
      (.ok convertedDrawing, run')) ∧
    drawing.keptAt? [.child 0, .child 0] = some caption ∧
    convertedDrawing.at? [.child 0, .child 0] = some convertedCaption ∧
    ((Run.fresh captioned true).convert captioned caption).1 = .ok convertedCaption ∧
    ∃ node' run', (Run.fresh captioned false).convert captioned
        (drawing.modifyAt (Source.Node.withChildren [curve, caption]) [.child 0]) =
          (.ok node', run') ∧ node'.at? [.child 0, .child 1] = some convertedCaption := by
  obtain ⟨run', h⟩ := convert_drawing
  have hcaption : drawing.keptAt? [.child 0, .child 0] = some caption := rfl
  have hcanvas : drawing.keptAt? [.child 0] = some canvas := rfl
  have hpath : [Turn.child 0, .child 0].getLast? ≠ some .content := by decide
  -- The caption converts alone as it does below the canvas, also where a log is kept.
  obtain ⟨result, hat, -, halone, -⟩ :=
    (convert_context_free h hcaption).1 hpath freeStanding_caption
  obtain rfl := Option.some.inj hat
  have hresult := halone (Run.fresh captioned true) fun _ => ⟨⟨_, rfl⟩, _, rfl⟩
  -- After the curve it has the same result.
  have hperm : [curve, caption].Perm canvas.children := .swap caption curve []
  obtain ⟨node', run'', h', hparts⟩ := (convert_context_free h hcanvas).2 _ hperm
  obtain ⟨result, hmoved, hbefore⟩ := hparts 1 0 caption rfl rfl rfl freeStanding_caption
  obtain rfl := Option.some.inj hbefore
  exact ⟨⟨run', h⟩, hcaption, rfl, hresult, node', run'', h', hmoved⟩

end MarkupTree
