import MarkupTree.Options

namespace MarkupTree

/-- What is handed down a tree during conversion: the space whose rules apply, the text of the
file if there is one, and whether tags and attributes are placed. -/
structure Context where
  space : Space
  text : Option String
  verbose : Value
  deriving Inhabited

namespace Context

def ofOptions (options : Options File) : Context :=
  ⟨options.startSpace, options.file.map File.text, options.verbose⟩

@[simp] theorem text_ofOptions (options : Options File) :
    (ofOptions options).text = options.file.map File.text := rfl

@[simp] theorem verbose_ofOptions (options : Options File) :
    (ofOptions options).verbose = options.verbose := rfl

def inSpace (context : Context) (space : Space) : Context := { context with space := space }

def literal (context : Context) : String :=
  s!"Context({context.space.name}, file={(Value.bool context.text.isSome).text}, " ++
    s!"verbose={context.verbose.text})"

end Context

end MarkupTree
