import MarkupTree.Failure
import MarkupTree.File
import MarkupTree.Space

namespace MarkupTree

/-- How trees are converted. A file enables positions, and `verbose` adds those of tags and
attributes. The file is held as `φ`: itself or by name. -/
structure Options (φ : Type) where
  space : Value
  file : Option φ
  verbose : Value
  deriving Inhabited

inductive Setting (φ : Type) where
  | space (value : Value)
  | file (file : Option φ)
  | verbose (value : Value)
  | unknown (name : String)

inductive OptionsRequest (φ : Type) where
  | standard
  | file (file : φ)
  | settings (settings : List (Setting φ))
  | value (value : Value)

namespace Options
variable {φ : Type}

def standard : Options φ := ⟨.string Space.html.name, none, .bool false⟩

def checkSpace (space : Value) : Except Failure Value :=
  match space with
  | .string name => if (Space.ofName? name).isSome then .ok space else .error (.unknownSpace space)
  | _ => .error (if space.isKey then .unknownSpace space else .notKey space)

def apply (options : Options φ) : Setting φ → Except Failure (Options φ)
  | .space value => .ok { options with space := value }
  | .file file => .ok { options with file := file }
  | .verbose value => .ok { options with verbose := .bool value.truthy }
  | .unknown name => .error (.unknownOption name)

/-- Names are checked before values. -/
def ofSettings (settings : List (Setting φ)) : Except Failure (Options φ) := do
  let options ← settings.foldlM apply standard
  let _ ← checkSpace options.space
  return options

/-- The options that a plain value describes. It can name no file. -/
def settingsOf (entries : List (String × Value)) : List (Setting φ) :=
  entries.map fun (name, value) =>
    if name = "space" then .space value
    else if name = "verbose" then .verbose value
    else if name = "file" then .file none
    else .unknown name

def ofRequest : OptionsRequest φ → Except Failure (Options φ)
  | .standard => .ok standard
  | .file file => .ok ⟨.string Space.html.name, some file, .bool false⟩
  | .settings settings => ofSettings settings
  | .value .null => .ok standard
  | .value (.record entries) => ofSettings (settingsOf entries)
  | .value v => .error (.notOptions v)

/-- The space whose rules a tree starts with: every value but one stands for HTML. -/
def startSpace (options : Options φ) : Space :=
  match options.space with
  | .string "svg" => .svg
  | _ => .html

def literal (options : Options File) : String :=
  let file := (options.file.map File.literal).getD "None"
  s!"TransformOpts(space={options.space.literal}, file={file}, verbose={options.verbose.text})"

end Options

end MarkupTree
