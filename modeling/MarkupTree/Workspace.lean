import MarkupTree.Conversion.Traversal

namespace MarkupTree

/-- A converter holds the number of its options, and what its last conversion left behind. -/
structure Converter where
  options : Nat
  located : Bool
  index : Option LineIndex
  deriving Inhabited

/-- Files, options and converters that refer to each other. Several converters may hold the same
options, and several options the same file. -/
structure Workspace where
  files : Entries String File
  options : Array (Options String)
  shared : Entries String Nat
  converters : Entries String Converter
  deriving Inhabited

inductive OptionsSource where
  | request (request : OptionsRequest String)
  | shared (name : String)

/-- A change of options, which is not checked. -/
inductive Assignment where
  | space (value : Value)
  | file (name : Option String)
  | verbose (value : Value)

inductive Step where
  | share (name : String) (source : OptionsSource)
  | converter (name : String) (source : OptionsSource)
  | convert (converter : String) (tree : Source.Node)
  | state (converter : String)
  | points (converter : String) (offsets : List (Option Int))
  | assign (converter : String) (change : Assignment)
  | message (file : String) (message : Diagnostic)
  | setText (file : String) (text : String)
  | clear (file : String)
  | file (file : String)

inductive Answer where
  | options (options : Options File)
  | converted (node : Node) (located : Bool)
  | state (located : Bool) (options : Options File)
  | points (length : Nat) (points : List (Option Point))
  | message (message : Diagnostic)
  | file (file : File)
  | failed (failure : Failure)

def Options.assign (options : Options String) : Assignment → Options String
  | .space value => { options with space := value }
  | .file name => { options with file := name }
  | .verbose value => { options with verbose := value }

namespace Workspace

def ofFiles (files : Entries String File) : Workspace := ⟨files, #[], [], []⟩

def optionsAt (w : Workspace) (n : Nat) : Options File :=
  let options := (w.options[n]?).getD Options.standard
  { options with file := options.file.bind fun name => Entries.get? name w.files }

def takeOptions (w : Workspace) : OptionsSource → Except Failure (Nat × Workspace)
  | .request request => do
    let options ← Options.ofRequest request
    return (w.options.size, { w with options := w.options.push options })
  | .shared name =>
    match Entries.get? name w.shared with
    | some n => .ok (n, w)
    | none => .error (.unknownName name)

def putFile (w : Workspace) (name : String) (file : File) : Workspace :=
  { w with files := Entries.put name file w.files }

def putConverter (w : Workspace) (name : String) (converter : Converter) : Workspace :=
  { w with converters := Entries.put name converter w.converters }

def runOf (w : Workspace) (converter : Converter) : Run :=
  let file := (w.optionsAt converter.options).file
  ⟨converter.located, converter.index, (file.map File.messages).getD [], none⟩

/-- Puts back what a run has changed: the converter's own state and the messages of its file. -/
def store (w : Workspace) (name : String) (converter : Converter) (run : Run) : Workspace :=
  let w := w.putConverter name { converter with located := run.located, index := run.index }
  match (w.options[converter.options]?).bind Options.file with
  | none => w
  | some fileName =>
    match Entries.get? fileName w.files with
    | none => w
    | some file => w.putFile fileName { file with messages := run.messages }

def onConverter (w : Workspace) (name : String) (act : Converter → Answer × Workspace) :
    Answer × Workspace :=
  match Entries.get? name w.converters with
  | some converter => act converter
  | none => (.failed (.unknownName name), w)

def onFile (w : Workspace) (name : String) (change : File → File) (answer : File → Answer) :
    Answer × Workspace :=
  match Entries.get? name w.files with
  | some file => (answer (change file), w.putFile name (change file))
  | none => (.failed (.unknownName name), w)

def convert (w : Workspace) (name : String) (converter : Converter) (tree : Source.Node) :
    Answer × Workspace :=
  match (w.runOf converter).convert (w.optionsAt converter.options) tree with
  | (.error failure, run) => (.failed failure, w.store name converter run)
  | (.ok node, run) => (.converted node run.located, w.store name converter run)

/-- The index is that of the converter's current run, which keeps it. -/
def points (w : Workspace) (name : String) (converter : Converter) (offsets : List (Option Int)) :
    Answer × Workspace :=
  let text := (w.optionsAt converter.options).file.map File.text
  let (index, run) := (w.runOf converter).lineIndex text
  (.points index.length (offsets.map index.toPoint), w.store name converter run)

def execute (w : Workspace) : Step → Answer × Workspace
  | .share name source =>
    match w.takeOptions source with
    | .error failure => (.failed failure, w)
    | .ok (n, w) => (.options (w.optionsAt n), { w with shared := Entries.put name n w.shared })
  | .converter name source =>
    match w.takeOptions source with
    | .error failure => (.failed failure, w)
    | .ok (n, w) => (.options (w.optionsAt n), w.putConverter name ⟨n, false, none⟩)
  | .convert name tree => w.onConverter name fun converter => w.convert name converter tree
  | .state name =>
    w.onConverter name fun converter =>
      (.state converter.located (w.optionsAt converter.options), w)
  | .points name offsets => w.onConverter name fun converter => w.points name converter offsets
  | .assign name change =>
    w.onConverter name fun converter =>
      let w := { w with options := w.options.modify converter.options (·.assign change) }
      (.options (w.optionsAt converter.options), w)
  | .message name message => w.onFile name (·.addMessage message) fun _ => .message message
  | .setText name text => w.onFile name (fun file => { file with text := text }) .file
  | .clear name => w.onFile name (fun file => { file with messages := [] }) .file
  | .file name => w.onFile name id .file

/-- The answers to a list of steps, one after the other. A step that fails does not end them. -/
def executeAll (w : Workspace) : List Step → List Answer × Workspace
  | [] => ([], w)
  | step :: rest =>
    let (answer, w) := w.execute step
    let (answers, w) := w.executeAll rest
    (answer :: answers, w)

end Workspace

end MarkupTree
