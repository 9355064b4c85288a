import MarkupTree.Schema.DataName
import MarkupTree.Text.Lowercase
import MarkupTree.Value.Text

namespace MarkupTree

/-- A property with the attribute that sets it. The space is that of the schema that knows it. -/
structure PropertyInfo where
  property : String
  attr : String
  space : Option String
  deriving DecidableEq, Repr, Inhabited

def PropertyInfo.literal (info : PropertyInfo) : String :=
  s!"Info({Text.quoted info.property}, attribute={Text.quoted info.attr}, " ++
    s!"space={(Value.ofString? info.space).literal})"

/-- Properties by name, and the property of every known name, which is found in lower case. -/
structure Schema where
  space : Option String
  properties : Entries String PropertyInfo
  names : Entries String String

namespace Schema

/-- The names of later properties take the place of earlier ones. -/
def insert (schema : Schema) (info : PropertyInfo) : Schema :=
  { schema with
    properties := Entries.put info.property info schema.properties
    names := Entries.put (Text.lowercase info.attr) info.property
      (Entries.put (Text.lowercase info.property) info.property schema.names) }

def ofInfos (space : Option String) (infos : List PropertyInfo) : Schema :=
  infos.foldl insert ⟨space, [], []⟩

def literal (schema : Schema) : String :=
  s!"Schema({(Value.ofString? schema.space).text}, properties={schema.properties.length})"

def lookup? (schema : Schema) (name : String) : Option PropertyInfo :=
  (Entries.get? (Text.lowercase name) schema.names).bind fun property =>
    Entries.get? property schema.properties

/-- A data name is an attribute if a dash follows `data`, and a property otherwise. -/
def ofDataName? (space : Option String) (name : String) : Option PropertyInfo :=
  match dataSuffix? name.toList with
  | some ('-' :: rest) => some ⟨String.ofList (dataProperty rest), name, space⟩
  | some rest => some ⟨name, String.ofList (dataAttribute rest), space⟩
  | none => none

/-- A known name gives its property, a data name the property formed by rule, and any other name
stands for itself. -/
def resolve (schema : Schema) (name : String) : PropertyInfo :=
  match schema.lookup? name with
  | some info => info
  | none => (ofDataName? schema.space name).getD ⟨name, name, none⟩

/-- The lower case of a text starts with `data` and goes on. -/
def goesPastData (cs : List Char) : Bool :=
  let lowered := Text.lowerFrom [] cs
  ['d', 'a', 't', 'a'].isPrefixOf lowered && lowered.length != 4

/-- The lookup of a name step by step. None stands for a step that does not find what it needs: the
entry of a property that a name stands for, or the fifth character of a data name. -/
def consult? (schema : Schema) (name : String) : Option PropertyInfo :=
  match Entries.get? (Text.lowercase name) schema.names with
  | some property => Entries.get? property schema.properties
  | none =>
    if goesPastData name.toList ∧ (dataSuffix? name.toList).isSome then
      name.toList[4]?.map fun fifth =>
        if fifth = '-' then
          ⟨String.ofList (dataProperty (name.toList.drop 5)), name, schema.space⟩
        else ⟨name, String.ofList (dataAttribute (name.toList.drop 4)), schema.space⟩
    else some ⟨name, name, none⟩

end Schema

end MarkupTree
