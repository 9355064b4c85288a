import MarkupTree.Schema.Basic
import MarkupTree.Schema.Tables
import MarkupTree.Space

namespace MarkupTree.Schema

def afterLetters (n : Nat) (s : String) : String :=
  Text.lowercase (String.ofList (s.toList.drop n))

def sharedInfos : List (String × String) :=
  linkProperties.map (fun p => (p, "xlink:" ++ afterLetters 5 p)) ++
  xmlProperties.map (fun p => (p, "xml:" ++ afterLetters 3 p)) ++
  namespaceDeclarations ++
  ariaProperties.map fun p => (p, if p = "role" then p else "aria-" ++ afterLetters 4 p)

def htmlInfos : List (String × String) :=
  sharedInfos ++ htmlPlainProperties.map (fun p => (p, Text.lowercase p)) ++ htmlRenamed

def svgInfos : List (String × String) :=
  sharedInfos ++
  svgPlainProperties.map (fun p => (p, if p = "tabIndex" then Text.lowercase p else p)) ++
  svgAttributeNames.map (fun a => (a, a)) ++
  svgDashedAttributes.map (fun a => (String.ofList (camelCase a.toList), a)) ++
  svgRenamed

def infosOf : Space → List (String × String)
  | .html => htmlInfos
  | .svg => svgInfos

def standard (space : Space) : Schema :=
  ofInfos (some space.name)
    ((infosOf space).map fun p => ⟨p.1, p.2, some space.name⟩)

def html : Schema := standard .html

def svg : Schema := standard .svg

def ofSpace : Space → Schema
  | .html => html
  | .svg => svg

def casing (names : List String) : Entries String String :=
  names.map fun name => (Text.lowercase name, name)

def svgElementCasing : Entries String String := casing svgElementNames

def svgAttributeCasing : Entries String String := casing svgAttributeNames

end MarkupTree.Schema
