import ApiContract.Document.Cycles
import ApiContract.Document.Decode
import ApiContract.Failure
import ApiContract.Json.Text
import ApiContract.Node.Yaml
import ApiContract.Text.Blank

/-!
# Reading documents from text

A document is JSON or YAML.  It must have a version that is not blank, and no component
schema may reach itself by references and composition alone.
-/

namespace ApiContract
namespace Document

/-- Refuses a document without version or with a reference cycle. -/
def check (reading : Reading) (document : Document) : Except Failure Document :=
  if (Blank.trim document.version.toList).isEmpty then .error (.missingVersion reading)
  else
    match document.components.bind Components.cycle? with
    | some name => .error (.referenceCycle name)
    | none => .ok document

/-- Reads a document from a JSON text. -/
def ofJson (text : List Char) : Except Failure Document :=
  match (Json.read? text).bind (ofNode? Json.depthLimit) with
  | some document => document.check .json
  | none => .error (.malformedText .json)

/-- Reads a document from a YAML text. -/
def ofYaml (text : List Char) : Except Failure Document :=
  match (Node.ofYaml? text).bind (ofNode? Node.yamlDepthLimit) with
  | some document => document.check .yaml
  | none => .error (.malformedText .yaml)

/-- Reads a document from bytes: as JSON if the text begins with a brace, as YAML
otherwise. -/
def parse (content : List UInt8) : Except Failure Document :=
  match Utf8.decode? content with
  | none => .error (.malformedText .utf8)
  | some text =>
      if (Blank.trimStart text).head? = some '\x7b' then ofJson text else ofYaml text

end Document
end ApiContract
