import CodeWiki.Document.Basic
import CodeWiki.Json.Printer
import CodeWiki.Json.Reader
import CodeWiki.Json.Record

/-!
Documents as JSON. A section without subsections has no member for them, files are an object with
its keys in order, and a revision that is not known is `null`.
-/
namespace CodeWiki

namespace Origin

/-- The members of an origin, in the order in which they are written. -/
def fields : List (Text × Json.Presence) := [
  ("repo_url", .required), ("repo", .required), ("commit", .nullable), ("generated_at", .required),
  ("file_count", .required)]

def toJson (o : Origin) : Json := .ofFields [
  ("repo_url", .text o.reference),
  ("repo", .text o.slug),
  ("commit", .ofOption .text o.commit),
  ("generated_at", .text o.generatedAt),
  ("file_count", .nat o.fileCount)]

def ofJson? : Nat → Json → Option Origin
  | 0, _ => none
  | _ + 1, json => do
    match ← Json.record? fields json with
    | [some reference, some slug, commit, some generatedAt, some fileCount] =>
      some {
        reference := ← reference.text?
        slug := ← slug.text?
        commit := ← Json.option? Json.text? commit
        generatedAt := ← generatedAt.text?
        fileCount := ← fileCount.nat? }
    | _ => none

end Origin

namespace WikiSection

/-- The members of a section, in the order in which they are written. -/
def fields : List (Text × Json.Presence) := [
  ("id", .required), ("title", .required), ("content", .required), ("children", .defaulted)]

mutual

def toJson : WikiSection → Json
  | .mk id title content none => .ofFields [
    ("id", .text id), ("title", .text title), ("content", .texts content)]
  | .mk id title content (some children) => .ofFields [
    ("id", .text id), ("title", .text title), ("content", .texts content),
    ("children", .array (toJsons children))]

def toJsons : List WikiSection → List Json
  | [] => []
  | s :: rest => toJson s :: toJsons rest

end

/-- Reads a section that is nested no deeper than the first argument says. -/
def ofJson? : Nat → Json → Option WikiSection
  | 0, _ => none
  | depth + 1, json => do
    match ← Json.record? fields json with
    | [some id, some title, some content, children] =>
      let id ← id.text?
      let title ← title.text?
      let content ← content.list? (fun _ => Json.text?) depth
      match children with
      | none | some .null => some (.mk id title content none)
      | some (.array items) =>
        match depth with
        | 0 => none
        | depth + 1 => some (.mk id title content (some (← items.mapM (ofJson? depth))))
      | _ => none
    | _ => none

end WikiSection

namespace Snapshot

def toJson (s : Snapshot) : Json :=
  .ofFields (s.entries.map fun (path, content) => (path, .text content))

/-- Reads files; the last of several contents of a path counts. -/
def ofJson? : Nat → Json → Option Snapshot
  | _ + 1, .object members => do
    let files ← members.mapM fun (key, value) => do some (← key, ← value.text?)
    some (ofList files)
  | _, _ => none

end Snapshot

namespace Document

/-- The members of a document, in the order in which they are written. -/
def fields : List (Text × Json.Presence) :=
  [("meta", .required), ("sections", .required), ("files_data", .required)]

def toJson (d : Document) : Json := .ofFields [
  ("meta", d.origin.toJson),
  ("sections", .array (WikiSection.toJsons d.sections)),
  ("files_data", d.files.toJson)]

/-- Reads a document that is nested no deeper than the first argument says. -/
def ofJson? : Nat → Json → Option Document
  | 0, _ => none
  | depth + 1, json => do
    match ← Json.record? fields json with
    | [some origin, some sections, some files] =>
      some {
        origin := ← Origin.ofJson? depth origin
        sections := ← sections.list? WikiSection.ofJson? depth
        files := ← Snapshot.ofJson? depth files }
    | _ => none

def read? (t : Text) : Option Document := do ofJson? Json.maxDepth (← Json.read? t)

/-- The text of a document without white space. -/
def compact (d : Document) : Text := d.toJson.compact

/-- The text of a document with one item a line. -/
def indented (d : Document) : Text := d.toJson.indented

end Document
end CodeWiki
