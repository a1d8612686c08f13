import CodeWiki.Section.Identifier
import CodeWiki.Section.Paragraph

/-!
Sections from the replies of a language model. A reply is free text, so nothing here can fail:
without its markers a reply is all body, and an empty section gets a placeholder.
-/
namespace CodeWiki.WikiSection

/-- Opens the reply about a module and gives its title. -/
def moduleMarker : Text := "MODULE:"

def subsectionMarker : Text := "SUBSECTION:"

/-- May open the reply about the whole repository. -/
def overviewLabel : Text := "OVERVIEW:"

/-- The content of a module's section that would be empty. -/
def emptyModule : Text := "No detailed summary available for this module."

/-- The content of an overview that would be empty. -/
def emptyOverview : Text := "No overview available for this repository."

def overviewId : Text := "overview"

def overviewTitle : Text := "Overview"

/-- The first line behind a marker, trimmed, and the text behind that line. -/
def splitTitle (t : Text) : Text × Text :=
  let t := t.dropWhile fun c => c = ' ' || c = '\t'
  match Text.cut? ['\n'] t with
  | some (title, body) => (Text.trim title, body)
  | none => (Text.trim t, [])

/-- The first list, or the second if the first is empty. -/
def orElseContent (content fallback : List Text) : List Text :=
  if content.isEmpty then fallback else content

def ofOverview (reply : Text) : WikiSection :=
  let reply := Text.trim reply
  let body := (Text.after? overviewLabel reply).getD reply
  let fallback := Text.trim body
  .mk overviewId overviewTitle (orElseContent (Paragraph.ofText body)
    [if fallback.isEmpty then emptyOverview else fallback]) none

def subsection? (module block : Text) : Option WikiSection :=
  let (title, body) := splitTitle block
  if title.isEmpty then none
  else some (.mk (Identifier.slugify (module ++ ['-'] ++ title)) title
    (orElseContent (Paragraph.ofText body) [emptyModule]) none)

def titleAndBody (module reply : Text) : Text × Text :=
  match Text.cut? moduleMarker reply with
  | none => (Text.capitalize module, reply)
  | some (_, rest) =>
    let (title, body) := splitTitle rest
    (if title.isEmpty then Text.capitalize module else title, body)

def ofReply (module reply : Text) : WikiSection :=
  let (title, body) := titleAndBody module reply
  let (main, blocks) := Text.pieces subsectionMarker body
  let children := blocks.filterMap (subsection? module)
  let content := Paragraph.ofText main
  .mk (Identifier.slugify module) title
    (if content.isEmpty && children.isEmpty then [emptyModule] else content)
    (if children.isEmpty then none else some children)

/-- The sections of a wiki: the overview, then the modules in order, with distinct identifiers. -/
def assemble (overview : Text) (modules : List (Text × Text)) : List WikiSection :=
  (Identifier.distinctAll []
    (ofOverview overview :: modules.map fun (module, reply) => ofReply module reply)).1

end CodeWiki.WikiSection
