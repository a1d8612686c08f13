import CodeWiki.Schedule.Basic

/-!
The questions that are asked: one about the repository as a whole, and one about each module.
-/
namespace CodeWiki

namespace Prompt

/-- What the model is to be when it writes about the repository. -/
def overviewSystem : Text := Text.join ['\n'] <| List.map String.toList [
  "You are a principal software architect writing the opening page of a code wiki.",
  "Produce a HIGH-LEVEL ARCHITECTURAL OVERVIEW of the repository described by the module map.",
  "",
  "OVERVIEW:",
  "[At least three substantial paragraphs surveying the whole repository: the technology stack, " ++
    "the structural patterns, and the core purpose of the system.]",
  "",
  "Guidelines:",
  "1. Be thorough and technically dense.",
  "2. Write at staff-engineer depth: state management, concurrency, data flow and scalability."]

/-- What the model is to be when it writes about a module. -/
def moduleSystem : Text := Text.join ['\n'] <| List.map String.toList [
  "You are a senior technical writer turning extracted logic snippets from ONE module into a " ++
    "wiki section.",
  "",
  "Use exactly this output format:",
  "MODULE: [Product-oriented name for this part of the system]",
  "[A substantial summary of the module's role in the architecture.]",
  "",
  "SUBSECTION: [A specific component or piece of logic]",
  "[How it works, why it is built this way, and what it depends on.]",
  "```[language]",
  "// the most important code fragment",
  "```",
  "",
  "Guidelines:",
  "1. Be thorough and technically dense.",
  "2. Focus on data flow and modularity."]

def ofOverview (brief : OverviewBrief) : Prompt where
  system := overviewSystem
  user := "Repository Info:\n" ++ brief.repository ++ "\n\nModules Map:\n" ++ brief.moduleMap

def ofBrief (brief : Brief) : Prompt where
  system := moduleSystem
  user := "Logic Extracts for Module: " ++ brief.module ++ "\n\n" ++ brief.text

end Prompt

namespace Task

/-- The task about the repository, with the first credential. -/
def ofOverview (pool : KeyPool) (brief : OverviewBrief) : Task :=
  ⟨.overview, .ofOverview brief, pool.first⟩

/-- The tasks about modules; the credentials are dealt out in turn. -/
def ofBriefs (pool : KeyPool) (briefs : List Brief) : List Task :=
  briefs.zipIdx.map fun (brief, i) => ⟨.module brief.module, .ofBrief brief, pool.roundRobin i⟩

/-- The tasks of a wiki: the repository first, then the modules in order. -/
def ofWiki (pool : KeyPool) (overview : OverviewBrief) (briefs : List Brief) : List Task :=
  ofOverview pool overview :: ofBriefs pool briefs

end Task
end CodeWiki
