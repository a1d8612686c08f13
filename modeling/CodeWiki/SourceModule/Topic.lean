import CodeWiki.Text.LetterCase

/-!
Topics for files that stand at the top of a repository and so have no directory to name them.
-/
namespace CodeWiki.Topic

/-- Topics with the keywords that lead to them, the more telling ones first. -/
def byKeyword : List (String × List String) := [
  ("API & Routes", ["route", "router", "api", "controller", "handler", "endpoint"]),
  ("Data & Models", ["model", "schema", "entity", "db", "database", "migration"]),
  ("Auth & Security", ["auth", "login", "jwt", "token", "session", "oauth"]),
  ("Core & Utilities", ["util", "helper", "common", "shared", "core"]),
  ("Tests", ["test", "spec"]),
  ("Config & Ops", ["config", "settings", "env", "docker", "compose"])]

def byExtension : List (String × List String) := [
  ("Python", ["py"]),
  ("TypeScript", ["ts", "tsx"]),
  ("JavaScript", ["js", "jsx"]),
  ("Java", ["java"]),
  ("Go", ["go"]),
  ("C/C++", ["cpp", "c", "h", "hpp"]),
  ("C#", ["cs"])]

/-- The topic of files that nothing else fits. -/
def miscellaneous : Text := "Misc"

/-- The topic of a path: that of the first keyword found anywhere in it, else that of its extension.
Letter case does not matter. -/
def ofPath (path : Text) : Text :=
  let path := Text.toLower path
  let found :=
    (byKeyword.find? fun (_, keywords) => keywords.any fun k => Text.hasPart k.toList path).or
      ((Text.afterLast? '.' path).bind fun extension =>
        byExtension.find? fun (_, extensions) => extensions.any fun e => e.toList = extension)
  match found with
  | some (topic, _) => topic
  | none => miscellaneous

end CodeWiki.Topic
