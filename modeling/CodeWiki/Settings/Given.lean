import CodeWiki.Settings.File

/-!
What may be given in a file of settings: values of three kinds under known names in known sections.
The values are looked up by their names, so neither the order of the entries nor entries of other
names play a role.
-/
namespace CodeWiki

open Yaml (Node)

namespace Yaml.Node

/-- The entries of a mapping under the names that its keys spell, if all keys are scalars. -/
def entries? (root node : Node) : Option (List (Text × Node)) :=
  match root.resolve node with
  | mapping entries => entries.mapM fun entry => (text? root entry.1).map (·, entry.2)
  | _ => none

/-- A mapping that gives no name twice, and in which every value fits its name. -/
def IsRecord (root : Node) (fits : Text → Node → Prop) (node : Node) : Prop :=
  ∃ entries, root.entries? node = some entries ∧ (entries.map Prod.fst).Nodup ∧
    ∀ entry ∈ entries, fits entry.1 entry.2

end Yaml.Node

inductive SettingKind where
  | natural (bound : Nat)
  | number
  | texts
deriving DecidableEq, Repr

inductive SettingValue where
  | natural (n : Nat)
  | number (x : Floating)
  | texts (items : List Text)
deriving DecidableEq, Repr

/-- The value of the given kind that a node of a document stands for. -/
def SettingKind.read? (root node : Node) : SettingKind → Option SettingValue
  | natural bound => (root.natural? bound node).map .natural
  | number => (root.double? node).map .number
  | texts => (root.texts? node).map .texts

namespace SettingValue

def naturalOr (default : Nat) : Option SettingValue → Nat
  | some (natural n) => n
  | _ => default

def numberOr (default : Floating) : Option SettingValue → Floating
  | some (number x) => x
  | _ => default

/-- As for any number; one that is given is rounded to single precision. -/
def singleOr (default : Floating) : Option SettingValue → Floating
  | some (number x) => FloatFormat.single.convert x
  | _ => default

def textsOr (default : List Text) : Option SettingValue → List Text
  | some (texts items) => items
  | _ => default

end SettingValue

/-- A number that fits into a machine word. -/
def SettingKind.word : SettingKind := .natural UInt64.size

namespace CheckoutSettings

def kinds : List (Text × SettingKind) := [
  ("max_files", .word), ("max_file_bytes", .word), ("clone_timeout_secs", .word),
  ("revision_timeout_secs", .word), ("extensions", .texts), ("ignore", .texts)]

/-- The settings with the values that are given in place of their own. -/
def replaced (s : CheckoutSettings) (given : Text → Option SettingValue) : CheckoutSettings where
  maxFiles := SettingValue.naturalOr s.maxFiles (given "max_files")
  maxFileBytes := SettingValue.naturalOr s.maxFileBytes (given "max_file_bytes")
  cloneTimeoutSecs := SettingValue.naturalOr s.cloneTimeoutSecs (given "clone_timeout_secs")
  revisionTimeoutSecs :=
    SettingValue.naturalOr s.revisionTimeoutSecs (given "revision_timeout_secs")
  extensions := SettingValue.textsOr s.extensions (given "extensions")
  ignore := SettingValue.textsOr s.ignore (given "ignore")

end CheckoutSettings

namespace ExcerptSettings

def kinds : List (Text × SettingKind) := [
  ("signature_threshold", .word), ("signature_cap", .word), ("excerpt_lines", .word)]

def replaced (s : ExcerptSettings) (given : Text → Option SettingValue) : ExcerptSettings where
  signatureThreshold := SettingValue.naturalOr s.signatureThreshold (given "signature_threshold")
  signatureCap := SettingValue.naturalOr s.signatureCap (given "signature_cap")
  excerptLines := SettingValue.naturalOr s.excerptLines (given "excerpt_lines")

end ExcerptSettings

namespace GroupingSettings

def kinds : List (Text × SettingKind) := [
  ("root_recluster_threshold", .word), ("files_per_module", .word), ("max_module_chars", .word),
  ("overview_path_sample", .word)]

def replaced (s : GroupingSettings) (given : Text → Option SettingValue) : GroupingSettings where
  rootThreshold := SettingValue.naturalOr s.rootThreshold (given "root_recluster_threshold")
  filesPerModule := SettingValue.naturalOr s.filesPerModule (given "files_per_module")
  maxModuleChars := SettingValue.naturalOr s.maxModuleChars (given "max_module_chars")
  pathSample := SettingValue.naturalOr s.pathSample (given "overview_path_sample")

end GroupingSettings

namespace ScheduleSettings

def kinds : List (Text × SettingKind) := [
  ("max_attempts", .natural UInt32.size), ("rate_limit_backoff_secs", .number),
  ("default_parallelism", .word), ("request_timeout_secs", .word), ("temperature", .number)]

def replaced (s : ScheduleSettings) (given : Text → Option SettingValue) : ScheduleSettings where
  maxAttempts := SettingValue.naturalOr s.maxAttempts (given "max_attempts")
  backoffSecs := SettingValue.numberOr s.backoffSecs (given "rate_limit_backoff_secs")
  defaultParallelism := SettingValue.naturalOr s.defaultParallelism (given "default_parallelism")
  requestTimeoutSecs := SettingValue.naturalOr s.requestTimeoutSecs (given "request_timeout_secs")
  temperature := SettingValue.singleOr s.temperature (given "temperature")

end ScheduleSettings

namespace RetentionSettings

def kinds : List (Text × SettingKind) := [("ttl_secs", .word), ("capacity", .word)]

def replaced (s : RetentionSettings) (given : Text → Option SettingValue) : RetentionSettings where
  lifetimeSecs := SettingValue.naturalOr s.lifetimeSecs (given "ttl_secs")
  capacity := SettingValue.naturalOr s.capacity (given "capacity")

end RetentionSettings

namespace Settings

/-- The headings of the sections, each with the names and kinds of its fields. -/
def sections : List (Text × List (Text × SettingKind)) := [
  ("materialize", CheckoutSettings.kinds), ("extract", ExcerptSettings.kinds),
  ("aggregate", GroupingSettings.kinds), ("orchestrate", ScheduleSettings.kinds),
  ("cache", RetentionSettings.kinds)]

/-- The default settings with the values that are given under a heading and a name in their
places. -/
def ofGiven (given : Text → Text → Option SettingValue) : Settings where
  checkout := ({} : CheckoutSettings).replaced (given "materialize")
  excerpt := ({} : ExcerptSettings).replaced (given "extract")
  grouping := ({} : GroupingSettings).replaced (given "aggregate")
  schedule := ({} : ScheduleSettings).replaced (given "orchestrate")
  retention := ({} : RetentionSettings).replaced (given "cache")

/-- The value under a name among the entries of a section, read as one of its kind. -/
def valueIn? (root : Node) (kinds : List (Text × SettingKind)) (fields : List (Text × Node))
    (name : Text) : Option SettingValue := do
  let kind ← kinds.lookup name
  kind.read? root (← fields.lookup name)

/-- The value that a document gives under a heading and a name. -/
def given? (root : Node) (heading name : Text) : Option SettingValue := do
  let kinds ← sections.lookup heading
  let node ← (← root.entries? root).lookup heading
  valueIn? root kinds (← root.entries? node) name

/-- Whether a node is a mapping in which every field of a section has a value of its kind. -/
def IsSection (root : Node) (kinds : List (Text × SettingKind)) : Node → Prop :=
  root.IsRecord fun name node =>
    ∀ kind, kinds.lookup name = some kind → (kind.read? root node).isSome = true

/-- Whether a document is a mapping with mappings for sections, in which every field has a value of
its kind. Other entries may stand in the document and in its sections. -/
def IsProper (root : Node) : Prop :=
  root.IsRecord (fun heading node =>
    ∀ kinds, sections.lookup heading = some kinds → IsSection root kinds node) root

end Settings
end CodeWiki
