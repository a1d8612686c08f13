import CodeWiki.Settings.Basic
import CodeWiki.Text.Utf8
import CodeWiki.Yaml.Node.Reader
import CodeWiki.Yaml.Record

/-!
Settings from a file. Whatever the file does not give keeps its default value.
-/
namespace CodeWiki

open Yaml (Node Member)

namespace CheckoutSettings

def members (root : Node) : List (Member CheckoutSettings) := [
  .of "max_files" (root.natural? UInt64.size) fun n s => { s with maxFiles := n },
  .of "max_file_bytes" (root.natural? UInt64.size) fun n s => { s with maxFileBytes := n },
  .of "clone_timeout_secs" (root.natural? UInt64.size) fun n s => { s with cloneTimeoutSecs := n },
  .of "revision_timeout_secs" (root.natural? UInt64.size) fun n s =>
    { s with revisionTimeoutSecs := n },
  .of "extensions" root.texts? fun extensions s => { s with extensions },
  .of "ignore" root.texts? fun ignore s => { s with ignore }]

end CheckoutSettings

namespace ExcerptSettings

def members (root : Node) : List (Member ExcerptSettings) := [
  .of "signature_threshold" (root.natural? UInt64.size) fun n s =>
    { s with signatureThreshold := n },
  .of "signature_cap" (root.natural? UInt64.size) fun n s => { s with signatureCap := n },
  .of "excerpt_lines" (root.natural? UInt64.size) fun n s => { s with excerptLines := n }]

end ExcerptSettings

namespace GroupingSettings

def members (root : Node) : List (Member GroupingSettings) := [
  .of "root_recluster_threshold" (root.natural? UInt64.size) fun n s =>
    { s with rootThreshold := n },
  .of "files_per_module" (root.natural? UInt64.size) fun n s => { s with filesPerModule := n },
  .of "max_module_chars" (root.natural? UInt64.size) fun n s => { s with maxModuleChars := n },
  .of "overview_path_sample" (root.natural? UInt64.size) fun n s => { s with pathSample := n }]

end GroupingSettings

namespace ScheduleSettings

/-- The members of these settings. The temperature is read in double precision and then rounded. -/
def members (root : Node) : List (Member ScheduleSettings) := [
  .of "max_attempts" (root.natural? UInt32.size) fun n s => { s with maxAttempts := n },
  .of "rate_limit_backoff_secs" root.double? fun x s => { s with backoffSecs := x },
  .of "default_parallelism" (root.natural? UInt64.size) fun n s =>
    { s with defaultParallelism := n },
  .of "request_timeout_secs" (root.natural? UInt64.size) fun n s =>
    { s with requestTimeoutSecs := n },
  .of "temperature" root.double? fun x s =>
    { s with temperature := FloatFormat.single.convert x }]

end ScheduleSettings

namespace RetentionSettings

def members (root : Node) : List (Member RetentionSettings) := [
  .of "ttl_secs" (root.natural? UInt64.size) fun n s => { s with lifetimeSecs := n },
  .of "capacity" (root.natural? UInt64.size) fun n s => { s with capacity := n }]

end RetentionSettings

namespace Settings

def members (root : Node) : List (Member Settings) := [
  ⟨"materialize", fun node s => do
    some { s with
      checkout := ← Member.readRecord? root (CheckoutSettings.members root) node s.checkout }⟩,
  ⟨"extract", fun node s => do
    some { s with
      excerpt := ← Member.readRecord? root (ExcerptSettings.members root) node s.excerpt }⟩,
  ⟨"aggregate", fun node s => do
    some { s with
      grouping := ← Member.readRecord? root (GroupingSettings.members root) node s.grouping }⟩,
  ⟨"orchestrate", fun node s => do
    some { s with
      schedule := ← Member.readRecord? root (ScheduleSettings.members root) node s.schedule }⟩,
  ⟨"cache", fun node s => do
    some { s with
      retention := ← Member.readRecord? root (RetentionSettings.members root) node s.retention }⟩]

def ofNode? (root : Node) : Option Settings := Member.readRecord? root (members root) root {}

/-- The settings that a document describes, if it describes any and they can drive a run. -/
def ofNode (root : Node) : Except SettingsError Settings :=
  match ofNode? root with
  | some settings => settings.check
  | none => .error .malformed

/-- The settings that a text describes; a blank text leaves all defaults. -/
def ofText (t : Text) : Except SettingsError Settings :=
  if Text.isBlank t then .ok {}
  else match Node.ofText? t with
    | some root => ofNode root
    | none => .error .malformed

/-- Why bytes that are no text cannot be read. -/
def notText : Text := "stream did not contain valid UTF-8"

/-- The settings in the file at `path`, given what reading it comes to: bytes, or the reason why
there are none. -/
def ofFile (path : Text) (content : Except Text Bytes) : Except SettingsError Settings :=
  match content with
  | .error reason => .error (.unreadable path reason)
  | .ok bytes =>
    match Utf8.decode? bytes with
    | some t => ofText t
    | none => .error (.unreadable path notText)

end Settings
end CodeWiki
