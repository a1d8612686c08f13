import CodeWiki.Checkout.Basic

/-! What is read from a checkout. The reference and the time only show in the origin of the
files. -/
namespace CodeWiki

/-- The origin of the same files for another reference and at another time. -/
def Origin.reissue (reference time : Text) (origin : Origin) : Origin :=
  { origin with reference, generatedAt := time }

namespace Checkout

variable {settings : CheckoutSettings} {time reference url : Text} {checkout : Checkout}
  {files : Snapshot} {origin : Origin}

theorem origin_of_read (read : read settings time reference url checkout = .ok (files, origin)) :
    origin = ⟨reference, Reference.slug url, checkout.revision, time, files.size⟩ := by
  unfold Checkout.read at read
  cases tree : checkout.tree with
  | error e => simp [tree, bind, Except.bind] at read
  | ok tree =>
    simp only [tree, bind, Except.bind] at read
    split at read
    · cases read
    · cases read
      rfl

theorem read_again (settings : CheckoutSettings) (time reference time' reference' url : Text)
    (checkout : Checkout) :
    read settings time' reference' url checkout =
      (read settings time reference url checkout).map fun (files, origin) =>
        (files, origin.reissue reference' time') := by
  unfold read
  cases checkout.tree with
  | error e => rfl
  | ok tree =>
    simp only [bind, Except.bind]
    split <;> rfl

/-! ### The work in the scratch directory -/

/-- What is done for a clone that comes to `tree` and a reading that comes to `outcome`. -/
def stageActs {α : Type} (url : Text) (tree : Except CheckoutError α)
    (outcome : Except CheckoutError (Snapshot × Origin)) : List Act :=
  .cloned url :: ((if tree.isOk then [.collected] else []) ++
    if outcome.isOk then [.askedRevision] else [])

/-- The work comes to what can be read, whatever happens around it, and asks only what it needs. -/
theorem stage_run (settings : CheckoutSettings) (time reference url : Text) (checkout : Checkout)
    (around : Scratch.Surroundings) (scene : Scene) :
    (stage settings time reference url checkout around).run.run scene =
      (read settings time reference url checkout,
        ⟨around.before, scene.acts ++
          stageActs url checkout.tree (read settings time reference url checkout)⟩) := by
  obtain ⟨tree, revision⟩ := checkout
  cases tree with
  | error e => rfl
  | ok tree =>
    have comes : read settings time reference url ⟨.ok tree, revision⟩ =
        (collect settings tree).bind fun files =>
          .ok (files, Checkout.origin time reference url revision files) := rfl
    have worked : (stage settings time reference url ⟨.ok tree, revision⟩ around).run.run scene =
        (do
          let files ← ExceptT.mk (pure (collect settings tree))
          perform .askedRevision id
          return (files, Checkout.origin time reference url revision files) :
          ExceptT CheckoutError (StateM Scene) (Snapshot × Origin)).run.run
          ⟨around.before, scene.acts ++ [.cloned url] ++ [.collected]⟩ := rfl
    rw [comes, worked, List.append_assoc]
    cases collect settings tree with
    | error e => rfl
    | ok files =>
      change (Except.ok _, Scene.mk _ (scene.acts ++ _ ++ [.askedRevision])) = _
      rw [List.append_assoc]
      rfl

/-- The directory is made before the work and removed after it, on all paths alike. -/
theorem materialize_run (time : Text) (fetcher : Fetcher) {around : Scratch.Surroundings}
    (known : Reference.cloneUrl? reference = some url) (admitted : around.refusal = none)
    (scene : Scene) :
    (materialize settings time fetcher around reference).run scene =
      (read settings time reference url (fetcher url),
        ⟨(Scratch.removeWithRetries around around.before).left, scene.acts ++ .created ::
          stageActs url (fetcher url).tree (read settings time reference url (fetcher url)) ++
            [.removed (Scratch.removeWithRetries around around.before)]⟩) := by
  have worked := stage_run settings time reference url (fetcher url) around
    ⟨.directory [], scene.acts ++ [.created]⟩
  have whole : (materialize settings time fetcher around reference).run scene =
      (let worked := (stage settings time reference url (fetcher url) around).run.run
        ⟨.directory [], scene.acts ++ [.created]⟩
      let removal := Scratch.removeWithRetries around worked.2.occupant
      (worked.1, ⟨removal.left, worked.2.acts ++ [.removed removal]⟩)) := by
    rw [materialize, known, admitted]
    rfl
  rw [whole, worked]
  simp only [List.append_assoc, List.cons_append, List.nil_append]

theorem materialize_run_of_unknown (settings : CheckoutSettings) (time : Text) (fetcher : Fetcher)
    (around : Scratch.Surroundings) (unknown : Reference.cloneUrl? reference = none)
    (scene : Scene) : (materialize settings time fetcher around reference).run scene =
      (.error (.invalidReference reference), scene) := by
  rw [materialize, unknown]
  rfl

/-- Without a directory nothing is done at all. -/
theorem materialize_run_of_refused (settings : CheckoutSettings) (time : Text) (fetcher : Fetcher)
    {around : Scratch.Surroundings} {reason : Text}
    (known : Reference.cloneUrl? reference = some url) (refused : around.refusal = some reason)
    (scene : Scene) :
    (materialize settings time fetcher around reference).run scene =
      (.error (.io reason), scene) := by
  rw [materialize, known, refused]
  rfl

theorem fetch_of_unknown (settings : CheckoutSettings) (time : Text) (fetcher : Fetcher)
    (around : Scratch.Surroundings) (unknown : Reference.cloneUrl? reference = none) :
    fetch settings time fetcher around reference =
      ⟨.error (.invalidReference reference), none, .nothing⟩ := by
  rw [fetch, materialize_run_of_unknown settings time fetcher around unknown]
  rfl

theorem fetch_of_refused (settings : CheckoutSettings) (time : Text) (fetcher : Fetcher)
    {around : Scratch.Surroundings} {reason : Text}
    (known : Reference.cloneUrl? reference = some url) (refused : around.refusal = some reason) :
    fetch settings time fetcher around reference = ⟨.error (.io reason), none, .nothing⟩ := by
  rw [fetch, materialize_run_of_refused settings time fetcher known refused]
  rfl

theorem fetch_of_admitted (settings : CheckoutSettings) (time : Text) (fetcher : Fetcher)
    {around : Scratch.Surroundings} (known : Reference.cloneUrl? reference = some url)
    (admitted : around.refusal = none) :
    fetch settings time fetcher around reference = {
      outcome := read settings time reference url (fetcher url)
      cloned := some url
      scratch := (Scratch.removeWithRetries around around.before).left } := by
  rw [fetch, materialize_run time fetcher known admitted]
  rfl

/-- A repository of one file. -/
def single : Checkout where
  tree := .ok (some (.directory [(Utf8.encode "a.py", .file (Utf8.encode "x"))]))
  revision := none

theorem read_single (time reference url : Text) :
    read {} time reference url single =
      .ok (Snapshot.ofList [("a.py", "x")], ⟨reference, Reference.slug url, none, time, 1⟩) := by
  have only : FileTree.sourceFiles {} []
      (.directory [(Utf8.encode "a.py", .file (Utf8.encode "x"))]) =
        [([Utf8.encode "a.py"], Utf8.encode "x")] := by
    simp [FileTree.sourceFiles, FileTree.entryFiles]
  have files : FileTree.snapshot {} (.directory [(Utf8.encode "a.py", .file (Utf8.encode "x"))]) =
      Snapshot.ofList [("a.py", "x")] := by
    rw [FileTree.snapshot, only]
    decide
  have found : collect {} (some (.directory [(Utf8.encode "a.py", .file (Utf8.encode "x"))])) =
      .ok (Snapshot.ofList [("a.py", "x")]) := by
    simp only [collect, Option.map_some, Option.getD_some, files]
    rfl
  exact congrArg
    (Except.bind · fun files => .ok (files, Checkout.origin time reference url none files)) found

end Checkout
end CodeWiki
