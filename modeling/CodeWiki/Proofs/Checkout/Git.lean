import CodeWiki.Checkout.Git
import CodeWiki.Proofs.Text.Trim

/-! What is fetched with the program `git`. There is something to read just after a clone that has
ended in success, and the commit is named as the program names it, or not at all. -/
namespace CodeWiki.Git

variable {settings : CheckoutSettings} {program : Program} {ended : ProcessEnd}
  {directory time reference url revision : Text} {files : Snapshot} {origin : Origin}

theorem cloneResult_eq_ok_iff (settings : CheckoutSettings) :
    cloneResult settings ended = .ok () ↔ ∃ output errors, ended = .exited true output errors := by
  constructor
  · intro succeeded
    cases ended with
    | notFound | notStarted | timedOut => cases succeeded
    | exited success output errors =>
      cases success with
      | false => cases succeeded
      | true => exact ⟨output, errors, rfl⟩
  · rintro ⟨output, errors, rfl⟩
    rfl

/-- A revision is what the program has written but for the white space around it; nothing is
none. -/
theorem revision?_eq_some_iff : revision? ended = some revision ↔
    revision ≠ [] ∧ ∃ output errors, ended = .exited true output errors ∧
      revision = Text.trim (Utf8.decodeLossy output) := by
  constructor
  · intro named
    unfold revision? at named
    split at named
    · rename_i output errors
      dsimp only at named
      split at named
      · cases named
      · rename_i occupied
        obtain rfl := Option.some.inj named
        exact ⟨fun blank => occupied (List.isEmpty_iff.mpr blank), output, errors, rfl, rfl⟩
    · cases named
  · rintro ⟨occupied, output, errors, rfl, rfl⟩
    exact if_neg fun blank => occupied (List.isEmpty_iff.mp blank)

theorem trim_failureMessage (output errors : Bytes) :
    Text.trim (failureMessage output errors) = failureMessage output errors := by
  unfold failureMessage
  dsimp only
  split <;> exact Text.trimWhile_trimWhile _ _

/-- The error of a clone is the program's, never one of the reference or of what has been cloned. -/
theorem cloneResult_error {e : CheckoutError} (failed : cloneResult settings ended = .error e) :
    e ≠ .noEligibleFiles ∧ ∀ reference, e ≠ .invalidReference reference := by
  cases ended with
  | notFound | notStarted | timedOut =>
    cases failed
    exact ⟨nofun, nofun⟩
  | exited success output errors =>
    cases success with
    | true => cases failed
    | false =>
      cases failed
      exact ⟨nofun, nofun⟩

/-- A repository is read just if the program has cloned it and there are eligible files in what it
left. -/
theorem read_fetcher_iff : Checkout.read settings time reference url
      (fetcher program directory settings url) = .ok (files, origin) ↔
    (∃ output errors, program.run (cloneArguments url directory) = .exited true output errors) ∧
    Checkout.collect settings (program.tree url) = .ok files ∧
    origin = Checkout.origin time reference url
      (revision? (program.run (revisionArguments directory))) files := by
  rw [← cloneResult_eq_ok_iff settings]
  unfold Checkout.read fetcher
  cases cloneResult settings (program.run (cloneArguments url directory)) with
  | error e => exact ⟨nofun, fun ⟨cloned, _⟩ => nomatch cloned⟩
  | ok cloned =>
    change (Checkout.collect settings (program.tree url)).bind (fun files => .ok (files, _)) = _ ↔ _
    cases Checkout.collect settings (program.tree url) with
    | error e => exact ⟨nofun, fun ⟨_, collected, _⟩ => nomatch collected⟩
    | ok found =>
      constructor
      · rintro ⟨⟩
        exact ⟨rfl, rfl, rfl⟩
      · rintro ⟨-, ⟨⟩, rfl⟩
        rfl

end CodeWiki.Git
