import CodeWiki.Proofs.Schedule.Progress
import CodeWiki.Proofs.Text.Cut
import CodeWiki.Proofs.Text.LetterCase

/-! Responses that throttle a task. Besides the status it is the body that decides. The message puts
a wording, a colon and a blank in front of it; no mark of throttling is in the wording, and none
reaches over a colon or begins with a blank. -/
namespace CodeWiki.CompletionError

variable {mark wording body : Text} {status : Nat}

/-- The texts that tell throttling, in lower case. -/
def throttlingMarks : List Text := ["rate limit", "429"]

/-- Whether a response should count as throttled: by its status, or by what its body says in letters
of either case. -/
def TellsThrottling (status : Nat) (body : Text) : Prop :=
  status = 429 ∨ "rate limit".toList <:+: Text.toLower body ∨ "429".toList <:+: Text.toLower body

theorem speaksOfThrottling_iff : speaksOfThrottling body = true ↔
    "rate limit".toList <:+: Text.toLower body ∨ "429".toList <:+: Text.toLower body := by
  rw [speaksOfThrottling, Bool.or_eq_true, Text.hasPart_iff, Text.hasPart_iff]

/-! ### What a message puts in front of a body -/

/-- The wording of a message in lower case, up to the colon. -/
def wordingOf (status : Nat) : Text :=
  if status = 401 ∨ status = 403 then "authentication failed"
  else "http".toList ++ ' ' :: Text.ofNat status

theorem message_authentication (body : Text) :
    (authentication body).message = "Authentication failed:".toList ++ ' ' :: body := by
  have whole : (authentication body).message = "Authentication failed: ".toList ++ body := rfl
  have wording :
    "Authentication failed: ".toList = "Authentication failed:".toList ++ [' '] := by decide
  rw [whole, wording, List.append_assoc, List.singleton_append]

theorem message_http (status : Nat) (body : Text) :
    (http status body).message =
      "HTTP".toList ++ ' ' :: (Text.ofNat status ++ [':'] ++ ' ' :: body) := by
  have whole : (http status body).message =
    "HTTP ".toList ++ Text.ofNat status ++ ": ".toList ++ body := rfl
  simp [whole]

theorem isDigit_of_mem_ofNat {c : Char} (member : c ∈ Text.ofNat status) : c.isDigit = true :=
  Nat.isDigit_of_mem_toDigits (by decide) (by decide) member

theorem toLower_message (other : status ≠ 429) (body : Text) :
    Text.toLower (ofStatus status body).message =
      wordingOf status ++ ':' :: ' ' :: Text.toLower body := by
  rw [ofStatus, if_neg other, wordingOf]
  by_cases refused : status = 401 ∨ status = 403
  · have lowered :
        Text.toLower "Authentication failed:" = "authentication failed".toList ++ [':'] := by
      decide
    rw [if_pos (by simpa using refused), if_pos refused, message_authentication,
      Text.toLower_append_blank, lowered, List.append_assoc]
    rfl
  · have lowered : Text.toLower "HTTP" = "http" := by decide
    have colon : Unicode.lower ':' = [':'] := by decide
    have number : Text.toLower (Text.ofNat status ++ [':']) = Text.ofNat status ++ [':'] := by
      refine Text.toLower_of_lower fun c member => ?_
      rcases List.mem_append.mp member with digit | last
      · exact (Unicode.lower_of_isDigit (isDigit_of_mem_ofNat digit)).2
      · rw [List.mem_singleton.mp last, colon]
    rw [if_neg (by simpa using refused), if_neg refused, message_http, Text.toLower_append_blank,
      Text.toLower_append_blank, lowered, number, List.append_assoc, List.append_assoc]
    rfl

/-- A number of at most three digits with the digits of `429` in it is this number. -/
theorem eq_of_infix_ofNat (fits : status < 1000) (found : "429".toList <:+: Text.ofNat status) :
    status = 429 := by
  have short : (Text.ofNat status).length ≤ 3 :=
    (Nat.length_toDigits_le_iff (by decide) (by decide)).mpr fits
  have whole : "429".toList = Text.ofNat status := found.eq_of_length_le short
  have values := congrArg (fun t => Nat.ofDigitChars 10 t 0) whole
  rw [Text.ofNat, Nat.ofDigitChars_ten_toDigits] at values
  exact values.symm

theorem unmarked_wordingOf (fits : status < 1000) (other : status ≠ 429) :
    ∀ mark ∈ throttlingMarks, ¬ mark <:+: wordingOf status := by
  unfold wordingOf
  split
  · decide +kernel
  · intro mark member found
    rcases List.mem_pair.mp member with rfl | rfl
    · have letter : 'r' ∈ "http".toList ++ ' ' :: Text.ofNat status := found.subset (by decide)
      rcases List.mem_append.mp letter with early | late
      · exact absurd early (by decide)
      · rcases List.mem_cons.mp late with blank | digit
        · exact absurd blank (by decide)
        · exact absurd (isDigit_of_mem_ofNat digit) (by decide)
    · rcases (Text.infix_append_iff (by decide)).mp found with early | late
      · exact absurd early (by decide)
      · exact other (eq_of_infix_ofNat fits late)

theorem infix_framed_iff (absent : ¬ mark <:+: wording) (noColon : ':' ∉ mark)
    (solid : mark.head? ≠ some ' ') (body : Text) :
    mark <:+: wording ++ ':' :: ' ' :: body ↔ mark <:+: body := by
  have behindBlank : ¬ mark <+: ' ' :: body := by
    rintro ⟨rest, whole⟩
    cases mark with
    | nil => exact absent List.nil_infix
    | cons c mark =>
      obtain ⟨rfl, -⟩ := List.cons.inj whole
      exact solid rfl
  rw [Text.infix_append_iff noColon, or_iff_right absent, List.infix_cons_iff,
    or_iff_right behindBlank]

/-! ### Throttling -/

theorem infix_message_iff (fits : status < 1000) (other : status ≠ 429)
    (member : mark ∈ throttlingMarks) (body : Text) :
    mark <:+: Text.toLower (ofStatus status body).message ↔ mark <:+: Text.toLower body := by
  have solid : ∀ mark ∈ throttlingMarks, ':' ∉ mark ∧ mark.head? ≠ some ' ' := by decide
  obtain ⟨noColon, begins⟩ := solid mark member
  rw [toLower_message other]
  exact infix_framed_iff (unmarked_wordingOf fits other mark member) noColon begins _

theorem isRateLimited_ofStatus_iff (fits : status < 1000) (body : Text) :
    (ofStatus status body).isRateLimited = true ↔ TellsThrottling status body := by
  by_cases throttled : status = 429
  · rw [ofStatus, if_pos throttled]
    exact iff_of_true rfl (Or.inl throttled)
  · have byMessage : (ofStatus status body).isRateLimited =
        speaksOfThrottling (ofStatus status body).message := by
      rw [ofStatus, if_neg throttled]
      split <;> rfl
    rw [byMessage, speaksOfThrottling_iff, TellsThrottling, or_iff_right throttled,
      infix_message_iff fits throttled List.mem_cons_self,
      infix_message_iff fits throttled (List.mem_cons_of_mem _ List.mem_cons_self)]

/-- An error response throttles just if its status or its body says so, and then the task is tried
again as long as attempts are left. Each mark is in the message just if it is in the body. -/
theorem response_throttles_iff (fits : status < 1000) (body : Text) :
    ((ofStatus status body).isRateLimited = true ↔
      status = 429 ∨ "rate limit".toList <:+: Text.toLower body ∨
        "429".toList <:+: Text.toLower body) ∧
    (∀ attempts subject attempt,
      Outcome.after? attempts subject attempt (.failure (ofStatus status body)) = none ↔
        TellsThrottling status body ∧ attempt < attempts) ∧
    (status ≠ 429 → ∀ mark ∈ throttlingMarks,
      (mark <:+: Text.toLower (ofStatus status body).message ↔ mark <:+: Text.toLower body)) := by
  refine ⟨isRateLimited_ofStatus_iff fits body, fun attempts subject attempt => ?_,
    fun other mark member => ?_⟩
  · rw [Schedule.Interleaving.after?_eq_none_iff, Reply.isRateLimited,
      isRateLimited_ofStatus_iff fits]
  · exact infix_message_iff fits other member body

/-- The digits of a status do not run into those of a body. A refusal may still speak of
throttling. -/
theorem digits_around_colon :
    (942 < 1000 ∧ 942 ≠ 429 ∧ "429".toList ∈ throttlingMarks) ∧
      (ofStatus 942 "9 left").isRateLimited = false ∧
      ¬ "429".toList <:+: Text.toLower (ofStatus 942 "9 left").message ∧
      (403 < 1000 ∧ (ofStatus 403 "Σ: RATE LIMIT").isRateLimited = true ∧
        Outcome.after? 3 .overview 2 (.failure (ofStatus 403 "Σ: RATE LIMIT")) = none) := by
  obtain ⟨limited, -, framed⟩ := response_throttles_iff (by decide : 942 < 1000) "9 left"
  obtain ⟨refused, again, -⟩ := response_throttles_iff (by decide : 403 < 1000) "Σ: RATE LIMIT"
  have silent : ¬ (942 = 429 ∨ "rate limit".toList <:+: Text.toLower "9 left" ∨
      "429".toList <:+: Text.toLower "9 left") := by
    decide +kernel
  have told : "rate limit".toList <:+: Text.toLower "Σ: RATE LIMIT" := by decide +kernel
  have listed : "429".toList ∈ throttlingMarks := by decide
  refine ⟨⟨by decide, by decide, listed⟩, ?_, ?_, by decide, ?_, ?_⟩
  · exact Bool.eq_false_iff.mpr (mt limited.mp silent)
  · exact fun found => silent (Or.inr (Or.inr ((framed (by decide) _ listed).mp found)))
  · exact refused.mpr (Or.inr (Or.inl told))
  · exact (again 3 .overview 2).mpr ⟨Or.inr (Or.inl told), by decide⟩

end CodeWiki.CompletionError
