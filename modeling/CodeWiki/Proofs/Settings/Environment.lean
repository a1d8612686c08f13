import CodeWiki.Proofs.Credential
import CodeWiki.Settings.Environment

/-! Accounts from the environment. The keys in a list reach the pool of credentials as they are. The
variable for a single key stands in for a list that is blank, but not for one of blank entries
between commas. -/
namespace CodeWiki.Account

open Credential (splitList)

variable {lookup : Text → Option Text} {account : Account} {groq gemini : List Text}

theorem allKeys_described_eq_nil_iff : (described lookup).allKeys = [] ↔
    ¬ HasKey (groqValue lookup) ∧ ¬ HasKey (lookup "GOOGLE_API_KEY") := by
  rw [allKeys, List.append_eq_nil_iff, Credential.hasKey_iff, Credential.hasKey_iff, not_not,
    not_not]
  rfl

theorem ofEnvironment_eq_error_iff : ofEnvironment lookup = .error .noCredentials ↔
    ¬ HasKey (groqValue lookup) ∧ ¬ HasKey (lookup "GOOGLE_API_KEY") := by
  rw [← allKeys_described_eq_nil_iff, ofEnvironment, ← List.isEmpty_iff]
  split
  · rename_i empty
    exact iff_of_true rfl empty
  · rename_i occupied
    exact iff_of_false nofun occupied

theorem ofEnvironment_eq_ok (occupied : (described lookup).allKeys ≠ []) :
    ofEnvironment lookup = .ok (described lookup) := by
  rw [ofEnvironment, if_neg (by simpa using occupied)]

theorem eq_described (found : ofEnvironment lookup = .ok account) : account = described lookup := by
  rw [ofEnvironment] at found
  split at found
  · cases found
  · exact (Except.ok.inj found).symm

/-! ### A single key instead of a list -/

theorem groqValue_of_hasKey (listed : HasKey (lookup "GROQ_API_KEYS")) :
    groqValue lookup = lookup "GROQ_API_KEYS" := by
  obtain ⟨t, given, entry⟩ := listed
  have visible : Text.isBlank t ≠ true := fun white =>
    Credential.not_hasKey_of_isBlank white ⟨t, rfl, entry⟩
  simp only [groqValue, given, if_neg visible]

theorem groqValue_of_isBarren (barren : IsBarren (lookup "GROQ_API_KEYS")) :
    groqValue lookup = lookup "GROQ_API_KEYS" := by
  obtain ⟨⟨t, given, visible⟩, -⟩ := barren
  simp only [groqValue, given, visible, Bool.false_eq_true, if_false]

theorem groqValue_of_not_isBarren (unlisted : ¬ HasKey (lookup "GROQ_API_KEYS"))
    (fruitful : ¬ IsBarren (lookup "GROQ_API_KEYS")) :
    groqValue lookup = lookup "GROQ_API_KEY" := by
  cases given : lookup "GROQ_API_KEYS" with
  | none => simp only [groqValue, given]
  | some t =>
    have white : Text.isBlank t = true := by
      by_contra visible
      exact fruitful ⟨⟨t, given, Bool.eq_false_iff.mpr visible⟩, unlisted⟩
    simp only [groqValue, given, if_pos white]

theorem hasKey_groqValue_iff : HasKey (groqValue lookup) ↔ HasKey (lookup "GROQ_API_KEYS") ∨
    ¬ IsBarren (lookup "GROQ_API_KEYS") ∧ HasKey (lookup "GROQ_API_KEY") := by
  by_cases listed : HasKey (lookup "GROQ_API_KEYS")
  · rw [groqValue_of_hasKey listed]
    exact iff_of_true listed (Or.inl listed)
  · by_cases barren : IsBarren (lookup "GROQ_API_KEYS")
    · rw [groqValue_of_isBarren barren]
      exact iff_of_false listed fun either => either.elim listed fun fruitful => fruitful.1 barren
    · rw [groqValue_of_not_isBarren listed barren]
      exact ⟨fun single => Or.inr ⟨barren, single⟩,
        fun either => either.elim (absurd · listed) And.right⟩

/-- There are no credentials just if no key is in the lists that are read; the single key is read
unless the list for Groq has a key or is barren. So a missing key is reported when all three
variables are without one, and a single key takes the place of a list without one, just if the list
is not barren beside a single key. -/
theorem single_key_stands_in_iff (lookup : Text → Option Text) :
    ((∃ account, ofEnvironment lookup = .ok account) ∨
      ofEnvironment lookup = .error .noCredentials) ∧
    (ofEnvironment lookup = .error .noCredentials ↔
      ¬ HasKey (lookup "GROQ_API_KEYS") ∧ ¬ HasKey (lookup "GOOGLE_API_KEY") ∧
        (HasKey (lookup "GROQ_API_KEY") → IsBarren (lookup "GROQ_API_KEYS"))) ∧
    ((ofEnvironment lookup = .error .noCredentials ↔
        ¬ HasKey (lookup "GROQ_API_KEYS") ∧ ¬ HasKey (lookup "GROQ_API_KEY") ∧
          ¬ HasKey (lookup "GOOGLE_API_KEY")) ∧
      (¬ HasKey (lookup "GROQ_API_KEYS") → ∀ account, ofEnvironment lookup = .ok account →
        account.groqKeys = splitList ((lookup "GROQ_API_KEY").getD [])) ↔
      ¬ (IsBarren (lookup "GROQ_API_KEYS") ∧ HasKey (lookup "GROQ_API_KEY"))) := by
  have fails : ofEnvironment lookup = .error .noCredentials ↔
      ¬ HasKey (lookup "GROQ_API_KEYS") ∧ ¬ HasKey (lookup "GOOGLE_API_KEY") ∧
        (HasKey (lookup "GROQ_API_KEY") → IsBarren (lookup "GROQ_API_KEYS")) := by
    rw [ofEnvironment_eq_error_iff, hasKey_groqValue_iff, not_or, and_assoc, not_and, not_imp_not]
    exact and_congr_right fun _ => and_comm
  refine ⟨?_, fails, ?_⟩
  · by_cases empty : (described lookup).allKeys = []
    · exact Or.inr (ofEnvironment_eq_error_iff.mpr (allKeys_described_eq_nil_iff.mp empty))
    · exact Or.inl ⟨_, ofEnvironment_eq_ok empty⟩
  · constructor
    · rintro ⟨reported, replaced⟩ ⟨barren, single⟩
      by_cases google : HasKey (lookup "GOOGLE_API_KEY")
      · -- the account has keys, but the single one is not among them
        have found : (described lookup).allKeys ≠ [] := fun empty =>
          (allKeys_described_eq_nil_iff.mp empty).2 google
        have keys := replaced barren.2 _ (ofEnvironment_eq_ok found)
        rw [described, groqValue_of_isBarren barren] at keys
        rw [Credential.hasKey_iff, ← keys] at single
        exact barren.2 (Credential.hasKey_iff.mpr single)
      · exact (reported.mp (fails.mpr ⟨barren.2, google, fun _ => barren⟩)).2.1 single
    · intro apart
      refine ⟨?_, fun unlisted account found => ?_⟩
      · refine fails.trans (and_congr_right fun unlisted => and_comm.trans
          (and_congr_left fun _ => ?_))
        exact ⟨fun hidden single => apart ⟨hidden single, single⟩,
          fun none single => absurd single none⟩
      · rw [eq_described found, described]
        by_cases barren : IsBarren (lookup "GROQ_API_KEYS")
        · have none := (not_congr Credential.hasKey_iff).mp fun single => apart ⟨barren, single⟩
          have none' := (not_congr Credential.hasKey_iff).mp barren.2
          rw [groqValue_of_isBarren barren, not_not.mp none, not_not.mp none']
        · rw [groqValue_of_not_isBarren unlisted barren]

/-- The environment in which just the given variables are set. -/
def onlySet (given : List (Text × Text)) (name : Text) : Option Text := given.lookup name

/-- A comma alone in the list keeps the single key from being read. -/
theorem comma_hides_single_key :
    ofEnvironment (onlySet [("GROQ_API_KEYS", ","), ("GROQ_API_KEY", "gsk_a")]) =
        .error .noCredentials ∧
      HasKey (some "gsk_a".toList) := by
  constructor
  · rfl
  · exact ⟨"gsk_a", rfl, "gsk_a", by decide, by decide⟩

/-! ### From the environment to the pool -/

/-- Keys that are written as lists in the environment, in whatever way, make up the pool: those for
Groq first, each list in its order. A key belongs to Groq just if it has the mark of Groq, and the
tasks get the keys in turn. A variable that is not set counts as an empty text. -/
theorem pool_ofEnvironment (lookup : Text → Option Text)
    (listed : Lists groq ((lookup "GROQ_API_KEYS").getD [])) (unset : lookup "GROQ_API_KEY" = none)
    (listed' : Lists gemini ((lookup "GOOGLE_API_KEY").getD []))
    (occupied : ¬ (groq = [] ∧ gemini = [])) :
    ∃ account pool, ofEnvironment lookup = .ok account ∧ account.pool = .ok pool ∧
      pool.keys.map Credential.secret = groq ++ gemini ∧
      (∀ key ∈ pool.keys, key.backend = .groq ↔ "gsk_".toList <+: key.secret) ∧
      0 < groq.length + gemini.length ∧
      ∀ i, (groq ++ gemini)[i % (groq.length + gemini.length)]? =
        some (pool.roundRobin i).secret := by
  have value : splitList ((groqValue lookup).getD []) = groq := by
    by_cases found : HasKey (lookup "GROQ_API_KEYS") ∨ IsBarren (lookup "GROQ_API_KEYS")
    · have same := found.elim groqValue_of_hasKey groqValue_of_isBarren
      rw [same, Credential.splitList_of_lists listed]
    · obtain ⟨unlisted, fruitful⟩ := not_or.mp found
      rw [groqValue_of_not_isBarren unlisted fruitful, unset,
        ← Credential.splitList_of_lists listed,
        not_not.mp ((not_congr Credential.hasKey_iff).mp unlisted)]
      rfl
  have keys : (described lookup).allKeys = groq ++ gemini := by
    rw [allKeys, described, value, Credential.splitList_of_lists listed']
  have present : groq ++ gemini ≠ [] := by simpa using occupied
  have secrets : ∀ secret ∈ groq ++ gemini, IsSecret secret := fun secret member =>
    (List.mem_append.mp member).elim (listed.isSecret secret) (listed'.isSecret secret)
  obtain ⟨pool, built, kept⟩ := KeyPool.exists_ofSecrets? secrets present
  refine ⟨described lookup, pool, ofEnvironment_eq_ok (keys ▸ present), ?_, kept,
    fun key _ => key.backend_eq_groq_iff, ?_, fun i => ?_⟩
  · simp only [Account.pool, keys, built]
  · rw [← List.length_append]
    exact List.length_pos_of_ne_nil present
  · rw [← List.length_append]
    exact KeyPool.getElem?_roundRobin kept i

/-- Three keys in two lists with blanks, tabs, line ends and empty entries: the fifth task gets the
second. -/
theorem spaced_keys_dealt_out :
    Lists ["gsk_a".toList, "b".toList] " gsk_a ,,\u3000b" ∧ Lists ["gsk_c".toList] "\t,gsk_c\n" ∧
      ∃ account pool, ofEnvironment (onlySet
          [("GROQ_API_KEYS", " gsk_a ,,\u3000b"), ("GOOGLE_API_KEY", "\t,gsk_c\n")]) = .ok account ∧
        account.pool = .ok pool ∧
        pool.keys.map Credential.secret = ["gsk_a".toList, "b".toList, "gsk_c".toList] ∧
        (pool.roundRobin 4).secret = "b".toList := by
  have secret : ∀ t : Text, t ≠ [] → Text.trim t = t → ',' ∉ t → IsSecret t := fun _ => IsSecret.mk
  have listed : Lists ["gsk_a".toList, "b".toList] " gsk_a ,,\u3000b" :=
    .entries [.key " " "gsk_a" " ", .blank "", .key "\u3000" "b" ""] (by
      simp only [List.forall_mem_cons, List.not_mem_nil, false_implies, implies_true, and_true]
      exact ⟨.key (by decide) (secret _ (by decide) (by decide) (by decide)) (by decide),
        .blank (by decide),
        .key (by decide) (secret _ (by decide) (by decide) (by decide)) (by decide)⟩)
  have listed' : Lists ["gsk_c".toList] "\t,gsk_c\n" :=
    .entries [.blank "\t", .key "" "gsk_c" "\n"] (by
      simp only [List.forall_mem_cons, List.not_mem_nil, false_implies, implies_true, and_true]
      exact ⟨.blank (by decide),
        .key (by decide) (secret _ (by decide) (by decide) (by decide)) (by decide)⟩)
  obtain ⟨account, pool, found, built, secrets, -, -, turns⟩ := pool_ofEnvironment
    (onlySet [("GROQ_API_KEYS", " gsk_a ,,\u3000b"), ("GOOGLE_API_KEY", "\t,gsk_c\n")])
    listed rfl listed' (by decide)
  refine ⟨listed, listed', account, pool, found, built, secrets, ?_⟩
  exact (Option.some.inj (turns 4)).symm

end CodeWiki.Account
