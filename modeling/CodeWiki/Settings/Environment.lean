import CodeWiki.Completion.Client
import CodeWiki.Settings.Basic
import CodeWiki.Text.Quoted

/-!
Credentials and models from the environment.
-/
namespace CodeWiki

/-- The credentials and the models of the backends. -/
structure Account where
  groqKeys : List Text := []
  geminiKeys : List Text := []
  groqModel : Text := "llama-3.3-70b-versatile"
  geminiModel : Text := "gemini-2.5-flash"
deriving DecidableEq, Repr

namespace Account

def allKeys (account : Account) : List Text := account.groqKeys ++ account.geminiKeys

def pool (account : Account) : Except SettingsError KeyPool :=
  match KeyPool.ofSecrets? account.allKeys with
  | some pool => .ok pool
  | none => .error .noCredentials

/-- The account as it may be shown: how many secrets there are, but none of them. -/
def masked (account : Account) : Text :=
  "ProviderSettings \x7b groq_keys: " ++ Text.ofNat account.groqKeys.length ++
    ", gemini_keys: " ++ Text.ofNat account.geminiKeys.length ++
    ", groq_model: " ++ Text.quoted account.groqModel ++
    ", gemini_model: " ++ Text.quoted account.geminiModel ++ " \x7d"

/-- The trimmed value of a variable, or a default if it is unset or blank. -/
def valueOr (value : Option Text) (default : Text) : Text :=
  match value.map Text.trim with
  | some (c :: rest) => c :: rest
  | _ => default

/-- What the keys for Groq are read from. A list of keys goes before a single key unless it is
blank. -/
def groqValue (lookup : Text → Option Text) : Option Text :=
  match lookup "GROQ_API_KEYS" with
  | some keys => if Text.isBlank keys then lookup "GROQ_API_KEY" else some keys
  | none => lookup "GROQ_API_KEY"

/-- The account that the environment describes if it has any keys. -/
def described (lookup : Text → Option Text) : Account where
  groqKeys := Credential.splitList ((groqValue lookup).getD [])
  geminiKeys := Credential.splitList ((lookup "GOOGLE_API_KEY").getD [])
  groqModel := valueOr (lookup "GROQ_MODEL") ({} : Account).groqModel
  geminiModel := valueOr (lookup "GEMINI_MODEL") ({} : Account).geminiModel

/-- The account that the environment describes, which has to have a key. -/
def ofEnvironment (lookup : Text → Option Text) : Except SettingsError Account :=
  if (described lookup).allKeys.isEmpty then .error .noCredentials else .ok (described lookup)

def client (account : Account) (settings : ScheduleSettings) : Client where
  groqModel := account.groqModel
  geminiModel := account.geminiModel
  temperature := settings.temperature
  timeoutSecs := settings.requestTimeoutSecs

end Account
end CodeWiki
