import KeysetPaging.Policy
import KeysetPaging.Toml.Reader

/-!
# Settings in TOML

A settings document may set each setting once and nothing else; what it leaves out keeps its
standard value. The end test is named by a text, or by a table with its name as the only key and
nothing inside. Deployments enter the library here, and here it tells its version.
-/

namespace KeysetPaging

namespace Toml.Value

def word32? : Value → Option UInt32
  | .integer value => Text.Numeral.word32? value
  | _ => none

def text? : Value → Option String
  | .text content => some content
  | _ => none

def texts? : Value → Option (List String)
  | .list items => items.mapM text?
  | _ => none

/-- Whether a list or a table holds nothing. -/
def isVacant : Value → Bool
  | .list items => items.isEmpty
  | .table _ entries => entries.isEmpty
  | _ => false

def endTest? : Value → Option EndTest
  | .text content => EndTest.all.find? fun endTest => endTest.label == content
  | .table _ [(key, value)] =>
      if value.isVacant then EndTest.all.find? fun endTest => endTest.label == key else none
  | _ => none

end Toml.Value

namespace Settings

/-- Sets what one entry of a document sets. -/
def set? (settings : Settings) (key : String) (value : Toml.Value) : Option Settings :=
  if key = "max_query_size" then
    value.word32?.map fun maximumSize => { settings with maximumSize }
  else if key = "default_query_size" then
    value.word32?.map fun usualSize => { settings with usualSize }
  else if key = "cursor_field" then
    value.text?.map fun cursorField => { settings with cursorField }
  else if key = "order_fields" then
    value.texts?.map fun orderFields => { settings with orderFields }
  else if key = "end_detection" then
    value.endTest?.map fun endTest => { settings with endTest }
  else none

/-- The settings of a document, contradictory or not. -/
def ofToml? (document : String) : Option Settings :=
  (Toml.read document).bind fun entries =>
    entries.foldlM (fun settings entry => settings.set? entry.1 entry.2) standard

/-- The settings of a document, if they can be read and do not contradict themselves. -/
def load (document : String) : Except SettingsFault Settings :=
  match ofToml? document with
  | none => .error .unreadable
  | some settings => settings.check.map fun _ => settings

end Settings

/-- The policy of a settings document. -/
def Policy.load (document : String) : Except SettingsFault Policy :=
  (Settings.load document).bind Policy.ofSettings

/-- The version that the library reports of itself. -/
def version : String := "0.1.0"

end KeysetPaging
