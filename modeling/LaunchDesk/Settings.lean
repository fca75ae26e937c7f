import LaunchDesk.Text.Blank
import LaunchDesk.Text.Infix

/-!
# Settings

Which platform a launch goes to, and with which key.
-/

namespace LaunchDesk

open Text

/-- A version of the platform. -/
inductive Version where
  | dev
  | test
  | release
  deriving DecidableEq, Repr

namespace Version

/-- Where a version of the platform is found. -/
def address : Version → String
  | dev => "https://open-dev.fedml.ai"
  | test => "https://open-test.fedml.ai"
  | release => "https://open.fedml.ai"

/-- The word for a version on the command line. -/
def word : Version → String
  | dev => "dev"
  | test => "test"
  | release => "release"

/-- The name of a version in the log. -/
def describe : Version → String
  | dev => "Dev"
  | test => "Test"
  | release => "Release"

/-- The version that a word stands for. -/
def ofWord? (word : String) : Option Version :=
  [dev, test, release].find? fun v => v.word == word

end Version

/-- The platform of a launch and the key to it. -/
structure Settings where
  /-- Where the platform is found. -/
  platformUrl : String
  /-- The key; it is not empty. -/
  apiKey : Option String
  /-- The version of the platform. -/
  version : Version
  deriving DecidableEq, Repr

/-- Why settings are of no use. -/
inductive SettingsError where
  /-- No address is given. -/
  | noAddress
  /-- The address is none of the web. -/
  | foreignAddress
  deriving DecidableEq, Repr

/-- The text of a settings error. -/
def SettingsError.message : SettingsError → String
  | noAddress => "platform_url cannot be empty"
  | foreignAddress => "platform_url must start with http:// or https://"

/-- Whether an address is one of the web. -/
def webAddress (url : String) : Bool :=
  startsWith "http://" url || startsWith "https://" url

namespace Settings

/-- The settings for an address, a version and a key, of which the first and the last may be
missing. An address that is given wins over the one of the version. -/
def resolve (platformUrl : Option String) (version : Version) (apiKey : Option String) :
    Settings where
  platformUrl := (platformUrl.filter fun url => !isBlankText url).getD version.address
  apiKey := apiKey.filter fun key => !key.isEmpty
  version := version

/-- The settings with another address. -/
def withAddress (s : Settings) (url : String) : Settings :=
  { s with platformUrl := url }

/-- The reason to refuse settings, if there is one. -/
def fault? (s : Settings) : Option SettingsError :=
  if s.platformUrl.isEmpty then some .noAddress
  else if webAddress s.platformUrl then none
  else some .foreignAddress

end Settings

end LaunchDesk
