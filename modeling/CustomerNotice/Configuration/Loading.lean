import CustomerNotice.Configuration.Layer
import CustomerNotice.Configuration.Reading

/-!
Loading a configuration: the file for all environments, the file of the environment and the
variables are put together in this order, and what they say is laid over the defaults.
-/

namespace CustomerNotice

namespace Configuration

/-- What holds where nothing else is said. -/
def default : Configuration where
  application := { name := "customer_notify", logLevel := "info" }
  customer :=
    { id := "123e4567-e89b-12d3-a456-426614174000"
      email := "customer@example.com"
      name := "John Doe"
      apiKey := "sk_live_abc123xyz789" }
  output := { revealApiKey := true }

def textTree (text : String) : Tree := .scalar none (.text text)

def toTree (configuration : Configuration) : Tree :=
  .table none
    [ ("application", .table none
        [ ("name", textTree configuration.application.name)
        , ("log_level", textTree configuration.application.logLevel) ])
    , ("customer", .table none
        [ ("customer_id", textTree configuration.customer.id)
        , ("email", textTree configuration.customer.email)
        , ("customer_name", textTree configuration.customer.name)
        , ("api_key", textTree configuration.customer.apiKey) ])
    , ("output", .table none
        [("reveal_api_key", .scalar none (.bool configuration.output.revealApiKey))]) ]

end Configuration

namespace Loading

def baseStem : String := "base"

/-- Puts the settings of a layer into a tree. -/
def apply (tree : Tree) (layer : Layer) : Except LoadFailure Tree :=
  (tree.assignAll layer).mapError .crashed

/-- What the three layers say together. Each is put in before the next is looked at. -/
def sources (directory : Directory) (environment : Environment) (exported : Variables) :
    Except LoadFailure Tree := do
  let tree ← apply .empty (← Layer.ofDirectory directory baseStem)
  let tree ← apply tree (← Layer.ofDirectory directory environment.name)
  apply tree (← (Layer.ofVariables exported).mapError .crashed)

/-- The sources over the defaults. -/
def settled (sources : Tree) : Tree := Configuration.default.toTree.merge sources.entries

def fromDirectory (directory : Directory) (environment : Environment) (exported : Variables) :
    Except LoadFailure Configuration := do
  let sources ← sources directory environment exported
  (Reading.configuration (settled sources)).mapError .rejected

/-- The configuration of the settings folder, for the environment that the variables name. -/
def fromSurroundings (files : Files) (exported : Variables) :
    Except LoadFailure Configuration :=
  if files.present then
    match Environment.detect exported with
    | .ok environment =>
        fromDirectory (files.directory Files.settingsFolder) environment exported
    | .error error => .error (.rejected (.environmentUnknown error))
  else .error (.rejected .directoryUnknown)

end Loading
end CustomerNotice
