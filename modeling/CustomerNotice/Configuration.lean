import CustomerNotice.Customer

/-!
The configuration of a run, in three sections, and its debug text, in which the key is hidden.
-/

namespace CustomerNotice

structure ApplicationSettings where
  name : String
  logLevel : String
  deriving DecidableEq

structure CustomerSettings where
  id : String
  email : String
  name : String
  apiKey : String
  deriving DecidableEq

structure OutputSettings where
  revealApiKey : Bool
  deriving DecidableEq

structure Configuration where
  application : ApplicationSettings
  customer : CustomerSettings
  output : OutputSettings
  deriving DecidableEq

namespace CustomerSettings

def toCustomer (settings : CustomerSettings) : Customer :=
  .new settings.id settings.email settings.name settings.apiKey

end CustomerSettings

namespace Configuration

def boolText (value : Bool) : String := if value then "true" else "false"

def debug (configuration : Configuration) : String :=
  "Configuration \x7b application: ApplicationSettings \x7b name: "
    ++ Text.quoted configuration.application.name ++ ", log_level: "
    ++ Text.quoted configuration.application.logLevel
    ++ " \x7d, customer: CustomerSettings \x7b customer_id: "
    ++ Text.quoted configuration.customer.id ++ ", email: "
    ++ Text.quoted configuration.customer.email ++ ", customer_name: "
    ++ Text.quoted configuration.customer.name ++ ", api_key: " ++ hiddenSecret
    ++ " \x7d, output: OutputSettings \x7b reveal_api_key: "
    ++ boolText configuration.output.revealApiKey ++ " \x7d \x7d"

end Configuration
end CustomerNotice
