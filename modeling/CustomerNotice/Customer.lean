import CustomerNotice.Text.Quoted

/-!
Customers and the parts of them that a notice needs. The key that a customer carries never
appears in a debug text.
-/

namespace CustomerNotice

structure CustomerId where
  text : String
  deriving DecidableEq, Repr

structure CustomerEmail where
  text : String
  deriving DecidableEq, Repr

structure CustomerName where
  text : String
  deriving DecidableEq, Repr

structure ApiKey where
  secret : String
  deriving DecidableEq

def wrapped (label text : String) : String := label ++ "(" ++ text ++ ")"

def hiddenSecret : String := "Secret([REDACTED alloc::string::String])"

def CustomerId.debug (id : CustomerId) : String := wrapped "CustomerId" (Text.quoted id.text)

def CustomerEmail.debug (email : CustomerEmail) : String :=
  wrapped "CustomerEmail" (Text.quoted email.text)

def CustomerName.debug (name : CustomerName) : String :=
  wrapped "CustomerName" (Text.quoted name.text)

def ApiKey.debug (_ : ApiKey) : String := wrapped "ApiKey" hiddenSecret

/-- What a notice is made of: anyone with these can be notified. -/
structure Contact where
  email : CustomerEmail
  name : CustomerName
  apiKey : ApiKey
  deriving DecidableEq

structure Customer extends Contact where
  id : CustomerId
  deriving DecidableEq

namespace Customer

def new (id email name apiKey : String) : Customer where
  email := ⟨email⟩
  name := ⟨name⟩
  apiKey := ⟨apiKey⟩
  id := ⟨id⟩

def debug (customer : Customer) : String :=
  "Customer \x7b customer_id: " ++ customer.id.debug ++ ", email: " ++ customer.email.debug
    ++ ", customer_name: " ++ customer.name.debug ++ ", api_key: " ++ customer.apiKey.debug
    ++ " \x7d"

end Customer
end CustomerNotice
