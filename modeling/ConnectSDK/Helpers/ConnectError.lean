import ConnectSDK.Foundation.JSON

/-! # Errors -/

namespace ConnectSDK

/-- What `%@` prints. How an array or a dictionary prints is left to
`collection`. -/
def JSON.description (collection : JSON → String) : Option JSON → String
  | none => "(null)"
  | some .null => "<null>"
  | some (.bool value) => if value then "1" else "0"
  | some (.number value) => toString value
  | some (.string value) => value
  | some value => collection value

inductive ConnectStatusCode where
  | error
  | tvError
  | certificateError
  | socketError
  | notSupported
  | argumentError
  | notConnected
deriving DecidableEq

def ConnectStatusCode.rawValue : ConnectStatusCode → Int
  | .error => 1000
  | .tvError => 1001
  | .certificateError => 1002
  | .socketError => 1003
  | .notSupported => 1100
  | .argumentError => 1101
  | .notConnected => 1102

structure NSError where
  code : Int
  localizedDescription : String
deriving DecidableEq

namespace ConnectError

def generateErrorWithCode (collection : JSON → String) (code : ConnectStatusCode)
    (details : Option JSON) : NSError where
  code := code.rawValue
  localizedDescription :=
    let printed := JSON.description collection details
    match code with
    | .tvError => "API error: " ++ printed
    | .certificateError => "Invalid server certificate"
    | .socketError => "Web Socket Error: " ++ printed
    | .notSupported => "This feature is not supported."
    | _ =>
        if details.isSome then "A generic error occured: " ++ printed
        else "A generic error occured"

end ConnectError

end ConnectSDK
