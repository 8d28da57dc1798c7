import Compositor.Traffic.Pool

/-! # Errors of assets -/

namespace Compositor

/-- Why an asset cannot be had. -/
inductive AssetError where
  /-- A local file does not exist. -/
  | missing (path : String)
  | invalidUrl (url : String)
  /-- The server refused. -/
  | status (url : String) (code : Nat)
  /-- There was no answer; it may come another time if the error is transient. -/
  | request (url reason : String) (transient : Bool)
  /-- Downloads are not possible at all. -/
  | client (reason : String)
  | decode (reason : String)
  /-- A file could not be written. -/
  | io (path reason : String)
  /-- Downloads failed. -/
  | batch (error : BatchError)
deriving DecidableEq

namespace AssetError

/-- The error's text. -/
def message : AssetError → String
  | missing path => "Asset not found: " ++ path
  | invalidUrl url => "Invalid asset URL: " ++ url
  | status url code => "HTTP " ++ toString code ++ " fetching " ++ url
  | request url reason _ => "Request to " ++ url ++ " failed: " ++ reason
  | client reason => "HTTP client error: " ++ reason
  | decode reason => "Invalid embedded data: " ++ reason
  | io path reason => "I/O error at " ++ path ++ ": " ++ reason
  | batch error => "Asset download failed: " ++ error.message

/-- Another attempt may succeed: the server is busy or broken, or there was no
    answer. -/
def isTransient : AssetError → Bool
  | status _ code => code == 429 || decide (500 ≤ code)
  | request _ _ transient => transient
  | _ => false

end AssetError

end Compositor
