import PromptPress.Alert.Basic
import PromptPress.Json.Printer
import PromptPress.Text.Blank
import PromptPress.Text.Quoted

/-!
# Webhooks

A webhook sends alerts of at least some severity to an address, one request for each.  What answers
there is a `Transport`.
-/

namespace PromptPress

open PromptPress.Text

/-- What comes back for a request. -/
inductive Reply where
  | response (status : Nat) (body : String)
  /-- No connection could be made. -/
  | unreachable (reason : String)
deriving DecidableEq, Inhabited

/-- An address that alerts are sent to. -/
structure Webhook where
  url : String
  /-- The least rank of alerts that are sent. -/
  minRank : Nat := 0
deriving DecidableEq, Inhabited

/-- Why an alert was not delivered. -/
inductive DeliveryError where
  /-- The severity has no rank. -/
  | unrankedSeverity (name : String)
  | refused (status : Nat) (body : String)
  | unreachable (url reason : String)
deriving DecidableEq, Inhabited

/-- The standard phrase of a response status; empty for a status without one. -/
def reasonPhrase : Nat → String
  | 100 => "Continue"
  | 101 => "Switching Protocols"
  | 102 => "Processing"
  | 103 => "Early Hints"
  | 200 => "OK"
  | 201 => "Created"
  | 202 => "Accepted"
  | 203 => "Non-Authoritative Information"
  | 204 => "No Content"
  | 205 => "Reset Content"
  | 206 => "Partial Content"
  | 207 => "Multi-Status"
  | 208 => "Already Reported"
  | 226 => "IM Used"
  | 300 => "Multiple Choices"
  | 301 => "Moved Permanently"
  | 302 => "Found"
  | 303 => "See Other"
  | 304 => "Not Modified"
  | 305 => "Use Proxy"
  | 307 => "Temporary Redirect"
  | 308 => "Permanent Redirect"
  | 400 => "Bad Request"
  | 401 => "Unauthorized"
  | 402 => "Payment Required"
  | 403 => "Forbidden"
  | 404 => "Not Found"
  | 405 => "Method Not Allowed"
  | 406 => "Not Acceptable"
  | 407 => "Proxy Authentication Required"
  | 408 => "Request Timeout"
  | 409 => "Conflict"
  | 410 => "Gone"
  | 411 => "Length Required"
  | 412 => "Precondition Failed"
  | 413 => "Request Entity Too Large"
  | 414 => "Request-URI Too Long"
  | 415 => "Unsupported Media Type"
  | 416 => "Requested Range Not Satisfiable"
  | 417 => "Expectation Failed"
  | 418 => "I'm a teapot"
  | 421 => "Misdirected Request"
  | 422 => "Unprocessable Entity"
  | 423 => "Locked"
  | 424 => "Failed Dependency"
  | 425 => "Too Early"
  | 426 => "Upgrade Required"
  | 428 => "Precondition Required"
  | 429 => "Too Many Requests"
  | 431 => "Request Header Fields Too Large"
  | 451 => "Unavailable For Legal Reasons"
  | 500 => "Internal Server Error"
  | 501 => "Not Implemented"
  | 502 => "Bad Gateway"
  | 503 => "Service Unavailable"
  | 504 => "Gateway Timeout"
  | 505 => "HTTP Version Not Supported"
  | 506 => "Variant Also Negotiates"
  | 507 => "Insufficient Storage"
  | 508 => "Loop Detected"
  | 510 => "Not Extended"
  | 511 => "Network Authentication Required"
  | _ => ""

/-- The message of an error. -/
def DeliveryError.message : DeliveryError → String
  | unrankedSeverity name => quotedString name
  | refused status body =>
    let detail := s!"{status} {reasonPhrase status}"
    let text := String.ofList (trim body.toList)
    "Alert webhook responded with error: " ++ (if text = "" then detail else s!"{detail}: {text}")
  | unreachable url reason => s!"Failed to reach alert webhook at {url}: {reason}"

/-- A request that carries an alert. -/
structure AlertRequest where
  url : String
  body : String
deriving DecidableEq, Inhabited

/-- The kind of content that requests carry and ask for. -/
def AlertRequest.mediaType : String := "application/json"

/-- The webhook that sends alerts of at least a severity. -/
def Webhook.create (url : String) (least : Severity) : Except DeliveryError Webhook :=
  match least.rank? with
  | some rank => .ok ⟨url, rank⟩
  | none => .error (.unrankedSeverity least.name)

/-- The request for an alert; none if the alert is not severe enough. -/
def Webhook.request (hook : Webhook) (alert : Alert) : Except DeliveryError (Option AlertRequest) :=
  match alert.severity.rank? with
  | none => .error (.unrankedSeverity alert.severity.name)
  | some rank =>
    .ok (if rank < hook.minRank then none
      else some ⟨hook.url, alert.toJson.compact⟩)

/-- What the reply to a request means for the delivery. -/
def AlertRequest.outcome (request : AlertRequest) : Reply → Except DeliveryError Unit
  | .response status body =>
    if 200 ≤ status && status < 300 then .ok () else .error (.refused status body)
  | .unreachable reason => .error (.unreachable request.url reason)

end PromptPress
